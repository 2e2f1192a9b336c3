/-
Parsers for the unit strings of Trino's JSON, `tms/collector/units.py`: durations ("1.98s") and sizes ("8589934592B").

A text that cannot be understood is `none`, never an exception; a number too large for a float or for `int` of one is
the one thing that raises. A size is rounded to 53 bits as the code rounds it; a duration is exact.
-/
import Mathlib.Tactic
import TrinoManagement.Core.Number

namespace TrinoManagement.Collector

open TrinoManagement.Text

/-! ## Numbers with a unit -/

/-- `[0-9]*\.?[0-9]+` at the front of the text, as far as it goes -/
def scanMagnitude (cs : List Char) : Option (ℚ × List Char) :=
  let whole := cs.takeWhile Char.isDigit
  match cs.dropWhile Char.isDigit with
  | '.' :: rest =>
    let fraction := rest.takeWhile Char.isDigit
    if fraction = [] then none
    else some (digitsValue whole + digitsValue fraction / 10 ^ fraction.length, rest.dropWhile Char.isDigit)
  | rest => if whole = [] then none else some (digitsValue whole, rest)

/-- the pattern of both parsers: a magnitude and one of the units, with spaces around either -/
def matchUnits (units : List (String × ℚ)) (s : String) : Option (ℚ × ℚ) :=
  match scanMagnitude (stripChars s.toList) with
  | none => none
  | some (magnitude, rest) => (units.lookup (String.ofList (rest.dropWhile isSpace))).map (magnitude, ·)

def durationToMs : List (String × ℚ) :=
  [("ns", 1 / 1000000), ("us", 1 / 1000), ("ms", 1), ("s", 1000), ("m", 60000), ("h", 3600000), ("d", 86400000)]

def dataSizeToBytes : List (String × ℚ) :=
  [("B", 1), ("kB", 2 ^ 10), ("MB", 2 ^ 20), ("GB", 2 ^ 30), ("TB", 2 ^ 40), ("PB", 2 ^ 50), ("EB", 2 ^ 60)]

def parseDurationMs : Value → Except PyError (Option ℚ)
  | .int n => if overflows n then .error ⟨"OverflowError", "int too large to convert to float"⟩ else .ok (some n)
  | .float q => .ok (some q)
  | .str s => .ok ((matchUnits durationToMs s).map fun m => m.1 * m.2)
  | _ => .ok none

def parseDataSizeBytes : Value → Except PyError (Option ℤ)
  | .int n => .ok (some n)
  | .float q => .ok (some (truncate q))
  | .str s =>
    match matchUnits dataSizeToBytes s with
    | none => .ok none
    | some (magnitude, unit) =>
      if overflows (magnitude * unit) then .error ⟨"OverflowError", "cannot convert float infinity to integer"⟩
      -- the unit is a power of two, so that rounding the product rounds the magnitude
      else .ok (some (truncate (roundFloat (magnitude * unit))))
  | _ => .ok none

/-! ## Truncation -/

/-- `bytes.decode("utf-8", errors="ignore")`, `fuel` bytes at most -/
def decodeIgnore : ℕ → List UInt8 → List Char
  | 0, _ => []
  | _ + 1, [] => []
  | fuel + 1, b :: rest =>
    match (b :: rest).toByteArray.utf8DecodeChar? 0 with
    | some c => c :: decodeIgnore fuel (rest.drop (c.utf8Size - 1))
    | none => decodeIgnore fuel rest

/-- `truncate_utf8`: at most `maxBytes` bytes of the text, and whether it was cut -/
def truncateUtf8 (text : String) (maxBytes : ℤ) : String × Bool :=
  if maxBytes ≤ 0 then ("", text != "")
  else
    let encoded := text.toList.flatMap String.utf8EncodeChar
    if (encoded.length : ℤ) ≤ maxBytes then (text, false)
    else
      -- drop any partial trailing sequence
      let cut := (encoded.take maxBytes.toNat).rdropWhile fun b => b &&& 0xC0 == 0x80
      let cut := match cut.getLast? with
        | some b => if b &&& 0xC0 == 0xC0 then cut.dropLast else cut
        | none => cut
      (String.ofList (decodeIgnore cut.length cut), true)

end TrinoManagement.Collector
