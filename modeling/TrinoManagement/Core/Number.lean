/-
Python numbers as the program reads and prints them: `float` and `int` of a value, rounding, and fixed-point formatting. A
float is a rational, finite and exact unless it goes through `roundFloat`; an int too large for a float raises.
-/
import Mathlib.Tactic
import TrinoManagement.Core.Text
import TrinoManagement.Core.Value

namespace TrinoManagement

open TrinoManagement.Text

/-- the digits' value -/
def digitsValue (digits : List Char) : ℕ := digits.foldl (fun n c => 10 * n + (c.toNat - '0'.toNat)) 0

/-- beyond the largest float -/
def overflows (q : ℚ) : Bool := decide ((2 : ℚ) ^ 1024 - 2 ^ 970 ≤ |q|)

/-! ## Rounding -/

/-- to the nearest integer, ties to even -/
def roundHalfEven (q : ℚ) : ℤ :=
  let below := q.floor
  if q - below < 1 / 2 then below
  else if 1 / 2 < q - below then below + 1
  else if below % 2 = 0 then below else below + 1

/-- the exponent of the leading bit -/
def leadingBit (q : ℚ) : ℤ :=
  let near : ℤ := q.num.natAbs.log2 - q.den.log2
  if (2 : ℚ) ^ near ≤ |q| then near else near - 1

/-- the nearest float, ties to even: 53 bits, the last of them worth 2⁻¹⁰⁷⁴ or more; what `overflows` is infinite instead -/
def roundFloat (q : ℚ) : ℚ :=
  let unit : ℚ := 2 ^ max (leadingBit q - 52) (-1074)
  roundHalfEven (q / unit) * unit

/-- `int(n * pct / 100.0)`: the int becomes a float, and product and quotient are rounded -/
def percentOf (n : ℤ) (pct : ℚ) : Except PyError ℤ :=
  if overflows n then .error ⟨"OverflowError", "int too large to convert to float"⟩
  else if overflows (roundFloat n * pct) then .error ⟨"OverflowError", "cannot convert float infinity to integer"⟩
  else .ok (truncate (roundFloat (roundFloat (roundFloat n * pct) / 100)))

-- 2.4 is no float; the nearest is below it, and the product with 125 is rounded back up to 300
example : roundFloat (12 / 5) < 12 / 5 ∧ percentOf 125 (roundFloat (12 / 5)) = .ok 3 ∧ percentOf 125 2 = .ok 2 := by
  decide +kernel

/-! ## Reading -/

def scanSign : List Char → ℚ × List Char
  | '-' :: rest => (-1, rest)
  | '+' :: rest => (1, rest)
  | cs => (1, cs)

/-- the exponent, up to the end of the text -/
def scanExponent : List Char → Option ℤ
  | [] => some 0
  | e :: rest =>
    let (sign, digits) := scanSign rest
    if (e = 'e' ∨ e = 'E') ∧ digits ≠ [] ∧ digits.all Char.isDigit then some (truncate sign * digitsValue digits) else none

/-- a text without its underscores, which may stand between two digits only -/
def dropUnderscores : List Char → Option (List Char)
  | a :: '_' :: b :: rest => if a.isDigit && b.isDigit then (dropUnderscores (b :: rest)).map (a :: ·) else none
  | c :: rest => if c = '_' then none else (dropUnderscores rest).map (c :: ·)
  | [] => some []

/-- a decimal text of ASCII digits, exactly -/
def decimalOf (chars : List Char) : Option ℚ :=
  let (sign, cs) := scanSign chars
  let whole := cs.takeWhile Char.isDigit
  let (fraction, rest) := match cs.dropWhile Char.isDigit with
    | '.' :: rest => (rest.takeWhile Char.isDigit, rest.dropWhile Char.isDigit)
    | rest => ([], rest)
  if whole = [] ∧ fraction = [] then none
  else (scanExponent rest).map fun exponent =>
    sign * (digitsValue whole + digitsValue fraction / 10 ^ fraction.length) * 10 ^ exponent

/-- `float(s)` of a text in ASCII digits. `none` is a `ValueError`; the texts of NaN and of the infinities, which Python
reads, and other scripts' digits are no numbers here. -/
def floatOfString (s : String) : Option ℚ :=
  (dropUnderscores (stripChars s.toList)).bind fun chars => (decimalOf chars).bind fun q =>
    if overflows q then none else some (roundFloat q)

/-- `float(value)`: `none` stands for a `TypeError` or a `ValueError` -/
def Value.toFloat : Value → Except PyError (Option ℚ)
  | .bool b => .ok (some (if b then 1 else 0))
  | .int n => if overflows n then .error ⟨"OverflowError", "int too large to convert to float"⟩ else .ok (some n)
  | .float q => .ok (some q)
  | .str s => .ok (floatOfString s)
  | _ => .ok Option.none

/-- `int(s)` of a text in ASCII digits, with underscores between digits. `none` is a `ValueError`; other scripts' digits,
which Python reads, are no numbers here. -/
def intOfString (s : String) : Option ℤ :=
  let (sign, cs) := scanSign (stripChars s.toList)
  if (cs.splitOn '_').all fun digits => !digits.isEmpty && digits.all Char.isDigit then
    some (truncate sign * digitsValue (cs.filter (· ≠ '_')))
  else none

/-- `int(value)`: `none` stands for a `TypeError` or a `ValueError` -/
def Value.toInt : Value → Option ℤ
  | .bool b => some (if b then 1 else 0)
  | .int n => some n
  | .float q => some (truncate q)
  | .str s => intOfString s
  | _ => Option.none

theorem stripChars_of_none {l : List Char} (h : ∀ c ∈ l, isSpace c = false) : stripChars l = l := by
  have hdrop : l.dropWhile isSpace = l := by
    rw [List.dropWhile_eq_self_iff]
    intro hl
    simp [h _ (List.getElem_mem hl)]
  rw [stripChars, hdrop, List.rdropWhile_eq_self_iff]
  intro hl
  simp [h _ (List.getLast_mem hl)]

/-- a printed natural number is read back -/
theorem intOfString_toString (n : ℕ) : intOfString (toString n) = some (n : ℤ) := by
  have hdigit : ∀ c ∈ Nat.toDigits 10 n, c.isDigit = true := fun c hc => Nat.isDigit_of_mem_toDigits (by decide) (by decide) hc
  have hplain : ∀ c ∈ Nat.toDigits 10 n, isSpace c = false ∧ c ≠ '-' ∧ c ≠ '+' ∧ c ≠ '_' := by
    intro c hc
    obtain ⟨hlow, hhigh⟩ := isDigit_range (hdigit c hc)
    refine ⟨by simp [isSpace]; omega, ?_, ?_, ?_⟩ <;> rintro rfl <;> revert hlow hhigh <;> decide
  have hsign : scanSign (Nat.toDigits 10 n) = (1, Nat.toDigits 10 n) := by
    cases hcs : Nat.toDigits 10 n with
    | nil => rfl
    | cons c rest =>
      obtain ⟨-, hminus, hplus, -⟩ := hplain c (by rw [hcs]; exact List.mem_cons_self)
      rw [scanSign]
      · rintro rest' ⟨⟩
        exact hminus rfl
      · rintro rest' ⟨⟩
        exact hplus rfl
  have hsplit : (Nat.toDigits 10 n).splitOn '_' = [Nat.toDigits 10 n] := by
    rw [List.splitOn, List.splitOnP_eq_singleton]
    intro c hc
    simpa using (hplain c hc).2.2.2
  have hkept : (Nat.toDigits 10 n).filter (fun c => decide (c ≠ '_')) = Nat.toDigits 10 n := by
    rw [List.filter_eq_self]
    intro c hc
    simpa using (hplain c hc).2.2.2
  have hall : (Nat.toDigits 10 n).all Char.isDigit = true := List.all_eq_true.2 hdigit
  have hvalue : digitsValue (Nat.toDigits 10 n) = n := by
    rw [digitsValue, ← Nat.ofDigitChars_eq_foldl, Nat.ofDigitChars_ten_toDigits]
  simp only [intOfString, Nat.toString_eq_ofList_toDigits, String.toList_ofList, stripChars_of_none fun c hc => (hplain c hc).1,
    hsign, hsplit, hkept, hvalue]
  have hone : truncate 1 = 1 := truncate_intCast 1
  simp [hall, Nat.toDigits_ne_nil, hone]

/-! ## Printing -/

/-- `round(q, digits)` -/
def roundTo (digits : ℕ) (q : ℚ) : ℚ := roundHalfEven (q * 10 ^ digits) / 10 ^ digits

/-- `"{:.<digits>f}".format(q)` -/
def fixed (digits : ℕ) (q : ℚ) : String :=
  let scaled := (roundHalfEven (|q| * 10 ^ digits)).toNat
  let fraction := toString (scaled % 10 ^ digits)
  (if q < 0 then "-" else "") ++ toString (scaled / 10 ^ digits) ++
    if digits = 0 then "" else "." ++ String.ofList (List.replicate (digits - fraction.length) '0') ++ fraction

example : fixed 1 (5 / 4) = "1.2" ∧ fixed 0 (199 / 2) = "100" ∧ floatOfString " 1_5.0e1 " = some 150 ∧
    intOfString " -1_000 " = some (-1000) := by decide +kernel

end TrinoManagement
