/-
JSON as Python's `json` prints and reads it, with the defaults: beyond ASCII everything is escaped, and commas and colons are
followed by a space.

A number is kept as its literal, and an object as its pairs in order, the same key twice included.
- `parse_print`: what is printed is read back.
- `lex_parse`: a text that can be read ends outside its strings, and has nothing there but what JSON has outside strings.
-/
import Mathlib.Tactic
import TrinoManagement.Core.Decoded
import TrinoManagement.Core.Dict

namespace TrinoManagement.JsonText

/-! ## Numbers -/

def dropSign : List Char → List Char
  | '+' :: rest | '-' :: rest => rest
  | rest => rest

def isExponent : List Char → Bool
  | [] => true
  | e :: rest => (e == 'e' || e == 'E') && dropSign rest != [] && (dropSign rest).all Char.isDigit

def isFraction : List Char → Bool
  | '.' :: rest => rest.takeWhile Char.isDigit != [] && isExponent (rest.dropWhile Char.isDigit)
  | rest => isExponent rest

/-- `-?(0|[1-9]\d*)(\.\d+)?([eE][-+]?\d+)?` -/
def isNumber (cs : List Char) : Bool :=
  let digits := if cs.head? = some '-' then cs.tail else cs
  let whole := digits.takeWhile Char.isDigit
  (whole == ['0'] || whole != [] && whole.head? != some '0') && isFraction (digits.dropWhile Char.isDigit)

/-- the numbers that JSON does not have -/
def specials : List (List Char) := ["NaN".toList, "Infinity".toList, "-Infinity".toList]

abbrev Literal := {cs : List Char // cs ∈ specials ∨ isNumber cs = true}

/-! ## Values -/

inductive Tree where
  | null
  | bool (b : Bool)
  | num (literal : Literal)
  | str (s : String)
  | list (items : List Tree)
  | dict (fields : List (String × Tree))

/-! ## Printing -/

def hexDigit (n : ℕ) : Char := "0123456789abcdef".toList.getD n '0'

def unicodeEscape (n : ℕ) : List Char :=
  ['\\', 'u', hexDigit (n / 4096 % 16), hexDigit (n / 256 % 16), hexDigit (n / 16 % 16), hexDigit (n % 16)]

def shortEscape (c : Char) : Option Char :=
  [('"', '"'), ('\\', '\\'), ('\n', 'n'), ('\r', 'r'), ('\t', 't'), ('\x0c', 'f'), ('\x08', 'b')].lookup c

/-- a character beyond the sixteen bits of an escape is two of them -/
def escapeChar (c : Char) : List Char :=
  match shortEscape c with
  | some e => ['\\', e]
  | none =>
    if 32 ≤ c.toNat ∧ c.toNat ≤ 126 then [c]
    else if c.toNat < 0x10000 then unicodeEscape c.toNat
    else unicodeEscape (0xD800 + (c.toNat - 0x10000) / 1024) ++ unicodeEscape (0xDC00 + (c.toNat - 0x10000) % 1024)

def escape (cs : List Char) : List Char := cs.flatMap escapeChar

def quoted (s : String) : List Char := '"' :: escape s.toList ++ ['"']

mutual

/-- `json.dumps` -/
def print : Tree → List Char
  | .null => "null".toList
  | .bool b => if b then "true".toList else "false".toList
  | .num literal => literal.1
  | .str s => quoted s
  | .list [] => ['[', ']']
  | .list (t :: ts) => '[' :: (print t ++ printItems ts)
  | .dict [] => ['\x7b', '\x7d']
  | .dict (f :: fs) => '\x7b' :: (printField f ++ printFields fs)

def printItems : List Tree → List Char
  | [] => [']']
  | t :: ts => ',' :: ' ' :: (print t ++ printItems ts)

def printField : String × Tree → List Char
  | (key, t) => quoted key ++ ':' :: ' ' :: print t

def printFields : List (String × Tree) → List Char
  | [] => ['\x7d']
  | f :: fs => ',' :: ' ' :: (printField f ++ printFields fs)

end

/-! ## Reading -/

def hexValue (c : Char) : Option ℕ :=
  if c.isDigit then some (c.toNat - '0'.toNat)
  else if 'a' ≤ c ∧ c ≤ 'f' then some (c.toNat - 'a'.toNat + 10)
  else if 'A' ≤ c ∧ c ≤ 'F' then some (c.toNat - 'A'.toNat + 10)
  else none

def hexValue4 (a b c d : Char) : Option ℕ := do
  some (((← hexValue a) * 16 + (← hexValue b)) * 256 + ((← hexValue c) * 16 + (← hexValue d)))

/-- what `\uXXXX` stands for -/
def codeUnit (n : ℕ) : CodePoint :=
  if 0xD800 ≤ n ∧ n < 0xE000 then .surrogate (Fin.ofNat 2048 (n - 0xD800)) else .char (Char.ofNat n)

def longEscape (e : Char) : Option Char :=
  [('"', '"'), ('\\', '\\'), ('/', '/'), ('n', '\n'), ('r', '\r'), ('t', '\t'), ('f', '\x0c'), ('b', '\x08')].lookup e

/-- a string up to its closing quote, and what follows it -/
def scanString : List Char → Option (List CodePoint × List Char)
  | [] => none
  | '"' :: rest => some ([], rest)
  | '\\' :: 'u' :: a :: b :: c :: d :: rest => do
    let n ← hexValue4 a b c d
    let (cs, rest) ← scanString rest
    some (codeUnit n :: cs, rest)
  | '\\' :: e :: rest => do
    let c ← longEscape e
    let (cs, rest) ← scanString rest
    some (.char c :: cs, rest)
  | c :: rest =>
    if c.toNat < 32 ∨ c = '\\' then none
    else do
      let (cs, rest) ← scanString rest
      some (.char c :: cs, rest)

/-- two halves of a surrogate pair, the high one first, are one character -/
def joinPairs : List CodePoint → List CodePoint
  | .surrogate high :: .surrogate low :: rest =>
    if high.1 < 1024 ∧ 1024 ≤ low.1 then .char (Char.ofNat (0x10000 + high.1 * 1024 + (low.1 - 1024))) :: joinPairs rest
    else .surrogate high :: joinPairs (.surrogate low :: rest)
  | c :: rest => c :: joinPairs rest
  | [] => []

def isBlank (c : Char) : Bool := c == ' ' || c == '\t' || c == '\n' || c == '\r'

def skip (text : List Char) : List Char := text.dropWhile isBlank

def isNumberChar (c : Char) : Bool := c.isDigit || c == '-' || c == '+' || c == '.' || c == 'e' || c == 'E'

/-- the words that stand for values -/
def constants : List (List Char × Tree) :=
  [("null".toList, .null), ("true".toList, .bool true), ("false".toList, .bool false),
    ("NaN".toList, .num ⟨"NaN".toList, by decide⟩), ("Infinity".toList, .num ⟨"Infinity".toList, by decide⟩),
    ("-Infinity".toList, .num ⟨"-Infinity".toList, by decide⟩)]

/-- a word or a number -/
def scanScalar (text : List Char) : Option (Tree × List Char) :=
  match constants.find? fun x => x.1.isPrefixOf text with
  | some (word, t) => some (t, text.drop word.length)
  | none =>
    let literal := text.takeWhile isNumberChar
    if h : isNumber literal = true then some (.num ⟨literal, .inr h⟩, text.dropWhile isNumberChar) else none

section Reading

variable (half : Fin 2048 → Char)

/-- the text; `half` stands for a half of a surrogate pair that is by itself, which is in no text here -/
def textOf (cs : List CodePoint) : String :=
  String.ofList ((joinPairs cs).map fun
    | .char c => c
    | .surrogate unit => half unit)

mutual

/-- a value at the front of the text, and what follows it; `fuel` bounds the depth and the number of items -/
def scanValue : ℕ → List Char → Option (Tree × List Char)
  | 0, _ => none
  | fuel + 1, text =>
    match text with
    | '"' :: rest => (scanString rest).map fun x => (.str (textOf half x.1), x.2)
    | '[' :: rest =>
      match skip rest with
      | ']' :: rest => some (.list [], rest)
      | rest => do
        let (t, rest) ← scanValue fuel rest
        let (ts, rest) ← scanItems fuel rest
        some (.list (t :: ts), rest)
    | '\x7b' :: rest =>
      match skip rest with
      | '\x7d' :: rest => some (.dict [], rest)
      | rest => do
        let (f, rest) ← scanField fuel rest
        let (fs, rest) ← scanFields fuel rest
        some (.dict (f :: fs), rest)
    | text => scanScalar text

def scanItems : ℕ → List Char → Option (List Tree × List Char)
  | 0, _ => none
  | fuel + 1, text =>
    match skip text with
    | ']' :: rest => some ([], rest)
    | ',' :: rest => do
      let (t, rest) ← scanValue fuel (skip rest)
      let (ts, rest) ← scanItems fuel rest
      some (t :: ts, rest)
    | _ => none

def scanField : ℕ → List Char → Option ((String × Tree) × List Char)
  | 0, _ => none
  | fuel + 1, text =>
    match text with
    | '"' :: rest => do
      let (key, rest) ← scanString rest
      match skip rest with
      | ':' :: rest => do
        let (t, rest) ← scanValue fuel (skip rest)
        some ((textOf half key, t), rest)
      | _ => none
    | _ => none

def scanFields : ℕ → List Char → Option (List (String × Tree) × List Char)
  | 0, _ => none
  | fuel + 1, text =>
    match skip text with
    | '\x7d' :: rest => some ([], rest)
    | ',' :: rest => do
      let (f, rest) ← scanField fuel (skip rest)
      let (fs, rest) ← scanFields fuel rest
      some (f :: fs, rest)
    | _ => none

end

/-- `json.loads`; every step takes a character at least, so there is fuel for all of them -/
def parse (text : List Char) : Option Tree :=
  match scanValue half (text.length + 1) (skip text) with
  | some (t, rest) => if skip rest = [] then some t else none
  | none => none

end Reading

/-! ## What is printed is read back -/

section Strings

theorem hexValue_hexDigit {n : ℕ} (h : n < 16) : hexValue (hexDigit n) = some n := by
  interval_cases n <;> decide

theorem hexValue4_hexDigit {n : ℕ} (h : n < 65536) :
    hexValue4 (hexDigit (n / 4096 % 16)) (hexDigit (n / 256 % 16)) (hexDigit (n / 16 % 16)) (hexDigit (n % 16)) = some n := by
  unfold hexValue4
  rw [hexValue_hexDigit (Nat.mod_lt _ (by decide)), hexValue_hexDigit (Nat.mod_lt _ (by decide)),
    hexValue_hexDigit (Nat.mod_lt _ (by decide)), hexValue_hexDigit (Nat.mod_lt _ (by decide))]
  simp only [Option.bind_eq_bind, Option.bind_some, Option.some.injEq]
  omega

/-- what a string has for a character: itself, or two halves -/
def codePoints (c : Char) : List CodePoint :=
  if c.toNat < 0x10000 then [.char c]
  else [.surrogate (Fin.ofNat 2048 ((c.toNat - 0x10000) / 1024)), .surrogate (Fin.ofNat 2048 (1024 + (c.toNat - 0x10000) % 1024))]

theorem scanString_unicodeEscape {n : ℕ} (h : n < 65536) (rest : List Char) :
    scanString (unicodeEscape n ++ rest) = (scanString rest).map fun x => (codeUnit n :: x.1, x.2) := by
  rw [unicodeEscape]
  simp only [List.cons_append, List.nil_append]
  rw [scanString, hexValue4_hexDigit h]
  cases scanString rest <;> rfl

/-- the escapes of one letter, read back -/
theorem longEscape_shortEscape {c e : Char} (h : shortEscape c = some e) :
    longEscape e = some c ∧ e ≠ 'u' ∧ c.toNat < 0x10000 := by
  have hmem := Assoc.mem_of_lookup h
  simp only [List.mem_cons, Prod.mk.injEq, List.not_mem_nil, or_false] at hmem
  rcases hmem with ⟨rfl, rfl⟩ | ⟨rfl, rfl⟩ | ⟨rfl, rfl⟩ | ⟨rfl, rfl⟩ | ⟨rfl, rfl⟩ | ⟨rfl, rfl⟩ | ⟨rfl, rfl⟩ <;> decide

theorem ne_of_shortEscape {c : Char} (h : shortEscape c = none) : c ≠ '"' ∧ c ≠ '\\' := by
  constructor <;> rintro rfl <;> simp [shortEscape] at h

theorem codeUnit_toNat (c : Char) : codeUnit c.toNat = .char c := by
  have hvalid : ¬ (0xD800 ≤ c.toNat ∧ c.toNat < 0xE000) := by
    have := c.valid
    simp only [UInt32.isValidChar, Nat.isValidChar] at this
    have heq : c.val.toNat = c.toNat := rfl
    omega
  rw [codeUnit, if_neg hvalid, Char.ofNat_toNat]

theorem codeUnit_surrogate {n : ℕ} (h : n < 2048) : codeUnit (0xD800 + n) = .surrogate (Fin.ofNat 2048 n) := by
  rw [codeUnit, if_pos (by omega), Nat.add_sub_cancel_left]

theorem toNat_lt (c : Char) : c.toNat < 0x110000 := by
  have := c.valid
  simp only [UInt32.isValidChar, Nat.isValidChar] at this
  have heq : c.val.toNat = c.toNat := rfl
  omega

theorem scanString_escapeChar (c : Char) (rest : List Char) :
    scanString (escapeChar c ++ rest) = (scanString rest).map fun x => (codePoints c ++ x.1, x.2) := by
  unfold escapeChar
  cases hshort : shortEscape c with
  | some e =>
    obtain ⟨hlong, hne, hsmall⟩ := longEscape_shortEscape hshort
    dsimp only
    rw [List.cons_append, List.singleton_append, scanString, hlong, codePoints, if_pos hsmall]
    · cases scanString rest <;> rfl
    · exact fun _ _ _ _ _ he _ => hne he
  | none =>
    obtain ⟨hquote, hslash⟩ := ne_of_shortEscape hshort
    dsimp only
    split_ifs with hplain hbmp
    · have hscan : ¬ (c.toNat < 32 ∨ c = '\\') := not_or.2 ⟨not_lt.2 hplain.1, hslash⟩
      have hsmall : c.toNat < 0x10000 := by omega
      rw [List.singleton_append, scanString, if_neg hscan, codePoints, if_pos hsmall]
      · cases scanString rest <;> rfl
      · exact hquote
      · exact fun _ _ _ _ _ hc _ => hslash hc
      · exact fun _ _ hc _ => hslash hc
    · rw [scanString_unicodeEscape hbmp, codeUnit_toNat, codePoints, if_pos hbmp]
      rfl
    · have hmax := toNat_lt c
      rw [List.append_assoc, scanString_unicodeEscape (by omega), scanString_unicodeEscape (by omega),
        codeUnit_surrogate (by omega), codePoints, if_neg hbmp]
      have hlow : 0xDC00 + (c.toNat - 0x10000) % 1024 = 0xD800 + (1024 + (c.toNat - 0x10000) % 1024) := by omega
      rw [hlow, codeUnit_surrogate (by omega)]
      cases scanString rest <;> rfl

theorem scanString_escape (cs : List Char) (rest : List Char) :
    scanString (escape cs ++ '"' :: rest) = some (cs.flatMap codePoints, rest) := by
  induction cs with
  | nil => rfl
  | cons c cs ih =>
    rw [escape, List.flatMap_cons, List.append_assoc, scanString_escapeChar]
    rw [escape] at ih
    rw [ih]
    rfl

theorem joinPairs_codePoints (cs : List Char) : joinPairs (cs.flatMap codePoints) = cs.map .char := by
  induction cs with
  | nil => rfl
  | cons c cs ih =>
    rw [List.flatMap_cons, List.map_cons, codePoints]
    split_ifs with h
    · rw [List.singleton_append, joinPairs, ih]
      exact fun _ _ _ hc _ => by cases hc
    · have hmax := toNat_lt c
      have hhigh : (Fin.ofNat 2048 ((c.toNat - 0x10000) / 1024)).1 = (c.toNat - 0x10000) / 1024 := Nat.mod_eq_of_lt (by omega)
      have hlow : (Fin.ofNat 2048 (1024 + (c.toNat - 0x10000) % 1024)).1 = 1024 + (c.toNat - 0x10000) % 1024 :=
        Nat.mod_eq_of_lt (by omega)
      have hchar : 0x10000 + (c.toNat - 0x10000) / 1024 * 1024 + (1024 + (c.toNat - 0x10000) % 1024 - 1024) = c.toNat := by
        omega
      rw [List.cons_append, List.singleton_append, joinPairs, hhigh, hlow, if_pos (by omega), ih, hchar, Char.ofNat_toNat]

theorem textOf_codePoints (half : Fin 2048 → Char) (s : String) : textOf half (s.toList.flatMap codePoints) = s := by
  rw [textOf, joinPairs_codePoints, List.map_map]
  exact (congrArg String.ofList (List.map_id _)).trans String.ofList_toList

end Strings

section Scalars

/-- no number goes on here -/
def Ends (rest : List Char) : Prop := ∀ c, rest.head? = some c → isNumberChar c = false

theorem isNumberChar_of_isDigit {c : Char} (h : c.isDigit = true) : isNumberChar c = true := by simp [isNumberChar, h]

theorem mem_dropSign {cs : List Char} {c : Char} (h : c ∈ cs) : c = '+' ∨ c = '-' ∨ c ∈ dropSign cs := by
  unfold dropSign
  split
  · rcases List.mem_cons.1 h with h | h
    · exact .inl h
    · exact .inr (.inr h)
  · rcases List.mem_cons.1 h with h | h
    · exact .inr (.inl h)
    · exact .inr (.inr h)
  · exact .inr (.inr h)

theorem isExponent_chars {cs : List Char} (h : isExponent cs = true) : ∀ c ∈ cs, isNumberChar c = true := by
  intro c hc
  cases cs with
  | nil => cases hc
  | cons e rest =>
    simp only [isExponent, Bool.and_eq_true, Bool.or_eq_true, beq_iff_eq, List.all_eq_true] at h
    rcases List.mem_cons.1 hc with rfl | hc
    · rcases h.1.1 with rfl | rfl <;> rfl
    · rcases mem_dropSign hc with rfl | rfl | hdigit
      · rfl
      · rfl
      · exact isNumberChar_of_isDigit (h.2 c hdigit)

/-- digits, and what is made of numbers after them -/
theorem chars_of_digits {cs : List Char} (h : ∀ c ∈ cs.dropWhile Char.isDigit, isNumberChar c = true) :
    ∀ c ∈ cs, isNumberChar c = true := by
  intro c hc
  rw [← List.takeWhile_append_dropWhile (p := Char.isDigit) (l := cs)] at hc
  rcases List.mem_append.1 hc with hc | hc
  · exact isNumberChar_of_isDigit (List.mem_takeWhile_imp hc)
  · exact h c hc

theorem isFraction_chars {cs : List Char} (h : isFraction cs = true) : ∀ c ∈ cs, isNumberChar c = true := by
  unfold isFraction at h
  split at h
  · rw [Bool.and_eq_true] at h
    intro c hc
    rcases List.mem_cons.1 hc with rfl | hc
    · rfl
    · exact chars_of_digits (isExponent_chars h.2) c hc
  · exact isExponent_chars h

theorem isNumber_chars {cs : List Char} (h : isNumber cs = true) : ∀ c ∈ cs, isNumberChar c = true := by
  unfold isNumber at h
  rw [Bool.and_eq_true] at h
  have hdigits := chars_of_digits (isFraction_chars h.2)
  split_ifs at hdigits with hminus
  · intro c hc
    rw [← List.cons_head?_tail hminus] at hc
    rcases List.mem_cons.1 hc with rfl | hc
    · rfl
    · exact hdigits c hc
  · exact hdigits

/-- a number begins with a digit, or a minus and a digit -/
theorem isNumber_head {cs : List Char} (h : isNumber cs = true) :
    ∃ d rest, d.isDigit = true ∧ (cs = d :: rest ∨ cs = '-' :: d :: rest) := by
  have hhead : ∀ digits : List Char, digits.takeWhile Char.isDigit ≠ [] → ∃ d rest, d.isDigit = true ∧ digits = d :: rest := by
    intro digits hne
    cases digits with
    | nil => exact absurd rfl hne
    | cons d rest =>
      by_cases hd : d.isDigit = true
      · exact ⟨d, rest, hd, rfl⟩
      · exact absurd (List.takeWhile_cons_of_neg hd) hne
  unfold isNumber at h
  rw [Bool.and_eq_true, Bool.or_eq_true] at h
  have hwhole : (if cs.head? = some '-' then cs.tail else cs).takeWhile Char.isDigit ≠ [] := by
    rcases h.1 with hzero | hother
    · rw [beq_iff_eq.1 hzero]
      simp
    · simpa using (Bool.and_eq_true_iff.1 hother).1
  obtain ⟨d, rest, hd, heq⟩ := hhead _ hwhole
  refine ⟨d, rest, hd, ?_⟩
  split_ifs at heq with hminus
  · rw [← List.cons_head?_tail hminus, heq]
    exact .inr rfl
  · exact .inl heq

theorem takeWhile_append_ends {cs rest : List Char} (h : ∀ c ∈ cs, isNumberChar c = true) (hends : Ends rest) :
    (cs ++ rest).takeWhile isNumberChar = cs ∧ (cs ++ rest).dropWhile isNumberChar = rest := by
  rw [List.takeWhile_append_of_pos h, List.dropWhile_append_of_pos h]
  cases rest with
  | nil => simp
  | cons c rest =>
    have hc : ¬ isNumberChar c = true := by simp [hends c rfl]
    rw [List.takeWhile_cons_of_neg hc, List.dropWhile_cons_of_neg hc]
    simp

/-- no word begins with a digit, or a minus and a digit -/
theorem constants_of_digit {d : Char} {rest : List Char} (hd : d.isDigit = true) :
    (constants.find? fun x => x.1.isPrefixOf (d :: rest)) = none ∧
      (constants.find? fun x => x.1.isPrefixOf ('-' :: d :: rest)) = none := by
  have hne : ∀ c : Char, c.isDigit = false → (c == d) = false := by
    intro c hc
    rw [beq_eq_false_iff_ne]
    rintro rfl
    rw [hd] at hc
    cases hc
  constructor
  · simp [constants, List.isPrefixOf, hne]
  · simp [constants, List.isPrefixOf, hne]

theorem scanScalar_number {cs : List Char} (h : isNumber cs = true) {rest : List Char} (hends : Ends rest) :
    scanScalar (cs ++ rest) = some (.num ⟨cs, .inr h⟩, rest) := by
  obtain ⟨htake, hdrop⟩ := takeWhile_append_ends (isNumber_chars h) hends
  obtain ⟨d, digits, hd, hcs⟩ := isNumber_head h
  have hnone : (constants.find? fun x => x.1.isPrefixOf (cs ++ rest)) = none := by
    rcases hcs with rfl | rfl
    · exact (constants_of_digit hd).1
    · exact (constants_of_digit hd).2
  have hliteral : isNumber ((cs ++ rest).takeWhile isNumberChar) = true := by rwa [htake]
  unfold scanScalar
  rw [hnone]
  dsimp only
  rw [dif_pos hliteral]
  simp only [htake, hdrop]

theorem scanScalar_literal (literal : Literal) {rest : List Char} (hends : Ends rest) :
    scanScalar (literal.1 ++ rest) = some (.num literal, rest) := by
  obtain ⟨cs, hcs⟩ := literal
  by_cases hnumber : isNumber cs = true
  · exact scanScalar_number hnumber hends
  · have hspecial := hcs.resolve_right hnumber
    simp only [specials, List.mem_cons, List.not_mem_nil, or_false] at hspecial
    rcases hspecial with rfl | rfl | rfl <;> rfl

end Scalars

section Values

variable {half : Fin 2048 → Char}

theorem literal_head (literal : Literal) :
    ∃ c cs, literal.1 = c :: cs ∧ (c.isDigit = true ∨ c = '-' ∨ c = 'N' ∨ c = 'I') := by
  obtain ⟨cs, hcs⟩ := literal
  rcases hcs with hspecial | hnumber
  · simp only [specials, List.mem_cons, List.not_mem_nil, or_false] at hspecial
    rcases hspecial with rfl | rfl | rfl <;> exact ⟨_, _, rfl, by decide⟩
  · obtain ⟨d, rest, hd, rfl | rfl⟩ := isNumber_head hnumber
    · exact ⟨d, rest, rfl, .inl hd⟩
    · exact ⟨'-', d :: rest, rfl, .inr (.inl rfl)⟩

/-- what a printed value begins with -/
theorem print_head (t : Tree) : ∃ c cs, print t = c :: cs ∧ isBlank c = false ∧ c ≠ ']' := by
  cases t with
  | null => exact ⟨_, _, rfl, by decide⟩
  | bool b => cases b <;> exact ⟨_, _, rfl, by decide⟩
  | num literal =>
    obtain ⟨c, cs, hcs, hc⟩ := literal_head literal
    refine ⟨c, cs, hcs, ?_, ?_⟩
    · rcases hc with hdigit | rfl | rfl | rfl
      · cases hblank : isBlank c with
        | false => rfl
        | true =>
          simp only [isBlank, Bool.or_eq_true, beq_iff_eq] at hblank
          rcases hblank with ((rfl | rfl) | rfl) | rfl <;> cases hdigit
      all_goals rfl
    · rintro rfl
      revert hc
      decide
  | str s => exact ⟨_, _, rfl, by decide⟩
  | list items => cases items <;> exact ⟨_, _, rfl, by decide⟩
  | dict fields => cases fields <;> exact ⟨_, _, rfl, by decide⟩

theorem skip_print (t : Tree) (rest : List Char) : skip (print t ++ rest) = print t ++ rest := by
  obtain ⟨c, cs, hprint, hblank, -⟩ := print_head t
  rw [hprint, List.cons_append, skip, List.dropWhile_cons_of_neg (by simp [hblank])]

/-- nothing that ends a number comes after an item or a field -/
theorem ends_printItems (ts : List Tree) (rest : List Char) : Ends (printItems ts ++ rest) := by
  cases ts <;> (intro c hc; cases hc; rfl)

theorem ends_printFields (fs : List (String × Tree)) (rest : List Char) : Ends (printFields fs ++ rest) := by
  cases fs <;> (intro c hc; cases hc; rfl)

theorem fuel_succ {c : Char} {cs : List Char} {fuel : ℕ} (h : (c :: cs).length ≤ fuel) : ∃ n, fuel = n + 1 ∧ cs.length ≤ n := by
  cases fuel with
  | zero => exact absurd h (by simp)
  | succ n => exact ⟨n, rfl, Nat.le_of_succ_le_succ h⟩

theorem scanValue_scalar {n : ℕ} {c : Char} {cs : List Char} (hquote : c ≠ '"') (hlist : c ≠ '[') (hdict : c ≠ '\x7b') :
    scanValue half (n + 1) (c :: cs) = scanScalar (c :: cs) := by
  unfold scanValue
  split
  · next heq => cases heq; exact absurd rfl hquote
  · next heq => cases heq; exact absurd rfl hlist
  · next heq => cases heq; exact absurd rfl hdict
  · rfl

theorem scanValue_list {n : ℕ} {t : Tree} {rest : List Char} :
    scanValue half (n + 1) ('[' :: (print t ++ rest)) = (scanValue half n (print t ++ rest)).bind fun x =>
      (scanItems half n x.2).map fun y => (.list (x.1 :: y.1), y.2) := by
  obtain ⟨c, cs, hprint, -, hc⟩ := print_head t
  rw [scanValue, skip_print]
  split
  · next heq =>
    rw [hprint] at heq
    cases heq
    exact absurd rfl hc
  · generalize scanValue half n _ = scanned
    cases scanned with
    | none => rfl
    | some x => cases hitems : scanItems half n x.2 <;> simp [hitems]

theorem skip_space (rest : List Char) : skip (' ' :: rest) = skip rest := rfl

theorem quoted_append (s : String) (rest : List Char) : quoted s ++ rest = '"' :: (escape s.toList ++ '"' :: rest) := by
  rw [quoted, List.cons_append, List.cons_append, List.append_assoc, List.singleton_append]

theorem skip_printField (f : String × Tree) (rest : List Char) : skip (printField f ++ rest) = printField f ++ rest := by
  obtain ⟨key, t⟩ := f
  rw [printField, List.append_assoc, quoted_append]
  rfl

theorem scanValue_dict {n : ℕ} {f : String × Tree} {rest : List Char} :
    scanValue half (n + 1) ('\x7b' :: (printField f ++ rest)) = (scanField half n (printField f ++ rest)).bind fun x =>
      (scanFields half n x.2).map fun y => (.dict (x.1 :: y.1), y.2) := by
  obtain ⟨key, t⟩ := f
  rw [scanValue, skip_printField, printField, List.append_assoc, quoted_append]
  split
  · next heq => cases heq
  · generalize scanField half n _ = scanned
    cases scanned with
    | none => rfl
    | some x => cases hfields : scanFields half n x.2 <;> simp [hfields]

/-- a key, and a value after it -/
theorem scanField_quoted {n : ℕ} {key : String} {rest : List Char} :
    scanField half (n + 1) (quoted key ++ ':' :: ' ' :: rest) = (scanValue half n (skip rest)).map fun x =>
      ((key, x.1), x.2) := by
  rw [quoted_append, scanField, scanString_escape]
  change ((scanValue half n (skip rest)).bind fun x => some ((textOf half (key.toList.flatMap codePoints), x.1), x.2)) = _
  rw [textOf_codePoints]
  cases scanValue half n (skip rest) <;> rfl

theorem scanFields_comma {n : ℕ} {rest : List Char} :
    scanFields half (n + 1) (',' :: rest) = (scanField half n (skip rest)).bind fun x =>
      (scanFields half n x.2).map fun y => (x.1 :: y.1, y.2) := by
  rw [scanFields]
  change (scanField half n (skip rest)).bind _ = _
  cases scanField half n (skip rest) with
  | none => rfl
  | some x => cases hfields : scanFields half n x.2 <;> simp [hfields]

theorem scanItems_comma {n : ℕ} {rest : List Char} :
    scanItems half (n + 1) (',' :: rest) = (scanValue half n (skip rest)).bind fun x =>
      (scanItems half n x.2).map fun y => (x.1 :: y.1, y.2) := by
  rw [scanItems]
  change (scanValue half n (skip rest)).bind _ = _
  cases scanValue half n (skip rest) with
  | none => rfl
  | some x => cases hitems : scanItems half n x.2 <;> simp [hitems]

mutual

theorem scanValue_print : ∀ (t : Tree) (fuel : ℕ) (rest : List Char), (print t).length ≤ fuel → Ends rest →
    scanValue half fuel (print t ++ rest) = some (t, rest)
  | .null, fuel, rest, hfuel, _ => by
    obtain ⟨n, rfl, -⟩ := fuel_succ hfuel
    rfl
  | .bool true, fuel, rest, hfuel, _ => by
    obtain ⟨n, rfl, -⟩ := fuel_succ hfuel
    rfl
  | .bool false, fuel, rest, hfuel, _ => by
    obtain ⟨n, rfl, -⟩ := fuel_succ hfuel
    rfl
  | .num literal, fuel, rest, hfuel, hends => by
    obtain ⟨c, cs, hcs, hc⟩ := literal_head literal
    rw [print] at hfuel ⊢
    rw [← scanScalar_literal literal hends, hcs]
    rw [hcs] at hfuel
    obtain ⟨n, rfl, -⟩ := fuel_succ hfuel
    refine scanValue_scalar ?_ ?_ ?_ <;> (rintro rfl; revert hc; decide)
  | .str s, fuel, rest, hfuel, _ => by
    obtain ⟨n, rfl, -⟩ := fuel_succ hfuel
    rw [print, quoted_append, scanValue, scanString_escape, Option.map_some, textOf_codePoints]
  | .list [], fuel, rest, hfuel, _ => by
    obtain ⟨n, rfl, -⟩ := fuel_succ hfuel
    rfl
  | .list (t :: ts), fuel, rest, hfuel, _ => by
    obtain ⟨n, rfl, hn⟩ := fuel_succ hfuel
    rw [List.length_append] at hn
    have ht := scanValue_print t n (printItems ts ++ rest) (by omega) (ends_printItems ts rest)
    have hts := scanItems_print ts n rest (by omega)
    rw [print, List.cons_append, List.append_assoc, scanValue_list, ht, Option.bind_some, hts]
    rfl
  | .dict [], fuel, rest, hfuel, _ => by
    obtain ⟨n, rfl, -⟩ := fuel_succ hfuel
    rfl
  | .dict (f :: fs), fuel, rest, hfuel, _ => by
    obtain ⟨n, rfl, hn⟩ := fuel_succ hfuel
    rw [List.length_append] at hn
    have hf := scanField_print f n (printFields fs ++ rest) (by omega) (ends_printFields fs rest)
    have hfs := scanFields_print fs n rest (by omega)
    rw [print, List.cons_append, List.append_assoc, scanValue_dict, hf, Option.bind_some, hfs]
    rfl

theorem scanItems_print : ∀ (ts : List Tree) (fuel : ℕ) (rest : List Char), (printItems ts).length ≤ fuel →
    scanItems half fuel (printItems ts ++ rest) = some (ts, rest)
  | [], fuel, rest, hfuel => by
    obtain ⟨n, rfl, -⟩ := fuel_succ hfuel
    rfl
  | t :: ts, fuel, rest, hfuel => by
    obtain ⟨n, rfl, hn⟩ := fuel_succ hfuel
    rw [List.length_cons, List.length_append] at hn
    have ht := scanValue_print t n (printItems ts ++ rest) (by omega) (ends_printItems ts rest)
    have hts := scanItems_print ts n rest (by omega)
    rw [printItems, List.cons_append, List.cons_append, List.append_assoc, scanItems_comma, skip_space, skip_print, ht,
      Option.bind_some, hts]
    rfl

theorem scanField_print : ∀ (f : String × Tree) (fuel : ℕ) (rest : List Char), (printField f).length ≤ fuel → Ends rest →
    scanField half fuel (printField f ++ rest) = some (f, rest)
  | (key, t), fuel, rest, hfuel, hends => by
    have hlength : (printField (key, t)).length = (escape key.toList).length + (print t).length + 4 := by
      simp [printField, quoted]
      omega
    obtain ⟨n, rfl, -⟩ := fuel_succ hfuel
    have ht := scanValue_print t n rest (by omega) hends
    rw [printField, List.append_assoc, List.cons_append, List.cons_append, scanField_quoted, skip_print, ht]
    rfl

theorem scanFields_print : ∀ (fs : List (String × Tree)) (fuel : ℕ) (rest : List Char), (printFields fs).length ≤ fuel →
    scanFields half fuel (printFields fs ++ rest) = some (fs, rest)
  | [], fuel, rest, hfuel => by
    obtain ⟨n, rfl, -⟩ := fuel_succ hfuel
    rfl
  | f :: fs, fuel, rest, hfuel => by
    obtain ⟨n, rfl, hn⟩ := fuel_succ hfuel
    rw [List.length_cons, List.length_append] at hn
    have hf := scanField_print f n (printFields fs ++ rest) (by omega) (ends_printFields fs rest)
    have hfs := scanFields_print fs n rest (by omega)
    rw [printFields, List.cons_append, List.cons_append, List.append_assoc, scanFields_comma, skip_space, skip_printField, hf,
      Option.bind_some, hfs]
    rfl

end

/-- **What is printed is read back.** -/
theorem parse_print (half : Fin 2048 → Char) (t : Tree) : parse half (print t) = some t := by
  have hscan := @scanValue_print half t ((print t).length + 1) [] (Nat.le_succ _) (fun _ hc => by cases hc)
  rw [List.append_nil] at hscan
  have hskip := skip_print t []
  rw [List.append_nil] at hskip
  unfold parse
  rw [hskip, hscan]
  rfl

end Values

/-! ## What can be read -/

/-- where in a text one is: outside its strings, in one, after a backslash there, or past what no JSON has outside strings -/
inductive Lex where
  | outside | inside | escape | bad
deriving DecidableEq, Repr

/-- white space, punctuation, and the characters of numbers and words -/
def isOutside (c : Char) : Bool := Text.isSpace c || c.isDigit || decide (c ∈ "\x7b\x7d[],:+-.eEnultrfasNIiy".toList)

def Lex.step : Lex → Char → Lex
  | .outside, c => if c = '"' then .inside else if isOutside c then .outside else .bad
  | .inside, c => if c = '"' then .outside else if c = '\\' then .escape else .inside
  | .escape, _ => .inside
  | .bad, _ => .bad

def lex (l : Lex) (text : List Char) : Lex := text.foldl Lex.step l

section Lexing

variable {half : Fin 2048 → Char}

theorem lex_cons (l : Lex) (c : Char) (text : List Char) : lex l (c :: text) = lex (l.step c) text := rfl

theorem lex_append (l : Lex) (a b : List Char) : lex l (a ++ b) = lex (lex l a) b := List.foldl_append

theorem lex_bad (text : List Char) : lex .bad text = .bad := by
  induction text with
  | nil => rfl
  | cons c text ih => exact ih

theorem step_outside {c : Char} (h : isOutside c = true) : Lex.outside.step c = .outside := by
  have hquote : c ≠ '"' := by
    rintro rfl
    revert h
    decide
  rw [Lex.step, if_neg hquote, if_pos h]

theorem lex_outside {text : List Char} (h : ∀ c ∈ text, isOutside c = true) : lex .outside text = .outside := by
  induction text with
  | nil => rfl
  | cons c text ih =>
    obtain ⟨hc, htext⟩ := List.forall_mem_cons.1 h
    rw [lex_cons, step_outside hc, ih htext]

theorem isOutside_of_isNumberChar {c : Char} (h : isNumberChar c = true) : isOutside c = true := by
  simp only [isNumberChar, Bool.or_eq_true, beq_iff_eq] at h
  rcases h with ((((hdigit | rfl) | rfl) | rfl) | rfl) | rfl
  · simp [isOutside, hdigit]
  all_goals decide

theorem isOutside_of_isBlank {c : Char} (h : isBlank c = true) : isOutside c = true := by
  simp only [isBlank, Bool.or_eq_true, beq_iff_eq] at h
  rcases h with ((rfl | rfl) | rfl) | rfl <;> decide

theorem lex_skip (text : List Char) : lex .outside (skip text) = lex .outside text := by
  conv_rhs => rw [← List.takeWhile_append_dropWhile (p := isBlank) (l := text)]
  rw [lex_append, lex_outside fun c hc => isOutside_of_isBlank (List.mem_takeWhile_imp hc)]
  rfl

theorem lex_scanScalar {text rest : List Char} {t : Tree} (h : scanScalar text = some (t, rest)) :
    lex .outside text = lex .outside rest := by
  unfold scanScalar at h
  split at h
  · next word t' hfind =>
    obtain ⟨rfl, rfl⟩ := Prod.mk.inj (Option.some.inj h)
    have hprefix : word.isPrefixOf text = true := by simpa using List.find?_some hfind
    obtain ⟨rest, rfl⟩ := List.isPrefixOf_iff_prefix.1 hprefix
    have hword : ∀ c ∈ word, isOutside c = true := by
      have hmem := List.mem_of_find?_eq_some hfind
      have hall : constants.all (fun x => x.1.all isOutside) = true := by decide +kernel
      exact List.all_eq_true.1 (List.all_eq_true.1 hall _ hmem)
    rw [List.drop_left, lex_append, lex_outside hword]
  · dsimp only at h
    split_ifs at h with hnumber
    obtain ⟨rfl, rfl⟩ := Prod.mk.inj (Option.some.inj h)
    conv_lhs => rw [← List.takeWhile_append_dropWhile (p := isNumberChar) (l := text)]
    rw [lex_append, lex_outside fun c hc => isOutside_of_isNumberChar (List.mem_takeWhile_imp hc)]

theorem step_inside {c : Char} (hquote : c ≠ '"') (hslash : c ≠ '\\') : Lex.inside.step c = .inside := by
  rw [Lex.step, if_neg hquote, if_neg hslash]

theorem step_hexValue {c : Char} {n : ℕ} (h : hexValue c = some n) : Lex.inside.step c = .inside := by
  refine step_inside ?_ ?_ <;> (rintro rfl; revert h; decide +revert)

theorem lex_scanString {text rest : List Char} {cs : List CodePoint} (h : scanString text = some (cs, rest)) :
    lex .inside text = lex .outside rest := by
  fun_induction scanString text generalizing cs rest with
  | case1 => cases h
  | case2 text =>
    cases h
    rfl
  | case3 a b c d text ih =>
    obtain ⟨n, hn, h⟩ := Option.bind_eq_some_iff.1 h
    obtain ⟨⟨cs', rest'⟩, hscan, h⟩ := Option.bind_eq_some_iff.1 h
    cases h
    obtain ⟨na, ha, hn⟩ := Option.bind_eq_some_iff.1 hn
    obtain ⟨nb, hb, hn⟩ := Option.bind_eq_some_iff.1 hn
    obtain ⟨nc, hc, hn⟩ := Option.bind_eq_some_iff.1 hn
    obtain ⟨nd, hd, -⟩ := Option.bind_eq_some_iff.1 hn
    rw [← ih hscan]
    change lex ((((Lex.inside.step a).step b).step c).step d) text = _
    rw [step_hexValue ha, step_hexValue hb, step_hexValue hc, step_hexValue hd]
  | case4 e text hne ih =>
    obtain ⟨c, hc, h⟩ := Option.bind_eq_some_iff.1 h
    obtain ⟨⟨cs', rest'⟩, hscan, h⟩ := Option.bind_eq_some_iff.1 h
    cases h
    exact ih hscan
  | case5 c text => cases h
  | case6 c text hquote _ _ hplain ih =>
    obtain ⟨⟨cs', rest'⟩, hscan, h⟩ := Option.bind_eq_some_iff.1 h
    cases h
    rw [lex_cons, step_inside hquote (not_or.1 hplain).2, ih hscan]

/-- a printed string is over at its closing quote, and not before -/
theorem lex_escape (cs : List Char) : lex .inside (escape cs) = .inside := by
  have hquote : lex .inside (escape cs ++ ['"']) = .outside := lex_scanString (scanString_escape cs [])
  rw [lex_append] at hquote
  cases hlex : lex .inside (escape cs) with
  | inside => rfl
  | _ =>
    rw [hlex] at hquote
    cases hquote

/-- a value, and likewise items, fields and what follows them, end where they began: outside strings -/
theorem lex_scan (fuel : ℕ) :
    (∀ text t rest, scanValue half fuel text = some (t, rest) → lex .outside text = lex .outside rest) ∧
    (∀ text ts rest, scanItems half fuel text = some (ts, rest) → lex .outside text = lex .outside rest) ∧
    (∀ text f rest, scanField half fuel text = some (f, rest) → lex .outside text = lex .outside rest) ∧
    ∀ text fs rest, scanFields half fuel text = some (fs, rest) → lex .outside text = lex .outside rest := by
  induction fuel with
  | zero =>
    refine ⟨?_, ?_, ?_, ?_⟩ <;> (intro text x rest h; cases h)
  | succ fuel ih =>
    obtain ⟨hvalue, hitems, hfield, hfields⟩ := ih
    refine ⟨?_, ?_, ?_, ?_⟩
    · intro text t rest h
      unfold scanValue at h
      split at h
      · next text =>
        obtain ⟨⟨cs, rest'⟩, hscan, heq⟩ := Option.map_eq_some_iff.1 h
        cases heq
        exact lex_scanString hscan
      · next text =>
        rw [lex_cons, step_outside (by decide), ← lex_skip text]
        split at h
        · next hskip =>
          cases h
          rw [hskip]
          rfl
        · next hskip =>
          obtain ⟨⟨t', rest'⟩, ht, h⟩ := Option.bind_eq_some_iff.1 h
          obtain ⟨⟨ts, rest''⟩, hts, h⟩ := Option.bind_eq_some_iff.1 h
          cases h
          rw [hvalue _ _ _ ht, hitems _ _ _ hts]
      · next text =>
        rw [lex_cons, step_outside (by decide), ← lex_skip text]
        split at h
        · next hskip =>
          cases h
          rw [hskip]
          rfl
        · next hskip =>
          obtain ⟨⟨f, rest'⟩, hf, h⟩ := Option.bind_eq_some_iff.1 h
          obtain ⟨⟨fs, rest''⟩, hfs, h⟩ := Option.bind_eq_some_iff.1 h
          cases h
          rw [hfield _ _ _ hf, hfields _ _ _ hfs]
      · exact lex_scanScalar h
    · intro text ts rest h
      unfold scanItems at h
      rw [← lex_skip text]
      split at h
      · next hskip =>
        cases h
        rw [hskip]
        rfl
      · next text' hskip =>
        obtain ⟨⟨t, rest'⟩, ht, h⟩ := Option.bind_eq_some_iff.1 h
        obtain ⟨⟨ts', rest''⟩, hts, h⟩ := Option.bind_eq_some_iff.1 h
        cases h
        rw [hskip, lex_cons, step_outside (by decide), ← lex_skip text', hvalue _ _ _ ht, hitems _ _ _ hts]
      · cases h
    · intro text f rest h
      unfold scanField at h
      split at h
      · next text' =>
        obtain ⟨⟨key, rest'⟩, hscan, h⟩ := Option.bind_eq_some_iff.1 h
        dsimp only at h
        split at h
        · next text'' hskip =>
          obtain ⟨⟨t, rest''⟩, ht, h⟩ := Option.bind_eq_some_iff.1 h
          cases h
          have hkey : lex .outside ('"' :: text') = lex .outside rest' := lex_scanString hscan
          rw [hkey, ← lex_skip rest', hskip, lex_cons, step_outside (by decide), ← lex_skip text'', hvalue _ _ _ ht]
        · cases h
      · cases h
    · intro text fs rest h
      unfold scanFields at h
      rw [← lex_skip text]
      split at h
      · next hskip =>
        cases h
        rw [hskip]
        rfl
      · next text' hskip =>
        obtain ⟨⟨f, rest'⟩, hf, h⟩ := Option.bind_eq_some_iff.1 h
        obtain ⟨⟨fs', rest''⟩, hfs, h⟩ := Option.bind_eq_some_iff.1 h
        cases h
        rw [hskip, lex_cons, step_outside (by decide), ← lex_skip text', hfield _ _ _ hf, hfields _ _ _ hfs]
      · cases h

theorem lex_print (half : Fin 2048 → Char) (t : Tree) : lex .outside (print t) = .outside := by
  have hscan := @scanValue_print half t (print t).length [] le_rfl (fun _ hc => by cases hc)
  rw [List.append_nil] at hscan
  exact (lex_scan _).1 _ _ _ hscan

/-- **What can be read ends outside its strings**, and has nothing there but what JSON has there. -/
theorem lex_parse {text : List Char} {t : Tree} (h : parse half text = some t) : lex .outside text = .outside := by
  unfold parse at h
  split at h
  · next t' rest hscan =>
    split_ifs at h with hrest
    rw [← lex_skip text, (lex_scan _).1 _ _ _ hscan, ← lex_skip rest, hrest]
    rfl
  · cases h

end Lexing

end TrinoManagement.JsonText
