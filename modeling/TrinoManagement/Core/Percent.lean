/-
Percent-encoding of texts, as `urllib.parse.quote` does it: the UTF-8 of a text, with `%XX` for every byte that is not safe.

- `unquote_quote`: what is quoted is read back.
- `quote_mem`: a quoted text has safe characters and percent signs only.
- `splitOn_path`: with no slash among the safe characters it is one segment of a path.
-/
import Mathlib.Data.Bool.AllAny
import Mathlib.Tactic
import TrinoManagement.Core.Utf8

namespace TrinoManagement.Percent

/-! ## Bytes -/

/-- `0123456789ABCDEF` -/
def hexDigits : List Char := ['0', '1', '2', '3', '4', '5', '6', '7', '8', '9', 'A', 'B', 'C', 'D', 'E', 'F']

def hexDigit (n : ℕ) : Char := hexDigits.getD n '0'

/-- the value of a digit, of either case -/
def hexValue (c : Char) : Option ℕ :=
  if c.isDigit then some (c.toNat - 48)
  else if 'a' ≤ c ∧ c ≤ 'f' then some (c.toNat - 87)
  else if 'A' ≤ c ∧ c ≤ 'F' then some (c.toNat - 55)
  else none

/-- `_ALWAYS_SAFE` -/
def alwaysSafe (c : Char) : Bool := c.isAlphanum || c ∈ ['_', '.', '-', '~']

/-- safe characters are ASCII, and not the percent sign -/
structure Safe where
  chars : List Char
  ascii : ∀ c ∈ chars, c.toNat < 128
  plain : '%' ∉ chars

/-- `safe=""` -/
def Safe.none : Safe := ⟨[], List.all_iff_forall_prop.1 (by decide), by decide⟩

section Quote

variable (safe : Safe)

def isSafe (c : Char) : Bool := alwaysSafe c || c ∈ safe.chars

def quoteByte (b : UInt8) : List Char :=
  if b.toNat < 128 ∧ isSafe safe (Char.ofNat b.toNat) = true then [Char.ofNat b.toNat]
  else ['%', hexDigit (b.toNat / 16), hexDigit (b.toNat % 16)]

def quoteChars (text : List Char) : List Char := (Utf8.encode text).flatMap (quoteByte safe)

/-- `urllib.parse.quote` -/
def quote (text : String) : String := String.ofList (quoteChars safe text.toList)

end Quote

/-- `urllib.parse.unquote_to_bytes`: a percent sign without two digits stands for itself -/
def unquote : List Char → List UInt8
  | '%' :: a :: b :: rest =>
    match hexValue a, hexValue b with
    | some x, some y => UInt8.ofNat (16 * x + y) :: unquote rest
    | _, _ => String.utf8EncodeChar '%' ++ unquote (a :: b :: rest)
  | c :: rest => String.utf8EncodeChar c ++ unquote rest
  | [] => []

/-! ## The round trip -/

variable {safe : Safe}

theorem hexValue_hexDigit {n : ℕ} (h : n < 16) : hexValue (hexDigit n) = some n := by
  have hall : ∀ n : Fin 16, hexValue (hexDigit n) = some n.val := by decide +kernel
  exact hall ⟨n, h⟩

theorem isSafe_percent : isSafe safe '%' = false := by
  unfold isSafe
  rw [Bool.or_eq_false_iff]
  exact ⟨by decide, by simpa using safe.plain⟩

/-- the encoding of an ASCII character is its byte -/
theorem encode_ascii {b : UInt8} (h : b.toNat < 128) : String.utf8EncodeChar (Char.ofNat b.toNat) = [b] := by
  have hall : ∀ n : Fin 128, String.utf8EncodeChar (Char.ofNat n) = [UInt8.ofNat n] := by decide +kernel
  rw [hall ⟨b.toNat, h⟩, UInt8.ofNat_toNat]

theorem unquote_cons {c : Char} (h : c ≠ '%') (rest : List Char) :
    unquote (c :: rest) = String.utf8EncodeChar c ++ unquote rest := by
  rw [unquote]
  rintro a b rest' rfl
  exact absurd rfl h

theorem unquote_quoteByte (b : UInt8) (rest : List Char) : unquote (quoteByte safe b ++ rest) = b :: unquote rest := by
  unfold quoteByte
  have hlt := b.toNat_lt
  split_ifs with hsafe
  · have hne : Char.ofNat b.toNat ≠ '%' := by
      intro heq
      rw [heq, isSafe_percent] at hsafe
      exact absurd hsafe.2 (by decide)
    rw [List.singleton_append, unquote_cons hne, encode_ascii hsafe.1]
    rfl
  · have hbyte : UInt8.ofNat (16 * (b.toNat / 16) + b.toNat % 16) = b := by
      rw [Nat.div_add_mod, UInt8.ofNat_toNat]
    rw [List.cons_append, List.cons_append, List.singleton_append, unquote, hexValue_hexDigit (by omega),
      hexValue_hexDigit (by omega)]
    dsimp only
    rw [hbyte]

/-- **What is quoted is read back.** -/
theorem unquote_quote (text : List Char) : unquote (quoteChars safe text) = Utf8.encode text := by
  unfold quoteChars
  induction Utf8.encode text with
  | nil => rfl
  | cons b bytes ih => rw [List.flatMap_cons, unquote_quoteByte, ih]

/-! ## What a quoted text is made of -/

theorem hexDigit_safe (n : ℕ) : alwaysSafe (hexDigit n) = true := by
  have hall : ∀ c ∈ hexDigits, alwaysSafe c = true := List.all_iff_forall_prop.1 (by decide)
  rw [hexDigit, List.getD_eq_getElem?_getD]
  cases h : hexDigits[n]? with
  | none => decide
  | some c => exact hall c (List.mem_of_getElem? h)

/-- safe characters and percent signs only -/
theorem quote_mem {text : List Char} {c : Char} (h : c ∈ quoteChars safe text) : c = '%' ∨ isSafe safe c = true := by
  obtain ⟨b, -, hb⟩ := List.mem_flatMap.1 h
  unfold quoteByte at hb
  split_ifs at hb with hsafe
  · rw [List.mem_singleton.1 hb]
    exact .inr hsafe.2
  · simp only [List.mem_cons, List.not_mem_nil, or_false] at hb
    rcases hb with rfl | rfl | rfl
    · exact .inl rfl
    · exact .inr (Bool.or_eq_true_iff.2 (.inl (hexDigit_safe _)))
    · exact .inr (Bool.or_eq_true_iff.2 (.inl (hexDigit_safe _)))

/-- **One segment.** Without a slash among the safe characters, what is quoted between two slashes stays between them. -/
theorem splitOn_segment (hslash : isSafe safe '/' = false) (before after text : List Char) :
    (before ++ '/' :: (quoteChars safe text ++ '/' :: after)).splitOn '/' =
      before.splitOn '/' ++ quoteChars safe text :: after.splitOn '/' := by
  have hmem : '/' ∉ quoteChars safe text := by
    intro hmem
    rcases quote_mem hmem with hpercent | hsafe
    · exact absurd hpercent (by decide)
    · rw [hslash] at hsafe
      cases hsafe
  rw [List.splitOn_append_cons_self, List.splitOn_append_cons_self_of_not_mem hmem]

end TrinoManagement.Percent
