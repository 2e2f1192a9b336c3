/-
URL-safe base64 of bytes: four digits for three bytes, and `=` up to a multiple of four.

- `undigits_digits`: the digits give the bytes back.
- `rdropWhile_encode`: without its padding, an encoded text is its digits.
- `decode_encode`: the round trip.
- `readStandard`: the standard alphabet as CPython reads it, which skips what is no digit; `readStandard_standard`: its round
  trip.
-/
import Mathlib.Data.Bool.AllAny
import Mathlib.Data.List.DropRight
import Mathlib.Tactic

namespace TrinoManagement.Base64

/-! ## Digits -/

def alphabet : List Char :=
  ['A', 'B', 'C', 'D', 'E', 'F', 'G', 'H', 'I', 'J', 'K', 'L', 'M', 'N', 'O', 'P', 'Q', 'R', 'S', 'T', 'U', 'V', 'W', 'X',
    'Y', 'Z', 'a', 'b', 'c', 'd', 'e', 'f', 'g', 'h', 'i', 'j', 'k', 'l', 'm', 'n', 'o', 'p', 'q', 'r', 's', 't', 'u', 'v',
    'w', 'x', 'y', 'z', '0', '1', '2', '3', '4', '5', '6', '7', '8', '9', '-', '_']

def digit (n : ℕ) : Char := alphabet.getD n 'A'

def index (c : Char) : ℕ := alphabet.idxOf c

theorem index_digit {n : ℕ} (h : n < 64) : index (digit n) = n := by
  have hall : ∀ n : Fin 64, index (digit n) = n := by decide +kernel
  exact hall ⟨n, h⟩

theorem digit_mem (n : ℕ) : digit n ∈ alphabet := by
  rw [digit, List.getD_eq_getElem?_getD]
  cases h : alphabet[n]? with
  | none => simp [alphabet]
  | some c => exact List.mem_of_getElem? h

/-! ## Encoding -/

/-- the digits of the bytes, six bits each -/
def digits : List UInt8 → List Char
  | a :: b :: c :: rest =>
    digit (a.toNat / 4) :: digit (a.toNat % 4 * 16 + b.toNat / 16) :: digit (b.toNat % 16 * 4 + c.toNat / 64) ::
      digit (c.toNat % 64) :: digits rest
  | [a, b] => [digit (a.toNat / 4), digit (a.toNat % 4 * 16 + b.toNat / 16), digit (b.toNat % 16 * 4)]
  | [a] => [digit (a.toNat / 4), digit (a.toNat % 4 * 16)]
  | [] => []

/-- how many `=` make a length a multiple of four -/
def padding (length : ℕ) : ℕ := (4 - length % 4) % 4

def encode (bytes : List UInt8) : List Char := digits bytes ++ List.replicate (padding (digits bytes).length) '='

/-- the bytes of digits; bits beyond the last byte are dropped -/
def undigits : List Char → Option (List UInt8)
  | i :: j :: k :: l :: rest =>
    (undigits rest).map fun bytes =>
      UInt8.ofNat (index i * 4 + index j / 16) :: UInt8.ofNat (index j % 16 * 16 + index k / 4) ::
        UInt8.ofNat (index k % 4 * 64 + index l) :: bytes
  | [i, j, k] => some [UInt8.ofNat (index i * 4 + index j / 16), UInt8.ofNat (index j % 16 * 16 + index k / 4)]
  | [i, j] => some [UInt8.ofNat (index i * 4 + index j / 16)]
  | [_] => none
  | [] => some []

def decode (text : List Char) : Option (List UInt8) := undigits (text.takeWhile (· ≠ '='))

theorem digits_mem {bytes : List UInt8} : ∀ c ∈ digits bytes, c ∈ alphabet := by
  induction bytes using digits.induct with
  | case1 a b c rest ih =>
    rw [digits]
    intro d hd
    simp only [List.mem_cons] at hd
    rcases hd with rfl | rfl | rfl | rfl | hd
    · exact digit_mem _
    · exact digit_mem _
    · exact digit_mem _
    · exact digit_mem _
    · exact ih d hd
  | case2 a b =>
    intro d hd
    simp only [digits, List.mem_cons, List.not_mem_nil, or_false] at hd
    rcases hd with rfl | rfl | rfl <;> exact digit_mem _
  | case3 a =>
    intro d hd
    simp only [digits, List.mem_cons, List.not_mem_nil, or_false] at hd
    rcases hd with rfl | rfl <;> exact digit_mem _
  | case4 => simp [digits]

theorem digits_ne_pad {bytes : List UInt8} : ∀ c ∈ digits bytes, c ≠ '=' := by
  rintro c hc rfl
  exact absurd (digits_mem _ hc) (by decide)

/-- the first byte of a group comes back, -/
theorem byte_of_first {a b : UInt8} :
    UInt8.ofNat (index (digit (a.toNat / 4)) * 4 + index (digit (a.toNat % 4 * 16 + b.toNat / 16)) / 16) = a := by
  have ha := a.toNat_lt
  have hb := b.toNat_lt
  rw [index_digit (by omega), index_digit (by omega)]
  have h : a.toNat / 4 * 4 + (a.toNat % 4 * 16 + b.toNat / 16) / 16 = a.toNat := by omega
  rw [h, UInt8.ofNat_toNat]

/-- the second, -/
theorem byte_of_second {a b c : UInt8} :
    UInt8.ofNat (index (digit (a.toNat % 4 * 16 + b.toNat / 16)) % 16 * 16 +
      index (digit (b.toNat % 16 * 4 + c.toNat / 64)) / 4) = b := by
  have ha := a.toNat_lt
  have hb := b.toNat_lt
  have hc := c.toNat_lt
  rw [index_digit (by omega), index_digit (by omega)]
  have h : (a.toNat % 4 * 16 + b.toNat / 16) % 16 * 16 + (b.toNat % 16 * 4 + c.toNat / 64) / 4 = b.toNat := by omega
  rw [h, UInt8.ofNat_toNat]

/-- and the third -/
theorem byte_of_third {b c : UInt8} :
    UInt8.ofNat (index (digit (b.toNat % 16 * 4 + c.toNat / 64)) % 4 * 64 + index (digit (c.toNat % 64))) = c := by
  have hb := b.toNat_lt
  have hc := c.toNat_lt
  rw [index_digit (by omega), index_digit (by omega)]
  have h : (b.toNat % 16 * 4 + c.toNat / 64) % 4 * 64 + c.toNat % 64 = c.toNat := by omega
  rw [h, UInt8.ofNat_toNat]

theorem undigits_digits (bytes : List UInt8) : undigits (digits bytes) = some bytes := by
  induction bytes using digits.induct with
  | case1 a b c rest ih => rw [digits, undigits, ih, Option.map_some, byte_of_first, byte_of_second, byte_of_third]
  | case2 a b =>
    have h := byte_of_second (a := a) (b := b) (c := 0)
    simp only [UInt8.toNat_zero, Nat.zero_div, Nat.add_zero] at h
    rw [digits, undigits, byte_of_first, h]
  | case3 a =>
    have h := byte_of_first (a := a) (b := 0)
    simp only [UInt8.toNat_zero, Nat.zero_div, Nat.add_zero] at h
    rw [digits, undigits, h]
  | case4 => rfl

/-- no digit is an `=`, so stripping those leaves the digits -/
theorem rdropWhile_encode (bytes : List UInt8) : (encode bytes).rdropWhile (· = '=') = digits bytes := by
  rw [encode, List.rdropWhile, List.reverse_append, List.reverse_replicate]
  have hpad : ∀ c ∈ List.replicate (padding (digits bytes).length) '=', decide (c = '=') = true := by
    intro c hc
    rw [List.eq_of_mem_replicate hc]
    rfl
  rw [List.dropWhile_append_of_pos hpad]
  have hdigits : (digits bytes).reverse.dropWhile (fun c => decide (c = '=')) = (digits bytes).reverse := by
    cases h : (digits bytes).reverse with
    | nil => rfl
    | cons c rest =>
      have hc : c ∈ digits bytes := List.mem_reverse.1 (by simp [h])
      rw [List.dropWhile_cons, if_neg (by simpa using digits_ne_pad c hc)]
  rw [hdigits, List.reverse_reverse]

theorem decode_encode (bytes : List UInt8) : decode (encode bytes) = some bytes := by
  have hall : ∀ c ∈ digits bytes, decide (c ≠ '=') = true := fun c hc => decide_eq_true (digits_ne_pad c hc)
  rw [decode, encode, List.takeWhile_append_of_pos hall]
  have hpad : (List.replicate (padding (digits bytes).length) '=').takeWhile (fun c => decide (c ≠ '=')) = [] := by
    cases padding (digits bytes).length <;> simp [List.replicate_succ]
  rw [hpad, List.append_nil, undigits_digits]

/-! ## The standard alphabet -/

/-- the standard digit for a URL-safe one -/
def standardChar (c : Char) : Char := if c = '-' then '+' else if c = '_' then '/' else c

/-- `b64encode` -/
def standard (bytes : List UInt8) : List Char := (encode bytes).map standardChar

/-- the value of a standard digit -/
def standardIndex (c : Char) : Option ℕ := (alphabet.map standardChar).findIdx? (· == c)

/-- `a2b_base64`: `quad` digits of the current four have been read, `left` is what is not given out of them, and `pads` are
the `=` since the last digit -/
def readQuads : List Char → ℕ → ℕ → ℕ → Option (List UInt8)
  | [], quad, _, _ => if quad = 0 then some [] else none
  | c :: rest, quad, left, pads =>
    if c = '=' then
      if 2 ≤ quad ∧ 4 ≤ quad + (pads + 1) then some []
      else readQuads rest quad left (if 2 ≤ quad then pads + 1 else pads)
    else
      match standardIndex c with
      | none => readQuads rest quad left pads
      | some v =>
        match quad with
        | 0 => readQuads rest 1 v 0
        | 1 => (readQuads rest 2 (v % 16) 0).map (UInt8.ofNat (left * 4 + v / 16) :: ·)
        | 2 => (readQuads rest 3 (v % 4) 0).map (UInt8.ofNat (left * 16 + v / 4) :: ·)
        | _ => (readQuads rest 0 0 0).map (UInt8.ofNat (left * 64 + v) :: ·)

/-- `b64decode`; what is not ASCII is refused -/
def readStandard (text : List Char) : Option (List UInt8) :=
  if text.all fun c => decide (c.toNat < 128) then readQuads text 0 0 0 else none

theorem standardIndex_digit {n : ℕ} (h : n < 64) : standardIndex (standardChar (digit n)) = some n := by
  have hall : ∀ n : Fin 64, standardIndex (standardChar (digit n)) = some n.val := by decide +kernel
  exact hall ⟨n, h⟩

theorem standardChar_digit (n : ℕ) : standardChar (digit n) ≠ '=' ∧ standardChar (digit n) ≠ '$' ∧
    (standardChar (digit n)).toNat < 128 := by
  have hall : ∀ c ∈ alphabet, standardChar c ≠ '=' ∧ standardChar c ≠ '$' ∧ (standardChar c).toNat < 128 :=
    List.all_iff_forall_prop.1 (by decide)
  exact hall _ (digit_mem n)

section Quads

variable {n left pads : ℕ} {rest : List Char}

theorem readQuads_zero (h : n < 64) : readQuads (standardChar (digit n) :: rest) 0 left pads = readQuads rest 1 n 0 := by
  rw [readQuads, if_neg (standardChar_digit n).1, standardIndex_digit h]
  rfl

theorem readQuads_one (h : n < 64) : readQuads (standardChar (digit n) :: rest) 1 left pads =
    (readQuads rest 2 (n % 16) 0).map (UInt8.ofNat (left * 4 + n / 16) :: ·) := by
  rw [readQuads, if_neg (standardChar_digit n).1, standardIndex_digit h]
  rfl

theorem readQuads_two (h : n < 64) : readQuads (standardChar (digit n) :: rest) 2 left pads =
    (readQuads rest 3 (n % 4) 0).map (UInt8.ofNat (left * 16 + n / 4) :: ·) := by
  rw [readQuads, if_neg (standardChar_digit n).1, standardIndex_digit h]
  rfl

theorem readQuads_three (h : n < 64) : readQuads (standardChar (digit n) :: rest) 3 left pads =
    (readQuads rest 0 0 0).map (UInt8.ofNat (left * 64 + n) :: ·) := by
  rw [readQuads, if_neg (standardChar_digit n).1, standardIndex_digit h]
  rfl

end Quads

/-- a group of four digits stands before what is encoded of the rest -/
theorem encode_group (a b c : UInt8) (rest : List UInt8) : encode (a :: b :: c :: rest) =
    digit (a.toNat / 4) :: digit (a.toNat % 4 * 16 + b.toNat / 16) :: digit (b.toNat % 16 * 4 + c.toNat / 64) ::
      digit (c.toNat % 64) :: encode rest := by
  have hpad : padding ((digits rest).length + 4) = padding (digits rest).length := by
    unfold padding
    omega
  simp only [encode, digits, List.length_cons, List.cons_append]
  rw [← hpad]

/-- **The round trip** of the standard alphabet, through the reader that skips. -/
theorem readQuads_standard (bytes : List UInt8) : readQuads (standard bytes) 0 0 0 = some bytes := by
  induction bytes using digits.induct with
  | case1 a b c rest ih =>
    have ha := a.toNat_lt
    have hb := b.toNat_lt
    have hc := c.toNat_lt
    have hfirst : a.toNat / 4 * 4 + (a.toNat % 4 * 16 + b.toNat / 16) / 16 = a.toNat := by omega
    have hsecond : (a.toNat % 4 * 16 + b.toNat / 16) % 16 * 16 + (b.toNat % 16 * 4 + c.toNat / 64) / 4 = b.toNat := by omega
    have hthird : (b.toNat % 16 * 4 + c.toNat / 64) % 4 * 64 + c.toNat % 64 = c.toNat := by omega
    rw [standard, encode_group, List.map_cons, List.map_cons, List.map_cons, List.map_cons, readQuads_zero (by omega),
      readQuads_one (by omega), readQuads_two (by omega), readQuads_three (by omega), hfirst, hsecond, hthird]
    change Option.map _ (Option.map _ (Option.map _ (readQuads (standard rest) 0 0 0))) = _
    rw [ih]
    simp only [Option.map_some, UInt8.ofNat_toNat]
  | case2 a b =>
    have ha := a.toNat_lt
    have hb := b.toNat_lt
    have hfirst : a.toNat / 4 * 4 + (a.toNat % 4 * 16 + b.toNat / 16) / 16 = a.toNat := by omega
    have hsecond : (a.toNat % 4 * 16 + b.toNat / 16) % 16 * 16 + b.toNat % 16 * 4 / 4 = b.toNat := by omega
    change readQuads (standardChar (digit _) :: standardChar (digit _) :: standardChar (digit _) :: ['=']) 0 0 0 = _
    rw [readQuads_zero (by omega), readQuads_one (by omega), readQuads_two (by omega), hfirst, hsecond]
    simp [readQuads]
  | case3 a =>
    have ha := a.toNat_lt
    have hfirst : a.toNat / 4 * 4 + a.toNat % 4 * 16 / 16 = a.toNat := by omega
    change readQuads (standardChar (digit _) :: standardChar (digit _) :: ['=', '=']) 0 0 0 = _
    rw [readQuads_zero (by omega), readQuads_one (by omega), hfirst]
    simp [readQuads]
  | case4 => rfl

/-- neither a `$` nor anything beyond ASCII is in an encoded text -/
theorem standard_mem {bytes : List UInt8} : ∀ c ∈ standard bytes, c ≠ '$' ∧ c.toNat < 128 := by
  intro c hc
  obtain ⟨d, hd, rfl⟩ := List.mem_map.1 hc
  rcases List.mem_append.1 hd with hd | hd
  · have hall : ∀ c ∈ alphabet, standardChar c ≠ '$' ∧ (standardChar c).toNat < 128 :=
      List.all_iff_forall_prop.1 (by decide)
    exact hall d (digits_mem d hd)
  · rw [List.eq_of_mem_replicate hd]
    decide

theorem readStandard_standard (bytes : List UInt8) : readStandard (standard bytes) = some bytes := by
  rw [readStandard, if_pos, readQuads_standard]
  rw [List.all_eq_true]
  exact fun c hc => decide_eq_true (standard_mem c hc).2

end TrinoManagement.Base64
