/-
UTF-8 by its bytes: what the encoding of one character looks like, and the encoding of a text cut at some byte.

- `encoded_parts`: a first byte, which tells whether more follow, and the bytes that follow.
- `backUp`: from a cut back to the end of a character, by the marks of the bytes alone. It goes back over every character
  of several bytes that it finds at the end, be it cut or whole: `backUp_part`, `backUp_whole`.
- `exists_split`: a cut falls between two characters or inside one. `starts_of_fits`: the whole characters before it are the
  longest prefix that fits.
-/
import Mathlib.Tactic
import Mathlib.Data.List.DropRight

namespace TrinoManagement.Utf8

/-! ## Bytes -/

/-- a byte that goes on with a character -/
def isTail (b : UInt8) : Bool := b &&& 0xC0 == 0x80

/-- the first byte of a character of several -/
def isLead (b : UInt8) : Bool := b &&& 0xC0 == 0xC0

/-- the marks of a byte are its upper two bits -/
theorem marked_and {x payload mark : UInt8} (hpayload : payload &&& 0xC0 = 0) :
    (x &&& payload ||| mark) &&& 0xC0 = mark &&& 0xC0 := by
  have hzero : payload.toNat &&& 0xC0 = 0 := by rw [← UInt8.toNat_inj] at hpayload; exact hpayload
  apply UInt8.toNat_inj.1
  simp only [UInt8.toNat_and, UInt8.toNat_or]
  calc (x.toNat &&& payload.toNat ||| mark.toNat) &&& 0xC0
      = x.toNat &&& (payload.toNat &&& 0xC0) ||| mark.toNat &&& 0xC0 := by rw [Nat.and_or_distrib_right, Nat.and_assoc]
    _ = mark.toNat &&& 0xC0 := by rw [hzero, Nat.and_zero, Nat.zero_or]

theorem isTail_marked {x : UInt8} : isTail (x &&& 0x3f ||| 0x80) = true := by
  rw [isTail, marked_and (by decide)]
  decide

theorem not_isTail_of_isLead {b : UInt8} (h : isLead b = true) : isTail b = false := by
  rw [isTail, eq_of_beq h]
  decide

/-- a small byte has neither mark -/
theorem and_lt {b : UInt8} (h : b.toNat < 128) : (b &&& 0xC0).toNat < 128 := by
  rw [UInt8.toNat_and]
  exact Nat.and_le_left.trans_lt h

theorem unmarked {b : UInt8} (h : b.toNat < 128) : isTail b = false ∧ isLead b = false := by
  have hand := and_lt h
  constructor
  · refine beq_false_of_ne fun heq => ?_
    rw [heq] at hand
    exact absurd hand (by decide)
  · refine beq_false_of_ne fun heq => ?_
    rw [heq] at hand
    exact absurd hand (by decide)

/-- **The bytes of a character**: a first one, and others if it says so. -/
theorem encoded_parts (c : Char) : ∃ first tails, String.utf8EncodeChar c = first :: tails ∧ isTail first = false ∧
    (∀ b ∈ tails, isTail b = true) ∧ (isLead first = true ↔ 1 < c.utf8Size) := by
  have hlead : ∀ {first : UInt8} {tails : List UInt8}, String.utf8EncodeChar c = first :: tails → isLead first = true →
      (∀ b ∈ tails, isTail b = true) → 1 < c.utf8Size → ∃ first tails, String.utf8EncodeChar c = first :: tails ∧
        isTail first = false ∧ (∀ b ∈ tails, isTail b = true) ∧ (isLead first = true ↔ 1 < c.utf8Size) := by
    intro first tails heq hfirst htails hsize
    exact ⟨first, tails, heq, not_isTail_of_isLead hfirst, htails, iff_of_true hfirst hsize⟩
  rcases Char.utf8Size_eq c with h | h | h | h
  · have hsmall : c.val.toUInt8.toNat < 128 := by
      have hle := UInt32.le_iff_toNat_le.1 (Char.utf8Size_eq_one_iff.1 h)
      rw [UInt32.toNat_toUInt8]
      exact (Nat.mod_le ..).trans_lt (Nat.lt_succ_of_le hle)
    obtain ⟨htail, hfirst⟩ := unmarked hsmall
    refine ⟨_, [], String.utf8EncodeChar_eq_singleton h, htail, fun b hb => (by cases hb), ?_⟩
    rw [hfirst, h]
    decide
  · refine hlead (String.utf8EncodeChar_eq_cons_cons h) ?_ ?_ (by omega)
    · rw [isLead, marked_and (by decide)]
      decide
    · simp [isTail_marked]
  · refine hlead (String.utf8EncodeChar_eq_cons_cons_cons h) ?_ ?_ (by omega)
    · rw [isLead, marked_and (by decide)]
      decide
    · simp [isTail_marked]
  · refine hlead (String.utf8EncodeChar_eq_cons_cons_cons_cons h) ?_ ?_ (by omega)
    · rw [isLead, marked_and (by decide)]
      decide
    · simp [isTail_marked]

/-! ## Texts -/

def encode (cs : List Char) : List UInt8 := cs.flatMap String.utf8EncodeChar

variable {p q cs : List Char} {c : Char} {n k : ℕ}

@[simp] theorem encode_nil : encode [] = [] := rfl

theorem encode_cons (c : Char) (cs : List Char) : encode (c :: cs) = String.utf8EncodeChar c ++ encode cs := rfl

theorem encode_append (p q : List Char) : encode (p ++ q) = encode p ++ encode q := List.flatMap_append

theorem encode_concat (p : List Char) (c : Char) : encode (p ++ [c]) = encode p ++ String.utf8EncodeChar c := by
  rw [encode_append, encode_cons, encode_nil, List.append_nil]

theorem length_encode_concat (p : List Char) (c : Char) : (encode (p ++ [c])).length = (encode p).length + c.utf8Size := by
  rw [encode_concat, List.length_append, String.length_utf8EncodeChar]

theorem encode_eq_nil : encode cs = [] ↔ cs = [] := by
  cases cs with
  | nil => simp
  | cons c cs =>
    obtain ⟨first, tails, heq, -⟩ := encoded_parts c
    simp [encode_cons, heq]

theorem encode_injective (h : encode p = encode q) : p = q := by
  have hbytes : p.utf8Encode = q.utf8Encode := congrArg List.toByteArray h
  have htext : String.ofList p = String.ofList q := by
    rw [← String.toByteArray_inj, String.toByteArray_ofList, String.toByteArray_ofList]
    exact hbytes
  exact String.ofList_inj.1 htext

/-- a prefix is no longer -/
theorem length_encode_mono (h : p <+: q) : (encode p).length ≤ (encode q).length := by
  obtain ⟨rest, rfl⟩ := h
  rw [encode_append, List.length_append]
  omega

/-- **A cut** falls between two characters, or inside one. -/
theorem exists_split (h : n < (encode cs).length) :
    ∃ p c q k, cs = p ++ c :: q ∧ k < c.utf8Size ∧ n = (encode p).length + k := by
  induction cs generalizing n with
  | nil => cases h
  | cons c cs ih =>
    by_cases hc : n < c.utf8Size
    · exact ⟨[], c, cs, n, rfl, hc, by simp⟩
    · rw [encode_cons, List.length_append, String.length_utf8EncodeChar] at h
      obtain ⟨p, d, q, k, rfl, hk, hn⟩ := @ih (n - c.utf8Size) (by omega)
      refine ⟨c :: p, d, q, k, rfl, hk, ?_⟩
      rw [encode_cons, List.length_append, String.length_utf8EncodeChar]
      omega

theorem take_encode (hk : k < c.utf8Size) :
    (encode (p ++ c :: q)).take ((encode p).length + k) = encode p ++ (String.utf8EncodeChar c).take k := by
  rw [encode_append, List.take_length_add_append, encode_cons, List.take_append_of_le_length]
  rw [String.length_utf8EncodeChar]
  exact hk.le

/-- of the prefixes of a text, those that fit are prefixes of the longest one -/
theorem starts_of_fits (hn : n < (encode p).length + c.utf8Size) (hq : q <+: p ++ c :: cs) (hfits : (encode q).length ≤ n) :
    q <+: p := by
  have hc : p ++ [c] <+: p ++ c :: cs := ⟨cs, by simp⟩
  rcases List.prefix_or_prefix_of_prefix hq hc with h | h
  · rcases List.prefix_concat_iff.1 h with rfl | h
    · rw [length_encode_concat] at hfits
      omega
    · exact h
  · have hle := length_encode_mono h
    rw [length_encode_concat] at hle
    omega

/-! ## Back from a cut -/

/-- back over the bytes that go on with a character, and over its first one if there are several -/
def backUp (cut : List UInt8) : List UInt8 :=
  let cut := cut.rdropWhile isTail
  match cut.getLast? with
  | some b => if isLead b then cut.dropLast else cut
  | none => cut

theorem backUp_append {bytes tails : List UInt8} {first : UInt8} (hfirst : isTail first = false)
    (htails : ∀ b ∈ tails, isTail b = true) :
    backUp (bytes ++ first :: tails) = if isLead first then bytes else bytes ++ [first] := by
  have hdrop : (bytes ++ first :: tails).rdropWhile isTail = bytes ++ [first] := by
    rw [List.append_cons, List.rdropWhile, List.reverse_append,
      List.dropWhile_append_of_pos fun b hb => htails b (List.mem_reverse.1 hb), ← List.rdropWhile]
    exact List.rdropWhile_concat_neg _ _ _ (by simp [hfirst])
  unfold backUp
  simp only [hdrop, List.getLast?_append, List.getLast?_singleton, Option.some_or, List.dropLast_concat]

/-- a character that is cut goes -/
theorem backUp_part (hk : 0 < k) (hc : k < c.utf8Size) :
    backUp (encode p ++ (String.utf8EncodeChar c).take k) = encode p := by
  obtain ⟨first, tails, heq, hfirst, htails, hlead⟩ := encoded_parts c
  obtain ⟨k, rfl⟩ := Nat.exists_eq_succ_of_ne_zero hk.ne'
  have hsome : isLead first = true := hlead.2 (by omega)
  rw [heq, List.take_succ_cons, backUp_append hfirst fun b hb => htails b (List.mem_of_mem_take hb), if_pos hsome]

/-- and so does one of several bytes that is whole -/
theorem backUp_whole : backUp (encode (p ++ [c])) = if 1 < c.utf8Size then encode p else encode (p ++ [c]) := by
  obtain ⟨first, tails, heq, hfirst, htails, hlead⟩ := encoded_parts c
  rw [encode_concat, heq, backUp_append hfirst htails]
  by_cases hsize : 1 < c.utf8Size
  · rw [if_pos (hlead.2 hsize), if_pos hsize]
  · have hlength := String.length_utf8EncodeChar c
    have hpos := Char.utf8Size_pos c
    rw [heq, List.length_cons] at hlength
    obtain rfl : tails = [] := List.length_eq_zero_iff.1 (by omega)
    rw [if_neg (fun h => hsize (hlead.1 h)), if_neg hsize]

end TrinoManagement.Utf8
