/-
What is kept of a query's text when it is cut to a budget of bytes.

`truncate_utf8` takes the bytes of the budget and goes back to the end of a character. It goes back over the last
character whenever that has several bytes, and does not look whether all of them are there.

- `Longest`: the longest prefix in whole characters that fits, and whether it is the text.
- `Flush`: the budget ends where a character of several bytes does, and the text goes on.
- `longest_iff`: what is kept is the longest prefix except on a flush budget. `whole_character_dropped`: "é" of "éx", which
  fits into two bytes, and is not kept.
-/
import Mathlib.Tactic
import TrinoManagement.Collector.Units
import TrinoManagement.Core.Utf8

namespace TrinoManagement.Collector

open TrinoManagement.Utf8

/-! ## The longest prefix -/

/-- the longest prefix that fits into the budget, and whether it is not the text; nothing fits into less than none -/
structure Longest (text : String) (maxBytes : ℤ) (result : String × Bool) : Prop where
  starts : result.1.toList <+: text.toList
  fits : ((encode result.1.toList).length : ℤ) ≤ max maxBytes 0
  longest : ∀ p, p <+: text.toList → ((encode p).length : ℤ) ≤ max maxBytes 0 → p.length ≤ result.1.toList.length
  flagged : result.2 = true ↔ result.1 ≠ text

/-- the budget ends with a character of several bytes, and that is not the last one -/
def Flush (text : String) (maxBytes : ℤ) : Prop :=
  ∃ p c q, text.toList = p ++ c :: q ∧ q ≠ [] ∧ 1 < c.utf8Size ∧ ((encode (p ++ [c])).length : ℤ) = maxBytes

/-! ## What is kept -/

/-- whole characters are read back -/
theorem decodeIgnore_encode (cs : List Char) {fuel : ℕ} (h : (encode cs).length ≤ fuel) :
    decodeIgnore fuel (encode cs) = cs := by
  induction cs generalizing fuel with
  | nil => cases fuel <;> rfl
  | cons c cs ih =>
    obtain ⟨first, tails, heq, -⟩ := encoded_parts c
    have hlength := String.length_utf8EncodeChar c
    rw [heq, List.length_cons] at hlength
    rw [encode_cons, heq, List.cons_append, List.length_cons, List.length_append] at h
    obtain ⟨fuel, rfl⟩ : ∃ m, fuel = m + 1 := ⟨fuel - 1, by omega⟩
    have hchar : (first :: (tails ++ encode cs)).toByteArray.utf8DecodeChar? 0 = some c := by
      rw [← List.cons_append, ← heq, List.toByteArray_append]
      exact ByteArray.utf8DecodeChar?_utf8EncodeChar_append
    have hrest : (tails ++ encode cs).drop (c.utf8Size - 1) = encode cs := by
      rw [← hlength, Nat.add_sub_cancel, List.drop_left]
    rw [encode_cons, heq, List.cons_append, decodeIgnore, hchar]
    dsimp only
    rw [hrest, ih (by omega)]

variable {text : String} {n : ℕ}

theorem truncateUtf8_of_le {maxBytes : ℤ} (hpos : 0 < maxBytes) (h : ((encode text.toList).length : ℤ) ≤ maxBytes) :
    truncateUtf8 text maxBytes = (text, false) := by
  unfold truncateUtf8
  rw [if_neg (not_le.2 hpos)]
  exact if_pos h

theorem truncateUtf8_of_lt (hpos : 0 < n) (h : n < (encode text.toList).length) :
    truncateUtf8 text n = (String.ofList (decodeIgnore (backUp ((encode text.toList).take n)).length
      (backUp ((encode text.toList).take n))), true) := by
  unfold truncateUtf8
  rw [if_neg (by omega), if_neg (by exact not_le.2 (Int.ofNat_lt.2 h))]
  rfl

/-- what stands before the cut once it has been backed up -/
theorem truncateUtf8_eq {p : List Char} (hpos : 0 < n) (h : n < (encode text.toList).length)
    (hback : backUp ((encode text.toList).take n) = encode p) : truncateUtf8 text n = (String.ofList p, true) := by
  rw [truncateUtf8_of_lt hpos h, hback, decodeIgnore_encode p le_rfl]

/-! ## Which prefix it is -/

/-- no budget at all -/
theorem longest_none {maxBytes : ℤ} (h : maxBytes ≤ 0) : Longest text maxBytes (truncateUtf8 text maxBytes) := by
  have hresult : truncateUtf8 text maxBytes = ("", text != "") := by
    unfold truncateUtf8
    rw [if_pos h]
  rw [hresult]
  refine ⟨List.nil_prefix, ?_, ?_, ?_⟩
  · exact le_max_right maxBytes 0
  · intro p _ hp
    rw [max_eq_right h] at hp
    have hnil : (encode p).length = 0 := by omega
    rw [encode_eq_nil.1 (List.length_eq_zero_iff.1 hnil)]
    exact Nat.zero_le _
  · rw [bne_iff_ne]
    exact ne_comm

/-- a budget for all of it -/
theorem longest_all {maxBytes : ℤ} (hpos : 0 < maxBytes) (h : ((encode text.toList).length : ℤ) ≤ maxBytes) :
    Longest text maxBytes (truncateUtf8 text maxBytes) := by
  rw [truncateUtf8_of_le hpos h]
  refine ⟨List.prefix_rfl, h.trans (le_max_left ..), fun p hp _ => hp.length_le, ?_⟩
  simp

/-- a budget that ends before or inside a character -/
theorem longest_cut {p q : List Char} {c : Char} (htext : text.toList = p ++ c :: q) (hp : (encode p).length ≤ n)
    (hn : n < (encode p).length + c.utf8Size) : Longest text n (String.ofList p, true) := by
  refine ⟨?_, ?_, ?_, ?_⟩
  · rw [String.toList_ofList, htext]
    exact List.prefix_append ..
  · rw [String.toList_ofList]
    exact (Int.ofNat_le.2 hp).trans (le_max_left ..)
  · intro p' hp' hfits
    rw [htext] at hp'
    rw [max_eq_left (Int.natCast_nonneg n), Int.ofNat_le] at hfits
    rw [String.toList_ofList]
    exact (starts_of_fits hn hp' hfits).length_le
  · refine iff_of_true rfl fun heq => ?_
    have hlength := congrArg (fun s : String => s.toList.length) heq
    simp only [String.toList_ofList, htext, List.length_append, List.length_cons] at hlength
    omega

/-- on a flush budget a character is missing that fits -/
theorem not_longest_of_flush {maxBytes : ℤ} (h : Flush text maxBytes) :
    ¬ Longest text maxBytes (truncateUtf8 text maxBytes) := by
  obtain ⟨p, c, q, htext, hq, hsize, rfl⟩ := h
  obtain ⟨d, q, rfl⟩ := List.exists_cons_of_ne_nil hq
  have htext' : text.toList = (p ++ [c]) ++ d :: q := by rw [htext, List.append_cons]
  have hcut : (encode text.toList).take (encode (p ++ [c])).length = encode (p ++ [c]) := by
    have htake := @take_encode (p ++ [c]) q d 0 (Char.utf8Size_pos d)
    rwa [← htext', Nat.add_zero, List.take_zero, List.append_nil] at htake
  have hpos : 0 < (encode (p ++ [c])).length := by
    rw [length_encode_concat]
    omega
  have hlt : (encode (p ++ [c])).length < (encode text.toList).length := by
    have hd := Char.utf8Size_pos d
    have hstarts : (p ++ [c]) ++ [d] <+: text.toList := ⟨q, by rw [htext', List.append_cons _ d q]⟩
    have hle := length_encode_mono hstarts
    rw [length_encode_concat] at hle
    omega
  rw [truncateUtf8_eq (p := p) hpos hlt (by rw [hcut, backUp_whole, if_pos hsize])]
  intro hlongest
  have hlength := hlongest.longest (p ++ [c]) (htext' ▸ List.prefix_append ..) (le_max_left ..)
  rw [String.toList_ofList, List.length_append, List.length_singleton] at hlength
  omega

/-- **What is kept is the longest prefix that fits** exactly if the budget does not end with a character of several bytes
that more of the text follows. -/
theorem longest_iff (text : String) (maxBytes : ℤ) :
    Longest text maxBytes (truncateUtf8 text maxBytes) ↔ ¬ Flush text maxBytes := by
  refine ⟨fun h hflush => not_longest_of_flush hflush h, fun hflush => ?_⟩
  by_cases hpos : maxBytes ≤ 0
  · exact longest_none hpos
  rw [not_le] at hpos
  by_cases hall : ((encode text.toList).length : ℤ) ≤ maxBytes
  · exact longest_all hpos hall
  obtain ⟨n, rfl⟩ := Int.eq_ofNat_of_zero_le hpos.le
  have hn : 0 < n := Int.natCast_pos.1 hpos
  have hlt : n < (encode text.toList).length := Int.ofNat_lt.1 (not_le.1 hall)
  obtain ⟨p, c, q, k, htext, hk, rfl⟩ := exists_split hlt
  have hlongest := longest_cut htext (Nat.le_add_right ..) (Nat.add_lt_add_left hk _)
  have hcut : (encode text.toList).take ((encode p).length + k) = encode p ++ (String.utf8EncodeChar c).take k := by
    rw [htext, take_encode hk]
  suffices hback : backUp ((encode text.toList).take ((encode p).length + k)) = encode p by
    rwa [truncateUtf8_eq hn hlt hback]
  rcases Nat.eq_zero_or_pos k with rfl | hk'
  · -- between two characters: the last one is whole, and of one byte
    rw [hcut, List.take_zero, List.append_nil]
    rcases List.eq_nil_or_concat' p with rfl | ⟨p, d, rfl⟩
    · rw [encode_nil] at hn
      exact absurd hn (lt_irrefl 0)
    · have hsize : ¬ 1 < d.utf8Size := by
        intro hsize
        refine hflush ⟨p, d, c :: q, ?_, by simp, hsize, by simp⟩
        rw [htext, List.append_assoc, List.singleton_append]
      rw [backUp_whole, if_neg hsize]
  · rw [hcut, backUp_part hk' hk]

/-- **A whole character is dropped**: "é" takes two bytes, and of "éx" nothing is kept in two. -/
theorem whole_character_dropped : truncateUtf8 "éx" 2 = ("", true) ∧ ¬ Longest "éx" 2 (truncateUtf8 "éx" 2) := by
  have hresult : truncateUtf8 "éx" 2 = ("", true) := by decide +kernel
  refine ⟨hresult, fun h => ?_⟩
  rw [hresult] at h
  exact absurd (h.longest ['é'] ⟨['x'], by decide⟩ (by decide)) (by decide)

end TrinoManagement.Collector
