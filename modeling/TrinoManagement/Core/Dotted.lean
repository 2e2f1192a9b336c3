/-
Paths written as one text with a separator between their segments.

- `prefix_join`: what a joined path begins with, up to a separator, is a shorter path joined, if no segment has a separator.
- `beneath_iff`: so it is with dotted texts.
-/
import Mathlib.Tactic

namespace TrinoManagement.Dotted

/-! ## Any separator -/

section Join

variable {α : Type} {sep : α} {path : List (List α)} {key : List α}

def join (sep : α) (path : List (List α)) : List α := [sep].intercalate path

theorem join_cons {segment : List α} (h : path ≠ []) : join sep (segment :: path) = segment ++ sep :: join sep path := by
  rw [join, List.intercalate_cons_of_ne_nil h]
  simp [join]

/-- a shorter path comes first, and a separator after it -/
theorem join_take_prefix {d : ℕ} (hpos : 0 < d) (hlt : d < path.length) : join sep (path.take d) ++ [sep] <+: join sep path := by
  induction path generalizing d with
  | nil => cases hlt
  | cons segment path ih =>
    obtain ⟨d, rfl⟩ := Nat.exists_eq_succ_of_ne_zero hpos.ne'
    have hrest : path ≠ [] := by
      rintro rfl
      simp at hlt
    rw [List.take_succ_cons, join_cons hrest]
    by_cases hd : d = 0
    · subst hd
      rw [List.take_zero, join, List.intercalate_singleton]
      exact ⟨join sep path, by simp⟩
    · have htake : path.take d ≠ [] := by
        simpa [List.take_eq_nil_iff, hrest] using hd
      rw [join_cons htake, List.append_assoc, List.cons_append]
      obtain ⟨rest, hrest⟩ := ih (Nat.pos_of_ne_zero hd) (Nat.lt_of_succ_lt_succ hlt)
      exact ⟨rest, by simp [← hrest]⟩

/-- **Prefixes of a path.** If no segment has a separator, what comes before one is a shorter path. -/
theorem prefix_join (hsegments : ∀ segment ∈ path, sep ∉ segment) (h : key ++ [sep] <+: join sep path) :
    ∃ d, 0 < d ∧ d < path.length ∧ key = join sep (path.take d) := by
  induction path generalizing key with
  | nil =>
    obtain ⟨rest, hrest⟩ := h
    simp [join] at hrest
  | cons segment path ih =>
    obtain ⟨hsegment, hpath⟩ := List.forall_mem_cons.1 hsegments
    by_cases hnil : path = []
    · subst hnil
      rw [join, List.intercalate_singleton] at h
      exact absurd (h.subset (List.mem_append_right key List.mem_cons_self)) hsegment
    · have hlength : 1 < (segment :: path).length := by
        simpa using List.length_pos_iff.2 hnil
      rw [join_cons hnil] at h
      -- the key ends in the first segment, at its end, or after it
      have hsplit : segment <+: key := by
        have hboth : segment <+: segment ++ sep :: join sep path := List.prefix_append ..
        rcases List.prefix_or_prefix_of_prefix hboth (List.IsPrefix.trans (List.prefix_append key [sep]) h) with hle | hle
        · exact hle
        · rcases hle.length_le.lt_or_eq with hlt | heq
          · have hin : key ++ [sep] <+: segment := by
              apply List.prefix_of_prefix_length_le h hboth
              simpa using hlt
            exact absurd (hin.subset (List.mem_append_right key List.mem_cons_self)) hsegment
          · exact (hle.eq_of_length heq) ▸ List.prefix_refl _
      obtain ⟨more, rfl⟩ := hsplit
      rw [List.append_assoc, List.prefix_append_right_inj] at h
      cases more with
      | nil => exact ⟨1, Nat.one_pos, hlength, by simp [join]⟩
      | cons first more =>
        obtain ⟨rfl, hmore⟩ := List.cons_prefix_cons.1 h
        obtain ⟨d, hpos, hlt, rfl⟩ := ih hpath hmore
        have htake : path.take d ≠ [] := by
          simpa [List.take_eq_nil_iff, hnil] using hpos.ne'
        exact ⟨d + 1, Nat.succ_pos d, Nat.succ_lt_succ hlt, by rw [List.take_succ_cons, join_cons htake]⟩

end Join

/-! ## Dots -/

def dotted (path : List String) : String := ".".intercalate path

section Dots

variable {path : List String} {key : String}

theorem toList_dotted (path : List String) : (dotted path).toList = join '.' (path.map String.toList) :=
  String.toList_intercalate

theorem dotted_append {path' : List String} (h : path ≠ []) (h' : path' ≠ []) :
    dotted (path ++ path') = dotted path ++ "." ++ dotted path' :=
  String.intercalate_append_of_ne_nil h h'

/-- **Beneath a key.** If no segment has a dot, a text begins with the key and a dot if the key is a shorter path. -/
theorem beneath_iff (hsegments : ∀ segment ∈ path, '.' ∉ segment.toList) :
    (key ++ ".").toList <+: (dotted path).toList ↔ ∃ d, 0 < d ∧ d < path.length ∧ key = dotted (path.take d) := by
  have hkey : (key ++ ".").toList = key.toList ++ ['.'] := String.toList_append
  rw [hkey, toList_dotted]
  constructor
  · intro h
    obtain ⟨d, hpos, hlt, heq⟩ := prefix_join (by simpa using hsegments) h
    refine ⟨d, hpos, by simpa using hlt, ?_⟩
    rw [← String.toList_inj, heq, toList_dotted, List.map_take]
  · rintro ⟨d, hpos, hlt, rfl⟩
    rw [toList_dotted, List.map_take]
    exact join_take_prefix hpos (by simpa using hlt)

end Dots

end TrinoManagement.Dotted
