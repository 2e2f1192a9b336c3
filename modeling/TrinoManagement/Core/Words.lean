/-
White space in reasons: `str.split()`, `" ".join`, and the `normalise_reason` of `tms/core/audit.py`.

- `Word`: a run of characters that are not white space; what `words` returns is made of them.
- `words_intercalate`: joined words are split into the same words again. `take_intercalate`: and so is a part of them.
- `recorded_reason`: so a normalised reason is its own normal form. `words_strip`: what `strip` takes away is none of a word.
-/
import Mathlib.Data.Bool.AllAny
import Mathlib.Tactic
import TrinoManagement.Core.Audit

namespace TrinoManagement.Audit

open TrinoManagement.Text (isSpace strip stripChars stripChars_split)

/-! ## Words -/

/-- a run of characters that are not white space -/
structure Word (w : List Char) : Prop where
  ne_nil : w ≠ []
  noSpace : ∀ c ∈ w, isSpace c = false

theorem noSpace_of_mem_splitOnP {l w : List Char} (h : w ∈ l.splitOnP isSpace) : ∀ c ∈ w, isSpace c = false := by
  induction l generalizing w with
  | nil =>
    obtain rfl := List.mem_singleton.1 (List.splitOnP_nil (p := isSpace) ▸ h)
    nofun
  | cons c l ih =>
    rw [List.splitOnP_cons_eq_if_modifyHead] at h
    split_ifs at h with hc
    · rcases List.mem_cons.1 h with rfl | h
      · nofun
      · exact ih h
    · cases hparts : l.splitOnP isSpace with
      | nil => exact absurd hparts (List.splitOnP_ne_nil _ _)
      | cons v rest =>
        rw [hparts] at h ih
        rcases List.mem_cons.1 h with rfl | h
        · intro d hd
          rcases List.mem_cons.1 hd with rfl | hd
          · simpa using hc
          · exact ih List.mem_cons_self d hd
        · exact ih (List.mem_cons_of_mem v h)

theorem word_of_mem_words {s : String} {w : List Char} (h : w ∈ words s) : Word w := by
  obtain ⟨hmem, hne⟩ := List.mem_filter.1 h
  exact ⟨by simpa using hne, noSpace_of_mem_splitOnP hmem⟩

theorem splitOnP_intercalate {w : List Char} {ws : List (List Char)} (h : ∀ v ∈ w :: ws, Word v) :
    ([' '].intercalate (w :: ws)).splitOnP isSpace = w :: ws := by
  induction ws generalizing w with
  | nil =>
    rw [List.intercalate_singleton]
    exact List.splitOnP_eq_singleton (h w List.mem_cons_self).noSpace
  | cons v ws ih =>
    have hw := (h w List.mem_cons_self).noSpace
    rw [List.intercalate_cons_cons, List.append_assoc, List.singleton_append,
      List.splitOnP_append_cons_of_forall_mem hw ' ' (by decide), ih fun u hu => h u (List.mem_cons_of_mem w hu)]

/-- white space is collapsed once -/
theorem words_intercalate {ws : List (List Char)} (h : ∀ w ∈ ws, Word w) :
    words (String.ofList ([' '].intercalate ws)) = ws := by
  rw [words, String.toList_ofList]
  cases ws with
  | nil => rfl
  | cons w ws =>
    rw [splitOnP_intercalate h, List.filter_eq_self]
    intro v hv
    simpa using (h v hv).ne_nil

/-- a part of the words: some of them, and the beginning of one -/
theorem take_intercalate {ws : List (List Char)} (h : ∀ w ∈ ws, Word w) (n : ℕ) : ∃ (ws' : List (List Char)) (w : List Char),
    (∀ v ∈ ws', Word v) ∧ (∀ c ∈ w, isSpace c = false) ∧ ∀ (rest : List Char),
      ([' '].intercalate ws).take n ++ rest = [' '].intercalate (ws' ++ [w ++ rest]) := by
  induction ws generalizing n with
  | nil => exact ⟨[], [], nofun, nofun, fun rest => by simp⟩
  | cons w ws ih =>
    have hw := (h w List.mem_cons_self).noSpace
    cases ws with
    | nil => exact ⟨[], w.take n, nofun, fun c hc => hw c (List.mem_of_mem_take hc), fun rest => by simp⟩
    | cons v ws =>
      by_cases hn : n ≤ w.length
      · refine ⟨[], w.take n, nofun, fun c hc => hw c (List.mem_of_mem_take hc), fun rest => ?_⟩
        rw [List.intercalate_cons_cons, List.append_assoc, List.take_append_of_le_length hn]
        simp
      · obtain ⟨m, rfl⟩ : ∃ m, n = w.length + (m + 1) := ⟨n - w.length - 1, by omega⟩
        obtain ⟨ws', u, hws', hu, hrest⟩ := ih (fun u hu => h u (List.mem_cons_of_mem w hu)) m
        refine ⟨w :: ws', u, ?_, hu, fun rest => ?_⟩
        · rintro u' hu'
          rcases List.mem_cons.1 hu' with rfl | hu'
          · exact h _ List.mem_cons_self
          · exact hws' u' hu'
        · have hne : ws' ++ [u ++ rest] ≠ [] := by simp
          rw [List.cons_append, List.intercalate_cons_of_ne_nil hne, ← hrest rest, List.intercalate_cons_cons]
          simp [List.take_append]

/-- **A reason on record is as it is said**: collapsed and cut already. -/
theorem recorded_reason {reason clean : String} (h : normaliseReason reason = some clean) :
    String.ofList ([' '].intercalate (words clean)) = clean ∧ clean.length ≤ 512 := by
  have hwords : ∀ w ∈ words reason, Word w := fun w => word_of_mem_words
  unfold normaliseReason at h
  dsimp only at h
  split_ifs at h with hnil hlong
  · obtain ⟨ws', w, hws', hw, hrest⟩ := take_intercalate hwords (maxReasonLength - 3)
    have hclean : clean = String.ofList ([' '].intercalate (ws' ++ [w ++ ['.', '.', '.']])) := by
      rw [← Option.some.inj h, ← hrest]
      exact (String.ofList_append ..).symm
    have hword : ∀ v ∈ ws' ++ [w ++ ['.', '.', '.']], Word v := by
      intro v hv
      rcases List.mem_append.1 hv with hv | hv
      · exact hws' v hv
      · obtain rfl := List.mem_singleton.1 hv
        refine ⟨by simp, fun c hc => ?_⟩
        rcases List.mem_append.1 hc with hc | hc
        · exact hw c hc
        · have hdots : ∀ d ∈ ['.', '.', '.'], isSpace d = false := List.all_iff_forall_prop.1 (by decide)
          exact hdots c hc
    constructor
    · rw [hclean, words_intercalate hword]
    · rw [← Option.some.inj h, String.length_append, String.length_ofList, List.length_take]
      exact Nat.add_le_add_right (Nat.min_le_left ..) 3
  · obtain rfl := Option.some.inj h
    rw [words_intercalate hwords, String.length_ofList]
    exact ⟨rfl, not_lt.1 hlong⟩

/-! ## Stripped texts -/

theorem words_space {c : Char} {l : List Char} (hc : isSpace c = true) : (c :: l).splitOnP isSpace = [] :: l.splitOnP isSpace := by
  rw [List.splitOnP_cons_eq_if_modifyHead, if_pos hc]

/-- the runs of a list, without the empty ones -/
theorem filter_spaces_append {spaces l : List Char} (h : ∀ c ∈ spaces, isSpace c = true) :
    ((spaces ++ l).splitOnP isSpace).filter (fun w => !w.isEmpty) = (l.splitOnP isSpace).filter fun w => !w.isEmpty := by
  induction spaces with
  | nil => rfl
  | cons c spaces ih =>
    rw [List.cons_append, words_space (h c List.mem_cons_self), List.filter_cons_of_neg (by decide)]
    exact ih fun d hd => h d (List.mem_cons_of_mem c hd)

theorem filter_append_spaces {spaces l : List Char} (h : ∀ c ∈ spaces, isSpace c = true) :
    ((l ++ spaces).splitOnP isSpace).filter (fun w => !w.isEmpty) = (l.splitOnP isSpace).filter fun w => !w.isEmpty := by
  cases spaces with
  | nil => rw [List.append_nil]
  | cons c spaces =>
    have hrest := filter_spaces_append (l := []) fun d hd => h d (List.mem_cons_of_mem c hd)
    rw [List.append_nil] at hrest
    rw [List.splitOnP_append_cons _ _ (h c List.mem_cons_self), List.filter_append, hrest]
    exact List.append_nil _

theorem words_strip (s : String) : words (strip s) = words s := by
  obtain ⟨lead, trail, hsplit, hlead, htrail⟩ := stripChars_split s.toList
  rw [words, words, strip, String.toList_ofList, hsplit, filter_spaces_append hlead, filter_append_spaces htrail, ← hsplit]

theorem normaliseReason_strip (s : String) : normaliseReason (strip s) = normaliseReason s := by
  rw [normaliseReason, words_strip]
  rfl

end TrinoManagement.Audit
