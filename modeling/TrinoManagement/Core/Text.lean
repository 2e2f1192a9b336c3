/-
Python string operations as the program uses them: `str.strip`, the blank test `not (s or "").strip()`, and the reason
every write action carries.

`Reason` is a stripped text that is not blank, so a stored reason can be handed on without checking it again.
-/
import Mathlib.Data.List.DropRight
import Mathlib.Tactic

namespace TrinoManagement.Text

/-- `str.isspace` for one character: the code points Python strips -/
def isSpace (c : Char) : Bool :=
  let n := c.toNat
  (decide (9 ≤ n) && decide (n ≤ 13)) || (decide (28 ≤ n) && decide (n ≤ 32)) || n == 133 || n == 160 || n == 5760 ||
    (decide (8192 ≤ n) && decide (n ≤ 8202)) || n == 8232 || n == 8233 || n == 8239 || n == 8287 || n == 12288

theorem isLower_range {c : Char} (h : c.isLower = true) : 97 ≤ c.toNat ∧ c.toNat ≤ 122 := by
  have hboth : decide (c.val ≥ 'a'.val) = true ∧ decide (c.val ≤ 'z'.val) = true := Bool.and_eq_true_iff.1 h
  exact ⟨UInt32.le_iff_toNat_le.1 (of_decide_eq_true hboth.1), UInt32.le_iff_toNat_le.1 (of_decide_eq_true hboth.2)⟩

theorem isUpper_range {c : Char} (h : c.isUpper = true) : 65 ≤ c.toNat ∧ c.toNat ≤ 90 := by
  have hboth : c.val ≥ 'A'.val ∧ c.val ≤ 'Z'.val := of_decide_eq_true h
  exact ⟨UInt32.le_iff_toNat_le.1 hboth.1, UInt32.le_iff_toNat_le.1 hboth.2⟩

theorem isDigit_range {c : Char} (h : c.isDigit = true) : 48 ≤ c.toNat ∧ c.toNat ≤ 57 := by
  have hboth : decide (c.val ≥ '0'.val) = true ∧ decide (c.val ≤ '9'.val) = true := Bool.and_eq_true_iff.1 h
  exact ⟨UInt32.le_iff_toNat_le.1 (of_decide_eq_true hboth.1), UInt32.le_iff_toNat_le.1 (of_decide_eq_true hboth.2)⟩

def stripChars (l : List Char) : List Char := (l.dropWhile isSpace).rdropWhile isSpace

/-- `str.strip` -/
def strip (s : String) : String := String.ofList (stripChars s.toList)

/-- `not (s or "").strip()` -/
def blank (s : String) : Bool := s.toList.all isSpace

theorem dropWhile_stripChars (l : List Char) : (stripChars l).dropWhile isSpace = stripChars l := by
  rw [List.dropWhile_eq_self_iff]
  intro hl
  have hpre : stripChars l <+: l.dropWhile isSpace := List.rdropWhile_prefix _ _
  obtain ⟨t, ht⟩ := hpre
  have hne : 0 < (l.dropWhile isSpace).length := by rw [← ht]; simp; omega
  have h0 := List.dropWhile_get_zero_not isSpace l hne
  simpa [← ht, List.getElem_append_left hl] using h0

theorem stripChars_idem (l : List Char) : stripChars (stripChars l) = stripChars l := by
  have head := dropWhile_stripChars l
  unfold stripChars at head ⊢
  rw [head, List.rdropWhile_idempotent]

/-- a text is its core between white space -/
theorem stripChars_split (l : List Char) : ∃ lead trail, l = lead ++ (stripChars l ++ trail) ∧
    (∀ c ∈ lead, isSpace c = true) ∧ ∀ c ∈ trail, isSpace c = true := by
  refine ⟨l.takeWhile isSpace, (l.dropWhile isSpace).rtakeWhile isSpace, ?_, fun c hc => List.mem_takeWhile_imp hc,
    fun c hc => List.mem_rtakeWhile_imp hc⟩
  rw [stripChars, List.rdropWhile_append_rtakeWhile, List.takeWhile_append_dropWhile]

theorem rdropWhile_append_spaces (l : List Char) {spaces : List Char} (hspaces : ∀ c ∈ spaces, isSpace c = true) :
    (l ++ spaces).rdropWhile isSpace = l.rdropWhile isSpace := by
  induction spaces using List.reverseRecOn with
  | nil => rw [List.append_nil]
  | append_singleton spaces c ih =>
    rw [← List.append_assoc, List.rdropWhile_concat_pos _ _ _ (hspaces c (by simp))]
    exact ih fun d hd => hspaces d (List.mem_append_left _ hd)

theorem stripChars_spaces {spaces : List Char} (hspaces : ∀ c ∈ spaces, isSpace c = true) : stripChars spaces = [] := by
  rw [stripChars, List.dropWhile_eq_nil_iff.2 hspaces, List.rdropWhile_nil]

/-- a text with more than white space in it -/
theorem stripChars_ne_nil {l : List Char} (h : l.rdropWhile isSpace ≠ []) : stripChars l ≠ [] := by
  intro hnil
  obtain ⟨lead, trail, hl, hlead, htrail⟩ := stripChars_split l
  have hspaces : ∀ c ∈ l, isSpace c = true := by
    rw [hl, hnil, List.nil_append]
    exact fun c hc => (List.mem_append.1 hc).elim (hlead c) (htrail c)
  exact h (List.rdropWhile_eq_nil_iff.2 hspaces)

theorem stripChars_append_spaces (l : List Char) {spaces : List Char} (hspaces : ∀ c ∈ spaces, isSpace c = true) :
    stripChars (l ++ spaces) = stripChars l := by
  rw [stripChars, List.dropWhile_append]
  split_ifs with hl
  · have hl : l.dropWhile isSpace = [] := List.isEmpty_iff.1 hl
    rw [List.dropWhile_eq_nil_iff.2 hspaces, stripChars, hl]
  · rw [rdropWhile_append_spaces _ hspaces, stripChars]

theorem stripChars_spaces_append {spaces : List Char} (hspaces : ∀ c ∈ spaces, isSpace c = true) (l : List Char) :
    stripChars (spaces ++ l) = stripChars l := by
  rw [stripChars, List.dropWhile_append_of_pos hspaces, stripChars]

/-- a stripped text does not begin with white space -/
theorem isSpace_head {c : Char} {rest : List Char} (h : stripChars (c :: rest) = c :: rest) : isSpace c = false := by
  have hhead := dropWhile_stripChars (c :: rest)
  rw [h] at hhead
  by_contra hc
  rw [List.dropWhile_cons_of_pos (by simpa using hc)] at hhead
  have hlength := congrArg List.length hhead
  have := (List.dropWhile_sublist (l := rest) isSpace).length_le
  rw [List.length_cons] at hlength
  omega

theorem strip_idem (s : String) : strip (strip s) = strip s := by
  simp [strip, stripChars_idem]

theorem blank_strip (s : String) : blank (strip s) = blank s := by
  rw [Bool.eq_iff_iff]
  simp only [blank, strip, String.toList_ofList, List.all_eq_true, stripChars]
  constructor
  · intro h c hc
    rw [← List.takeWhile_append_dropWhile (p := isSpace) (l := s.toList)] at hc
    rcases List.mem_append.1 hc with hc | hc
    · exact List.mem_takeWhile_imp hc
    · rw [← List.rdropWhile_append_rtakeWhile (p := isSpace) (l := s.toList.dropWhile isSpace)] at hc
      rcases List.mem_append.1 hc with hc | hc
      · exact h c hc
      · exact List.mem_rtakeWhile_imp hc
  · intro h c hc
    exact h c ((List.dropWhile_sublist _).subset ((List.rdropWhile_prefix _ _).subset hc))

/-- a stripped reason that is not blank -/
structure Reason where
  text : String
  stripped : strip text = text
  notBlank : blank text = false
deriving DecidableEq, Repr

def Reason.ofString (s : String) (h : blank s = false) : Reason := ⟨strip s, strip_idem s, by rw [blank_strip, h]⟩

end TrinoManagement.Text
