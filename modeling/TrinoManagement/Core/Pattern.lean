/-
The part of Python's `re` the program uses on keys and names: `search` for one of several words, with optional
characters in them and at the end of the text, and whole names of one first and any later characters.

- `search`: an alternative matches at some place of the text. `search_or`: alternatives may be searched one by one.
- `search_stripChars`: what a pattern that takes no white space finds in a text, it finds in the text stripped.
-/
import Mathlib.Tactic
import TrinoManagement.Core.Text

namespace TrinoManagement.Text

/-- one step of a pattern -/
inductive Item where
  | one (p : Char → Bool)
  /-- with a question mark -/
  | opt (p : Char → Bool)
  /-- `$`: the end, or a newline before it -/
  | atEnd

abbrev Pattern := List Item

def matchesAt : Pattern → List Char → Bool
  | [], _ => true
  | .one p :: items, c :: rest => p c && matchesAt items rest
  | .one _ :: _, [] => false
  | .opt p :: items, c :: rest => matchesAt items (c :: rest) || p c && matchesAt items rest
  | .opt _ :: items, [] => matchesAt items []
  | .atEnd :: items, text => (text = [] ∨ text = ['\n']) && matchesAt items text

/-- `re.search` -/
def search (alternatives : List Pattern) (text : List Char) : Bool :=
  text.tails.any fun rest => alternatives.any fun items => matchesAt items rest

/-- a letter with `re.IGNORECASE`: its upper case, and the two or three others that fold to it -/
def ignoreCase (letter c : Char) : Bool :=
  c == letter || c == letter.toUpper || letter == 'k' && c == '\u212A' || letter == 's' && c == '\u017F' ||
    letter == 'i' && (c == '\u0130' || c == '\u0131')

def word (w : String) : Pattern := w.toList.map fun letter => .one (ignoreCase letter)

/-- the newline `$` passes over -/
def dropFinalNewline (text : List Char) : List Char := if text.getLast? = some '\n' then text.dropLast else text

/-- `^[first][later]*$` -/
def isName (first later : Char → Bool) (text : List Char) : Bool :=
  match dropFinalNewline text with
  | [] => false
  | c :: rest => first c && rest.all later

/-- a name is made of its letters -/
theorem isName_later {first later : Char → Bool} (hfirst : ∀ c, first c = true → later c = true) {text : List Char}
    (h : isName first later text = true) : ∀ c ∈ dropFinalNewline text, later c = true := by
  unfold isName at h
  split at h
  · cases h
  · rename_i c rest heq
    rw [Bool.and_eq_true] at h
    rw [heq]
    intro d hd
    rcases List.mem_cons.1 hd with rfl | hd
    · exact hfirst d h.1
    · exact List.all_eq_true.1 h.2 d hd

theorem search_or (l l' : List Pattern) (text : List Char) : search (l ++ l') text = (search l text || search l' text) := by
  unfold search
  rw [Bool.eq_iff_iff]
  simp only [List.any_append, List.any_eq_true, Bool.or_eq_true]
  constructor
  · rintro ⟨rest, hrest, h | h⟩
    · exact .inl ⟨rest, hrest, h⟩
    · exact .inr ⟨rest, hrest, h⟩
  · rintro (⟨rest, hrest, h⟩ | ⟨rest, hrest, h⟩)
    · exact ⟨rest, hrest, .inl h⟩
    · exact ⟨rest, hrest, .inr h⟩

/-- what a pattern has to find, the text has -/
theorem exists_of_matchesAt {p : Char → Bool} {items : Pattern} {text : List Char} (hmem : .one p ∈ items)
    (h : matchesAt items text = true) : ∃ c ∈ text, p c = true := by
  induction items generalizing text with
  | nil => cases hmem
  | cons item items ih =>
    cases item with
    | one q =>
      cases text with
      | nil => cases h
      | cons c text =>
        rw [matchesAt, Bool.and_eq_true] at h
        rcases List.mem_cons.1 hmem with hq | hmem
        · cases hq
          exact ⟨c, List.mem_cons_self, h.1⟩
        · obtain ⟨d, hd, hp⟩ := ih hmem h.2
          exact ⟨d, List.mem_cons_of_mem c hd, hp⟩
    | opt q =>
      have hmem' : .one p ∈ items := by simpa using hmem
      cases text with
      | nil => exact ih hmem' h
      | cons c text =>
        rw [matchesAt, Bool.or_eq_true, Bool.and_eq_true] at h
        rcases h with h | ⟨-, h⟩
        · exact ih hmem' h
        · obtain ⟨d, hd, hp⟩ := ih hmem' h
          exact ⟨d, List.mem_cons_of_mem c hd, hp⟩
    | atEnd =>
      rw [matchesAt, Bool.and_eq_true] at h
      exact ih (by simpa using hmem) h.2

/-- no step takes white space -/
def Item.Solid : Item → Prop
  | .one p | .opt p => ∀ c, p c = true → isSpace c = false
  | .atEnd => True

/-- white space after the text is not needed for a match -/
theorem matchesAt_append_spaces {items : Pattern} (hsolid : ∀ item ∈ items, item.Solid) {text spaces : List Char}
    (hspaces : ∀ c ∈ spaces, isSpace c = true) (h : matchesAt items (text ++ spaces) = true) :
    matchesAt items text = true := by
  induction items generalizing text with
  | nil => rfl
  | cons item items ih =>
    have hitem := hsolid item List.mem_cons_self
    have hrest : ∀ i ∈ items, i.Solid := fun i hi => hsolid i (List.mem_cons_of_mem _ hi)
    cases item with
    | one p =>
      cases text with
      | nil =>
        cases spaces with
        | nil => exact h
        | cons c spaces =>
          simp only [List.nil_append, matchesAt, Bool.and_eq_true] at h
          have := hitem c h.1
          rw [hspaces c List.mem_cons_self] at this
          cases this
      | cons c text =>
        simp only [List.cons_append, matchesAt, Bool.and_eq_true] at h ⊢
        exact ⟨h.1, ih hrest h.2⟩
    | opt p =>
      cases text with
      | nil =>
        cases spaces with
        | nil => exact h
        | cons c spaces =>
          simp only [List.nil_append, matchesAt, Bool.or_eq_true, Bool.and_eq_true] at h
          rcases h with h | h
          · exact @ih hrest [] h
          · have := hitem c h.1
            rw [hspaces c List.mem_cons_self] at this
            cases this
      | cons c text =>
        simp only [List.cons_append, matchesAt, Bool.or_eq_true, Bool.and_eq_true] at h ⊢
        rcases h with h | h
        · exact .inl (@ih hrest (c :: text) h)
        · exact .inr ⟨h.1, ih hrest h.2⟩
    | atEnd =>
      simp only [matchesAt, Bool.and_eq_true, decide_eq_true_eq] at h ⊢
      refine ⟨?_, ih hrest h.2⟩
      rcases h.1 with h | h
      · exact .inl (List.append_eq_nil_iff.1 h).1
      · cases text with
        | nil => exact .inl rfl
        | cons c text =>
          obtain ⟨rfl, htext⟩ := List.cons.inj h
          rw [(List.append_eq_nil_iff.1 htext).1]
          exact .inr rfl

/-- where white space comes next nothing is taken -/
theorem matchesAt_nil_of_space {items : Pattern} (hsolid : ∀ item ∈ items, item.Solid) {c : Char} {rest : List Char}
    (hc : isSpace c = true) (h : matchesAt items (c :: rest) = true) : matchesAt items [] = true := by
  induction items with
  | nil => rfl
  | cons item items ih =>
    have hitem := hsolid item List.mem_cons_self
    have hrest : ∀ i ∈ items, i.Solid := fun i hi => hsolid i (List.mem_cons_of_mem _ hi)
    have taken : ∀ p : Char → Bool, (∀ c, p c = true → isSpace c = false) → p c = false := fun p hp => by
      by_contra hpc
      have := hp c (by simpa using hpc)
      rw [hc] at this
      cases this
    cases item with
    | one p =>
      rw [matchesAt, taken p hitem] at h
      cases h
    | opt p =>
      rw [matchesAt, taken p hitem, Bool.false_and, Bool.or_false] at h
      exact ih hrest h
    | atEnd =>
      rw [matchesAt, Bool.and_eq_true] at h
      rw [matchesAt, ih hrest h.2]
      rfl

section Search

variable {alternatives : List Pattern} (hsolid : ∀ items ∈ alternatives, ∀ item ∈ items, Item.Solid item)

theorem search_iff {text : List Char} : search alternatives text = true ↔
    ∃ rest, rest <:+ text ∧ ∃ items ∈ alternatives, matchesAt items rest = true := by
  simp only [search, List.any_eq_true, List.mem_tails]

theorem search_nil_of_space {c : Char} {rest : List Char} (hc : isSpace c = true) {items : Pattern}
    (hitems : items ∈ alternatives) (hsolid : ∀ item ∈ items, Item.Solid item)
    (h : matchesAt items (c :: rest) = true) (text : List Char) : search alternatives text = true :=
  search_iff.2 ⟨[], List.nil_suffix, items, hitems, matchesAt_nil_of_space hsolid hc h⟩

include hsolid

theorem search_dropWhile {text : List Char} (h : search alternatives text = true) :
    search alternatives (text.dropWhile isSpace) = true := by
  induction text with
  | nil => exact h
  | cons c text ih =>
    by_cases hc : isSpace c = true
    · rw [List.dropWhile_cons_of_pos hc]
      obtain ⟨rest, hsuffix, items, hitems, hmatch⟩ := search_iff.1 h
      rcases List.suffix_cons_iff.1 hsuffix with rfl | hsuffix
      · exact search_nil_of_space hc hitems (hsolid items hitems) hmatch _
      · exact ih (search_iff.2 ⟨rest, hsuffix, items, hitems, hmatch⟩)
    · rwa [List.dropWhile_cons_of_neg hc]

theorem search_append_spaces {text spaces : List Char} (hspaces : ∀ c ∈ spaces, isSpace c = true)
    (h : search alternatives (text ++ spaces) = true) : search alternatives text = true := by
  induction text with
  | nil =>
    obtain ⟨rest, hsuffix, items, hitems, hmatch⟩ := search_iff.1 h
    cases rest with
    | nil => exact search_iff.2 ⟨[], List.nil_suffix, items, hitems, hmatch⟩
    | cons c rest =>
      exact search_nil_of_space (hspaces c (hsuffix.subset List.mem_cons_self)) hitems (hsolid items hitems) hmatch _
  | cons c text ih =>
    obtain ⟨rest, hsuffix, items, hitems, hmatch⟩ := search_iff.1 h
    rcases List.suffix_cons_iff.1 hsuffix with rfl | hsuffix
    · have hkept := @matchesAt_append_spaces items (hsolid items hitems) (c :: text) spaces hspaces hmatch
      exact search_iff.2 ⟨c :: text, List.suffix_rfl, items, hitems, hkept⟩
    · obtain ⟨rest', hsuffix', found⟩ := search_iff.1 (ih (search_iff.2 ⟨rest, hsuffix, items, hitems, hmatch⟩))
      exact search_iff.2 ⟨rest', hsuffix'.trans (List.suffix_cons c text), found⟩

/-- **What is found in a text is found in it stripped.** -/
theorem search_stripChars {text : List Char} (h : search alternatives text = true) :
    search alternatives (stripChars text) = true := by
  have hspaces : ∀ c ∈ (text.dropWhile isSpace).rtakeWhile isSpace, isSpace c = true := fun c hc =>
    List.mem_rtakeWhile_imp hc
  refine search_append_spaces hsolid hspaces ?_
  rw [stripChars, List.rdropWhile_append_rtakeWhile]
  exact search_dropWhile hsolid h

end Search

end TrinoManagement.Text
