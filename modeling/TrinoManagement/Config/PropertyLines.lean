/-
What the lines of a properties file say to `parse_properties`.

- `property_ok`: the key and the value of a line hold no line break, the key no `=` and no comment mark.
- `contents_pair`: a pair whose value is one line is read back as it was written.
- `contents_torn`: of a pair whose value begins on a later line the file keeps an empty value.
-/
import Mathlib.Tactic
import TrinoManagement.Config.Scan

namespace TrinoManagement.ConfigScan

open TrinoManagement.Text

/-! ## One line -/

/-- a key as a line can hold it -/
structure Key (key : List Char) : Prop where
  stripped : stripChars key = key
  sep : '=' ∉ key
  mark : key.head? ≠ some '#' ∧ key.head? ≠ some '!'
  line : ∀ c ∈ key, isBreak c = false

theorem mem_stripChars {l : List Char} {c : Char} (h : c ∈ stripChars l) : c ∈ l :=
  (List.dropWhile_sublist _).subset ((List.rdropWhile_prefix _ _).subset h)

theorem length_stripChars (l : List Char) : (stripChars l).length ≤ l.length :=
  (List.rdropWhile_prefix _ _).length_le.trans (List.dropWhile_sublist _).length_le

theorem property_strip (line : List Char) : property (stripChars line) = property line := by
  simp only [property, stripChars_idem]

theorem property_spaces {spaces : List Char} (h : ∀ c ∈ spaces, isSpace c = true) : property spaces = none := by
  rw [← property_strip, stripChars_spaces h]
  rfl

theorem property_append_spaces (line : List Char) {spaces : List Char} (h : ∀ c ∈ spaces, isSpace c = true) :
    property (line ++ spaces) = property line := by
  rw [← property_strip, stripChars_append_spaces line h, property_strip]

theorem property_spaces_append {spaces : List Char} (h : ∀ c ∈ spaces, isSpace c = true) (line : List Char) :
    property (spaces ++ line) = property line := by
  rw [← property_strip, stripChars_spaces_append h line, property_strip]

/-- the first character of a text before its `=` -/
theorem head_takeWhile {l : List Char} {c : Char} (h : (l.takeWhile (· != '=')).head? = some c) : l.head? = some c := by
  cases l with
  | nil => cases h
  | cons d rest =>
    by_cases hd : d = '='
    · subst hd
      cases h
    · rw [List.takeWhile_cons_of_pos (by simpa using hd)] at h
      exact h

theorem head_stripChars {l : List Char} (hl : stripChars l = l) {c : Char}
    (h : (stripChars (l.takeWhile (· != '='))).head? = some c) : l.head? = some c := by
  cases hkey : l.takeWhile (· != '=') with
  | nil =>
    rw [hkey] at h
    cases h
  | cons d rest =>
    have hhead : l.head? = some d := head_takeWhile (by rw [hkey]; rfl)
    have hd : isSpace d = false := by
      cases l with
      | nil => cases hhead
      | cons e more =>
        obtain rfl := Option.some.inj hhead
        exact isSpace_head hl
    obtain ⟨t, ht⟩ := List.rdropWhile_prefix isSpace (d :: rest)
    rw [hkey, stripChars, List.dropWhile_cons_of_neg (by simp [hd])] at h
    rw [hhead]
    cases hdrop : (d :: rest).rdropWhile isSpace with
    | nil =>
      rw [hdrop] at h
      cases h
    | cons e more =>
      rw [hdrop] at h ht
      obtain ⟨rfl, -⟩ := List.cons.inj ht
      exact h

/-- a line that holds a pair, and which -/
theorem property_eq_some {line : List Char} {p : String × String} (h : property line = some p) :
    (stripChars line).head? ≠ some '#' ∧ (stripChars line).head? ≠ some '!' ∧ '=' ∈ stripChars line ∧
      p = (String.ofList (stripChars ((stripChars line).takeWhile (· != '='))),
        String.ofList (stripChars ((stripChars line).dropWhile (· != '=')).tail)) := by
  unfold property at h
  dsimp only at h
  split_ifs at h with hskip hsep
  simp only [Bool.or_eq_true, beq_iff_eq, not_or] at hskip
  exact ⟨hskip.1.2, hskip.2, by simpa using hsep, (Option.some.inj h).symm⟩

/-- **What a line holds** is a key and a value of the line, and the value is shorter. -/
theorem property_ok {line : List Char} (hline : ∀ c ∈ line, isBreak c = false) {p : String × String}
    (h : property line = some p) : Key p.1.toList ∧ (∀ c ∈ p.2.toList, isBreak c = false) ∧
      p.2.toList.length < line.length := by
  obtain ⟨hhash, hbang, hsep, rfl⟩ := property_eq_some h
  simp only [String.toList_ofList]
  have hkey : ∀ c ∈ stripChars ((stripChars line).takeWhile (· != '=')), c ∈ (stripChars line).takeWhile (· != '=') :=
    fun c hc => mem_stripChars hc
  have hvalue : ∀ c ∈ stripChars ((stripChars line).dropWhile (· != '=')).tail, c ∈ stripChars line := fun c hc =>
    (List.dropWhile_sublist _).subset (List.mem_of_mem_tail (mem_stripChars hc))
  refine ⟨⟨stripChars_idem _, fun hmem => ?_, ⟨fun hh => ?_, fun hh => ?_⟩, fun c hc => hline c ?_⟩,
    fun c hc => hline c (mem_stripChars (hvalue c hc)), ?_⟩
  · simpa using List.mem_takeWhile_imp (hkey _ hmem)
  · exact hhash (head_stripChars (stripChars_idem line) hh)
  · exact hbang (head_stripChars (stripChars_idem line) hh)
  · exact mem_stripChars ((List.takeWhile_sublist _).subset (hkey c hc))
  · have hle := length_stripChars line
    have htail := length_stripChars ((stripChars line).dropWhile (· != '=')).tail
    have hdrop := (List.dropWhile_sublist (l := stripChars line) (· != '=')).length_le
    have hne : 0 < (stripChars line).length := List.length_pos_of_mem hsep
    rw [List.length_tail] at htail
    omega

/-- **A pair on a line of its own.** -/
theorem property_pair {key : List Char} (hkey : Key key) (hsome : key ≠ []) (value : List Char) :
    property (key ++ '=' :: value) = some (String.ofList key, String.ofList (stripChars value)) := by
  obtain ⟨c, rest, rfl⟩ := List.exists_cons_of_ne_nil hsome
  have hc : isSpace c = false := isSpace_head hkey.stripped
  have hvalue : value.rdropWhile isSpace ++ value.rtakeWhile isSpace = value := List.rdropWhile_append_rtakeWhile
  have htrail : ∀ c ∈ value.rtakeWhile isSpace, isSpace c = true := fun c hc => List.mem_rtakeWhile_imp hc
  -- nothing is stripped but the white space after the value
  have hline : stripChars ((c :: rest) ++ '=' :: value) = (c :: rest) ++ '=' :: value.rdropWhile isSpace := by
    have hsplit : (c :: rest) ++ '=' :: value =
        ((c :: rest) ++ '=' :: value.rdropWhile isSpace) ++ value.rtakeWhile isSpace := by
      conv_lhs => rw [← hvalue]
      simp
    rw [hsplit, stripChars_append_spaces _ htrail, stripChars, List.cons_append,
      List.dropWhile_cons_of_neg (by simp [hc]), List.rdropWhile_eq_self_iff]
    intro hne
    by_cases hnil : value.rdropWhile isSpace = []
    · simp only [hnil, ← List.cons_append, List.getLast_append_singleton]
      decide
    · have hlast := List.rdropWhile_last_not isSpace value hnil
      rw [List.getLast_cons (by simp), List.getLast_append_of_ne_nil _ (by simp), List.getLast_cons hnil]
      exact hlast
  have htake : ((c :: rest) ++ '=' :: value.rdropWhile isSpace).takeWhile (· != '=') = c :: rest := by
    rw [List.takeWhile_append_of_pos fun d hd => ?_]
    · simp
    · simpa using fun heq : d = '=' => hkey.sep (heq ▸ hd)
  have hdrop : ((c :: rest) ++ '=' :: value.rdropWhile isSpace).dropWhile (· != '=') = '=' :: value.rdropWhile isSpace := by
    rw [List.dropWhile_append_of_pos fun d hd => ?_]
    · simp
    · simpa using fun heq : d = '=' => hkey.sep (heq ▸ hd)
  have hstrip : stripChars (value.rdropWhile isSpace) = stripChars value := by
    conv_rhs => rw [← hvalue, stripChars_append_spaces _ htrail]
  unfold property
  rw [hline]
  dsimp only
  rw [if_neg, if_neg, htake, hdrop, hkey.stripped, List.tail_cons, hstrip]
  · simp
  · simpa using hkey.mark

/-! ## Several lines -/

theorem contents_spaces {spaces : List Char} (h : ∀ c ∈ spaces, isSpace c = true) : contents property spaces = [] := by
  induction spaces using lines_induction with
  | last l hl => rw [contents_line rfl hl, property_spaces h]; rfl
  | next l b rest hl hb ih =>
    have hspaces : ∀ c ∈ l, isSpace c = true := fun c hc => h c (List.mem_append_left _ hc)
    rw [contents_break hl hb, property_spaces hspaces, ih fun c hc => h c (by simp [mem_of_mem_afterBreak hc])]
    rfl

theorem contents_append_spaces {l spaces : List Char} (hl : ∀ c ∈ l, isBreak c = false)
    (h : ∀ c ∈ spaces, isSpace c = true) : contents property (l ++ spaces) = (property l).toList := by
  induction spaces using lines_induction with
  | last s hs =>
    have hline : ∀ c ∈ l ++ s, isBreak c = false := fun c hc => (List.mem_append.1 hc).elim (hl c) (hs c)
    rw [contents_line rfl hline, property_append_spaces l h]
  | next s b rest hs hb ih =>
    have hline : ∀ c ∈ l ++ s, isBreak c = false := fun c hc => (List.mem_append.1 hc).elim (hl c) (hs c)
    have hblank : contents property (afterBreak b rest) = [] :=
      contents_spaces fun c hc => h c (by simp [mem_of_mem_afterBreak hc])
    rw [← List.append_assoc, contents_break hline hb, hblank, List.append_nil,
      property_append_spaces l fun c hc => h c (List.mem_append_left _ hc)]

/-- blank lines before a line -/
theorem contents_spaces_append {l lead trail : List Char} (hl : ∀ c ∈ l, isBreak c = false)
    (hhead : l.head? ≠ some '\n') (hsome : l ≠ []) (hlead : ∀ c ∈ lead, isSpace c = true)
    (htrail : ∀ c ∈ trail, isSpace c = true) : contents property (lead ++ (l ++ trail)) = (property l).toList := by
  induction lead using lines_induction with
  | last s hs =>
    have hline : ∀ c ∈ s ++ l, isBreak c = false := fun c hc => (List.mem_append.1 hc).elim (hs c) (hl c)
    rw [← List.append_assoc, contents_append_spaces hline htrail, property_spaces_append hlead]
  | next s b rest hs hb ih =>
    have hspaces : ∀ c ∈ s, isSpace c = true := fun c hc => hlead c (List.mem_append_left _ hc)
    have hjoin : (l ++ trail).head? ≠ some '\n' := by
      rwa [List.head?_append_of_ne_nil l hsome]
    rw [List.append_assoc, List.cons_append, contents_break hs hb, property_spaces hspaces, afterBreak_append b rest hjoin,
      ih fun c hc => hlead c (by simp [mem_of_mem_afterBreak hc])]
    rfl

/-- **A value on one line** is read back, up to the white space around it. -/
theorem contents_pair {key value : List Char} (hkey : Key key) (hsome : key ≠ [])
    (hvalue : ∀ c ∈ value.rdropWhile isSpace, isBreak c = false) :
    contents property (key ++ '=' :: value) = [(String.ofList key, String.ofList (stripChars value))] := by
  have hsplit : key ++ '=' :: value = (key ++ '=' :: value.rdropWhile isSpace) ++ value.rtakeWhile isSpace := by
    rw [List.append_assoc, List.cons_append, List.rdropWhile_append_rtakeWhile]
  have htrail : ∀ c ∈ value.rtakeWhile isSpace, isSpace c = true := fun c hc => List.mem_rtakeWhile_imp hc
  have hline : ∀ c ∈ key ++ '=' :: value.rdropWhile isSpace, isBreak c = false := by
    intro c hc
    rcases List.mem_append.1 hc with hc | hc
    · exact hkey.line c hc
    · rcases List.mem_cons.1 hc with rfl | hc
      · rfl
      · exact hvalue c hc
  rw [hsplit, contents_append_spaces hline htrail, property_pair hkey hsome]
  have hstrip : stripChars (value.rdropWhile isSpace) = stripChars value := by
    conv_rhs => rw [← List.rdropWhile_append_rtakeWhile (p := isSpace) (l := value), stripChars_append_spaces _ htrail]
  rw [hstrip]
  rfl

/-- **A value that begins on a later line**: its key is empty, and its own line is read for itself. -/
theorem contents_torn {key value : List Char} (hkey : Key key) (hsome : key ≠ [])
    (hcore : ∀ c ∈ stripChars value, isBreak c = false) (htorn : ∃ c ∈ value.rdropWhile isSpace, isBreak c = true) :
    contents property (key ++ '=' :: value) = (String.ofList key, "") :: (property (stripChars value)).toList := by
  obtain ⟨lead, trail, hvalue, hlead, htrail⟩ := stripChars_split value
  have hne : stripChars value ≠ [] := stripChars_ne_nil (List.ne_nil_of_mem htorn.choose_spec.1)
  have hhead : (stripChars value).head? ≠ some '\n' := by
    obtain ⟨c, rest, hcons⟩ := List.exists_cons_of_ne_nil hne
    have hc : isSpace c = false := isSpace_head (hcons ▸ stripChars_idem value)
    rw [hcons]
    intro h
    rw [Option.some.inj h] at hc
    revert hc
    decide
  -- the break stands before the value
  have hbreaks : ∃ c ∈ lead, isBreak c = true := by
    obtain ⟨b, hb, hbreak⟩ := htorn
    rw [hvalue, ← List.append_assoc, rdropWhile_append_spaces _ htrail] at hb
    rcases List.mem_append.1 ((List.rdropWhile_prefix _ _).subset hb) with hb | hb
    · exact ⟨b, hb, hbreak⟩
    · rw [hcore b hb] at hbreak
      cases hbreak
  have hjoin : (stripChars value ++ trail).head? ≠ some '\n' := by
    rwa [List.head?_append_of_ne_nil _ hne]
  rw [hvalue, stripChars_spaces_append hlead, stripChars_append_spaces _ htrail, stripChars_idem]
  induction lead using lines_induction with
  | last l hl =>
    obtain ⟨c, hc, hbreak⟩ := hbreaks
    rw [hl c hc] at hbreak
    cases hbreak
  | next l b rest hl hb _ =>
    have hline : ∀ c ∈ key ++ '=' :: l, isBreak c = false := by
      intro c hc
      rcases List.mem_append.1 hc with hc | hc
      · exact hkey.line c hc
      · rcases List.mem_cons.1 hc with rfl | hc
        · rfl
        · exact hl c hc
    have hempty : stripChars l = [] := stripChars_spaces fun c hc => hlead c (List.mem_append_left _ hc)
    have hblank : ∀ c ∈ afterBreak b rest, isSpace c = true := fun c hc =>
      hlead c (by simp [mem_of_mem_afterBreak hc])
    have hshape : key ++ '=' :: (l ++ b :: rest ++ (stripChars value ++ trail)) =
        (key ++ '=' :: l) ++ b :: (rest ++ (stripChars value ++ trail)) := by simp
    rw [hshape, contents_break hline hb, property_pair hkey hsome, hempty, afterBreak_append b rest hjoin,
      contents_spaces_append hcore hhead hne hblank htrail]
    rfl

end TrinoManagement.ConfigScan
