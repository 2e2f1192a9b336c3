/-
A catalog file read back.

`render` writes a draft's pairs as they are, one `key=value` after another, and `parse_properties` reads lines. A value
with a line break in it becomes two lines, and the second may be a pair of its own: a credential that `validate` never
saw, or another `connector.name`.

- `reads_back`: the file says what the draft says exactly when every pair of it is one line.
- `hidden_credential`: a draft that `validate` accepts, and a password in the clear in its file.
-/
import Mathlib.Tactic
import TrinoManagement.Config.Catalogs
import TrinoManagement.Config.PropertyLines

namespace TrinoManagement.Catalogs

open TrinoManagement.Secrets TrinoManagement.Text
open TrinoManagement.ConfigScan (parseProperties property Key contents_pair contents_torn property_ok)

/-! ## The lines of a rendered file -/

theorem contents_intercalate {α : Type} {read : List Char → Option α} (hblank : read [] = none) (line : String)
    (lines : List String) : contents read (String.intercalate "\n" (line :: lines)).toList =
      (line :: lines).flatMap fun line => contents read line.toList := by
  induction lines generalizing line with
  | nil => simp
  | cons next lines ih =>
    have hjoin : (String.intercalate "\n" (line :: next :: lines)).toList =
        line.toList ++ '\n' :: (String.intercalate "\n" (next :: lines)).toList := by
      rw [String.intercalate_cons_cons]
      simp
    rw [hjoin, contents_append hblank, ih]
    rfl

/-- what the pairs of a draft put into its file -/
def written (properties : Dict String) : List (String × String) :=
  properties.flatMap fun p => contents property (p.1 ++ "=" ++ p.2).toList

/-- `render` writes the connector, and the pairs in order of their keys -/
theorem contents_render (connector : String) (properties : Dict String) :
    contents property (render connector properties).toList =
      contents property ("connector.name=" ++ connector).toList ++ written (sortPairs properties) := by
  have hend : (render connector properties).toList = (String.intercalate "\n" (("connector.name=" ++ connector) ::
      (sortPairs properties).map fun p => p.1 ++ "=" ++ p.2)).toList ++ '\n' :: [] := by
    rw [render, String.toList_append]
    rfl
  have hnone : contents property [] = [] := rfl
  rw [hend, contents_append rfl, hnone, List.append_nil, contents_intercalate rfl, List.flatMap_cons, List.flatMap_map,
    written]

theorem pair_toList (key value : String) : (key ++ "=" ++ value).toList = key.toList ++ '=' :: value.toList := by simp

theorem mem_dropFinalNewline {text : List Char} {c : Char} (h : c ∈ text.rdropWhile isSpace) :
    c ∈ dropFinalNewline text := by
  unfold dropFinalNewline
  split_ifs with hlast
  · have hsplit : text.dropLast ++ ['\n'] = text := List.dropLast_append_getLast? _ hlast
    have hnewline : ∀ c ∈ ['\n'], isSpace c = true := List.forall_mem_singleton.2 (by decide)
    rw [← hsplit, rdropWhile_append_spaces _ hnewline] at h
    exact (List.rdropWhile_prefix _ _).subset h
  · exact (List.rdropWhile_prefix _ _).subset h

/-- a letter of a name ends no line -/
theorem isBreak_of_letter {c : Char} (h : (c.isLower || c.isDigit || c == '_') = true) : isBreak c = false := by
  have hrange : 48 ≤ c.toNat ∧ c.toNat ≤ 122 := by
    simp only [Bool.or_eq_true, beq_iff_eq] at h
    rcases h with (h | h) | rfl
    · obtain ⟨hlow, hhigh⟩ := Bool.and_eq_true_iff.1 h
      exact ⟨(show 48 ≤ 97 by decide).trans (of_decide_eq_true hlow), of_decide_eq_true hhigh⟩
    · obtain ⟨hlow, hhigh⟩ := Bool.and_eq_true_iff.1 h
      exact ⟨of_decide_eq_true hlow, (show c.toNat ≤ 57 from of_decide_eq_true hhigh).trans (by decide)⟩
    · decide
  by_contra hbreak
  simp only [isBreak, Bool.not_eq_false, Bool.or_eq_true, Bool.and_eq_true, decide_eq_true_eq, beq_iff_eq] at hbreak
  omega

/-- a connector's line says the connector -/
theorem contents_connector {connector : String} (hname : isCatalogName connector = true)
    (hstrip : strip connector = connector) :
    contents property ("connector.name=" ++ connector).toList = [("connector.name", connector)] := by
  have hstripped : stripChars connector.toList = connector.toList := by
    conv_rhs => rw [← hstrip, strip, String.toList_ofList]
  have hletters := isName_later (fun c hc => by simp [hc]) hname
  have hline : ∀ c ∈ connector.toList.rdropWhile isSpace, isBreak c = false := fun c hc =>
    isBreak_of_letter (hletters c (mem_dropFinalNewline hc))
  have hkey : Key "connector.name".toList := ⟨by decide, by decide, by decide, unbroken_of_any (by decide)⟩
  have hline' := contents_pair hkey (by decide) hline
  have htext : ("connector.name=" ++ connector).toList = "connector.name".toList ++ '=' :: connector.toList := by
    simp
  rw [htext, hline', hstripped, String.ofList_toList, String.ofList_toList]

/-! ## One line a pair -/

/-- a pair that is one line of the file -/
structure OneLine (key value : String) : Prop where
  sep : '=' ∉ key.toList
  mark : key.toList.head? ≠ some '#' ∧ key.toList.head? ≠ some '!'
  key : ∀ c ∈ key.toList, isBreak c = false
  value : ∀ c ∈ value.toList.rdropWhile isSpace, isBreak c = false

/-- the file says what the draft says: no pair is lost, changed or added -/
structure RoundTrip (connector : String) (properties : Dict String) : Prop where
  pairs : ∀ key, (parseProperties (render connector properties)).lookup key =
    if key = "connector.name" then some connector else (properties.lookup key).map strip
  secrets : ∀ p ∈ parseProperties (render connector properties), secretKey p.1 = true → envReference p.2 = true

theorem OneLine.toKey {key value : String} (h : OneLine key value) (hstrip : strip key = key) : Key key.toList :=
  ⟨by conv_rhs => rw [← hstrip, strip, String.toList_ofList], h.sep, h.mark, h.key⟩

theorem strip_toList (s : String) : (strip s).toList = stripChars s.toList := by rw [strip, String.toList_ofList]

theorem toList_ne_nil {s : String} (h : s ≠ "") : s.toList ≠ [] := by simpa using h

/-- one line each, they are written as they are -/
theorem written_of_oneLine {properties : Dict String} (hone : ∀ p ∈ properties, OneLine p.1 p.2)
    (hkeys : ∀ key ∈ properties.keys, strip key = key ∧ key ≠ "" ∧ key ≠ "connector.name") :
    written properties = properties.map fun p => (p.1, strip p.2) := by
  induction properties with
  | nil => rfl
  | cons p rest ih =>
    have hp := hone p List.mem_cons_self
    obtain ⟨hstrip, hempty, -⟩ := hkeys p.1 List.mem_cons_self
    have hrest := ih (fun q hq => hone q (List.mem_cons_of_mem _ hq)) fun k hk => hkeys k (List.mem_cons_of_mem _ hk)
    have hpair := contents_pair (hp.toKey hstrip) (toList_ne_nil hempty) hp.value
    rw [String.ofList_toList] at hpair
    rw [written, List.flatMap_cons, pair_toList, hpair, List.map_cons]
    exact congrArg _ hrest

theorem keys_strip (properties : Dict String) :
    Dict.keys (properties.map fun p => (p.1, strip p.2)) = properties.keys := by simp [Dict.keys]

theorem lookup_strip (properties : Dict String) (key : String) :
    (properties.map fun p => (p.1, strip p.2)).lookup key = (properties.lookup key).map strip := by
  induction properties with
  | nil => rfl
  | cons p rest ih =>
    rw [List.map_cons, Dict.lookup_cons, Dict.lookup_cons, ih]
    split_ifs <;> rfl

/-- the order of a dict's pairs does not matter to a lookup -/
theorem lookup_perm {β : Type} {d d' : Dict β} (hperm : d.Perm d') (hd : d.keys.Nodup) (key : String) :
    d.lookup key = d'.lookup key := by
  have hd' : d'.keys.Nodup := (hperm.map _).nodup_iff.1 hd
  cases h : d'.lookup key with
  | none =>
    rw [Dict.lookup_eq_none] at h ⊢
    exact fun hmem => h ((hperm.map _).subset hmem)
  | some v => exact Dict.lookup_of_mem hd (hperm.mem_iff.2 (Dict.mem_of_lookup h))

theorem perm_sortPairs (properties : Dict String) : (sortPairs properties).Perm properties := List.perm_insertionSort _ _

theorem nodup_sortPairs {properties : Dict String} (h : properties.keys.Nodup) : Dict.keys (sortPairs properties) |>.Nodup :=
  ((perm_sortPairs properties).map _).nodup_iff.2 h

section Fields

variable {fields : Fields} (hclean : fields.Clean)

include hclean

/-- what the file holds under a key: what its pairs write, and the connector before them -/
theorem lookup_file (key : String) : (parseProperties (render fields.connector fields.properties)).lookup key =
    ((written (sortPairs fields.properties)).reverse.lookup key).or
      (if key = "connector.name" then some fields.connector else none) := by
  rw [parseProperties, Dict.lookup_ofPairs, contents_render, contents_connector hclean.connector.1 hclean.connector.2,
    List.singleton_append, List.reverse_cons, List.lookup_append, Dict.lookup_cons]
  rfl

/-- pairs of one line each are read back -/
theorem roundTrip_of_oneLine (hone : ∀ p ∈ fields.properties, OneLine p.1 p.2) :
    RoundTrip fields.connector fields.properties := by
  have hperm := perm_sortPairs fields.properties
  have hwritten : written (sortPairs fields.properties) = (sortPairs fields.properties).map fun p => (p.1, strip p.2) :=
    written_of_oneLine (fun p hp => hone p (hperm.mem_iff.1 hp)) fun k hk => hclean.keys k ((hperm.map _).subset hk)
  have hnodup := nodup_sortPairs hclean.nodup
  have hpairs : ∀ key, (parseProperties (render fields.connector fields.properties)).lookup key =
      if key = "connector.name" then some fields.connector else (fields.properties.lookup key).map strip := by
    intro key
    have hread : (written (sortPairs fields.properties)).reverse.lookup key =
        (fields.properties.lookup key).map strip := by
      rw [hwritten, lookup_perm (List.reverse_perm _) (by
        rw [Dict.keys, List.map_reverse]
        exact List.nodup_reverse.2 (by rw [← Dict.keys, keys_strip]; exact hnodup)), lookup_strip,
        lookup_perm hperm hnodup]
    rw [lookup_file hclean, hread]
    split_ifs with hkey
    · have hnone : fields.properties.lookup key = none := by
        rw [Dict.lookup_eq_none, hkey]
        exact fun hmem => (hclean.keys _ hmem).2.2 rfl
      rw [hnone]
      rfl
    · cases fields.properties.lookup key <;> rfl
  refine ⟨hpairs, fun p hp hsecret => ?_⟩
  have hp : (parseProperties (render fields.connector fields.properties)).lookup p.1 = some p.2 :=
    Dict.lookup_of_mem (Dict.nodup_ofPairs _) hp
  rw [hpairs] at hp
  split_ifs at hp with hkey
  · rw [hkey] at hsecret
    exact absurd hsecret (by decide)
  · obtain ⟨value, hvalue, hstrip⟩ := Option.map_eq_some_iff.1 hp
    rw [← hstrip]
    exact (hclean.values _ (Dict.mem_of_lookup hvalue)).2 hsecret

end Fields

/-! ## A value that is not one line -/

/-- a key the file can hold, with a value whose text between white space is one line -/
structure Readable (p : String × String) : Prop where
  key : Key p.1.toList
  some : p.1 ≠ ""
  core : ∀ c ∈ stripChars p.2.toList, isBreak c = false

/-- what a pair writes first: its key -/
theorem lookup_pair {p : String × String} (hp : Readable p) :
    (contents property (p.1 ++ "=" ++ p.2).toList).reverse.lookup p.1 ≠ none := by
  rw [pair_toList]
  by_cases hvalue : ∀ c ∈ p.2.toList.rdropWhile isSpace, isBreak c = false
  · rw [contents_pair hp.key (toList_ne_nil hp.some) hvalue]
    simp
  · have htorn : ∃ c ∈ p.2.toList.rdropWhile isSpace, isBreak c = true := by
      by_contra hnone
      exact hvalue fun c hc => by simpa using fun hbreak => hnone ⟨c, hc, hbreak⟩
    rw [contents_torn hp.key (toList_ne_nil hp.some) hp.core htorn, String.ofList_toList, List.reverse_cons,
      List.lookup_append, Dict.lookup_cons, if_pos rfl]
    cases List.lookup p.1 _ <;> simp

theorem lookup_written_cons (p : String × String) (rest : Dict String) (key : String) :
    (written (p :: rest)).reverse.lookup key = ((written rest).reverse.lookup key).or
      ((contents property (p.1 ++ "=" ++ p.2).toList).reverse.lookup key) := by
  rw [written, List.flatMap_cons, List.reverse_append, List.lookup_append]
  rfl

theorem lookup_written {properties : Dict String} (hreadable : ∀ p ∈ properties, Readable p) {p : String × String}
    (hp : p ∈ properties) : (written properties).reverse.lookup p.1 ≠ none := by
  induction properties with
  | nil => cases hp
  | cons q rest ih =>
    rw [lookup_written_cons]
    rcases List.mem_cons.1 hp with rfl | hp
    · have hpair := lookup_pair (hreadable p List.mem_cons_self)
      cases (written rest).reverse.lookup p.1 with
      | none => rwa [Option.none_or]
      | some v => simp
    · have hsome := ih (fun q hq => hreadable q (List.mem_cons_of_mem _ hq)) hp
      cases h : (written rest).reverse.lookup p.1 with
      | none => exact absurd h hsome
      | some v => simp

/-- a pair whose value begins on a later line does not read back: all its file has is shorter -/
theorem torn_pair {p : String × String} (hp : Readable p)
    (hread : (contents property (p.1 ++ "=" ++ p.2).toList).reverse.lookup p.1 = some (strip p.2)) :
    ∀ c ∈ p.2.toList.rdropWhile isSpace, isBreak c = false := by
  intro c hc
  by_contra hbreak
  have htorn : ∃ c ∈ p.2.toList.rdropWhile isSpace, isBreak c = true := ⟨c, hc, by simpa using hbreak⟩
  have hsome : 0 < (stripChars p.2.toList).length :=
    List.length_pos_of_ne_nil (stripChars_ne_nil (List.ne_nil_of_mem hc))
  rw [pair_toList, contents_torn hp.key (toList_ne_nil hp.some) hp.core htorn, String.ofList_toList] at hread
  have hshort : (strip p.2).toList.length < (stripChars p.2.toList).length := by
    have hmem := List.mem_reverse.1 (Dict.mem_of_lookup hread)
    rcases List.mem_cons.1 hmem with heq | hmem
    · have heq : strip p.2 = "" := congrArg Prod.snd heq
      rw [heq]
      exact hsome
    · exact (property_ok hp.core (Option.mem_toList.1 hmem)).2.2
  rw [strip_toList] at hshort
  exact lt_irrefl _ hshort

/-- **If every pair is read back every value is one line**: look at the last that is not. -/
theorem oneLine_of_written {properties : Dict String} (hnodup : properties.keys.Nodup)
    (hreadable : ∀ p ∈ properties, Readable p)
    (hkeys : ∀ key ∈ properties.keys, strip key = key ∧ key ≠ "" ∧ key ≠ "connector.name")
    (hread : ∀ p ∈ properties, (written properties).reverse.lookup p.1 = some (strip p.2)) :
    ∀ p ∈ properties, OneLine p.1 p.2 := by
  induction properties with
  | nil => exact fun p hp => (by cases hp)
  | cons p rest ih =>
    obtain ⟨hp, hnodup⟩ := List.nodup_cons.1 hnodup
    have hrest : ∀ q ∈ rest, OneLine q.1 q.2 := by
      refine ih hnodup (fun q hq => hreadable q (List.mem_cons_of_mem _ hq))
        (fun k hk => hkeys k (List.mem_cons_of_mem _ hk)) fun q hq => ?_
      have hq' := hread q (List.mem_cons_of_mem _ hq)
      have hsome := lookup_written (fun q hq => hreadable q (List.mem_cons_of_mem _ hq)) hq
      rw [lookup_written_cons] at hq'
      cases hlook : (written rest).reverse.lookup q.1 with
      | none => exact absurd hlook hsome
      | some v => rwa [hlook, Option.some_or] at hq'
    -- the pairs after it leave its key alone
    have hread := hread p List.mem_cons_self
    have hnone : (written rest).reverse.lookup p.1 = none := by
      rw [written_of_oneLine hrest fun k hk => hkeys k (List.mem_cons_of_mem _ hk), ← List.map_reverse, lookup_strip,
        Dict.lookup_eq_none.2 fun hmem => hp ((List.reverse_perm rest).map _ |>.subset hmem)]
      rfl
    rw [lookup_written_cons, hnone, Option.none_or] at hread
    have hone := hreadable p List.mem_cons_self
    intro q hq
    rcases List.mem_cons.1 hq with rfl | hq
    · exact ⟨hone.key.sep, hone.key.mark, hone.key.line, torn_pair hone hread⟩
    · exact hrest q hq

/-- what a file holds is readable -/
theorem readable_of_parse {text key value : String} (h : (parseProperties text).lookup key = some value) :
    Key key.toList ∧ ∀ c ∈ value.toList, isBreak c = false := by
  rw [parseProperties, Dict.lookup_ofPairs] at h
  have hmem := List.mem_reverse.1 (Dict.mem_of_lookup h)
  obtain ⟨line, hline, hproperty⟩ := List.mem_filterMap.1 hmem
  obtain ⟨hkey, hvalue, -⟩ := property_ok (isBreak_of_mem_splitLines hline) hproperty
  exact ⟨hkey, hvalue⟩

/-- **A catalog file reads back exactly when each pair is one line of it.** -/
theorem reads_back {repr : String → String} {name connector : String} {properties : List (String × Option String)}
    {fields : Fields} (h : validate repr name connector properties = .ok fields) :
    RoundTrip fields.connector fields.properties ↔ ∀ p ∈ fields.properties, OneLine p.1 p.2 := by
  have hclean := validate_ok h
  constructor
  · intro htrip
    have hperm := perm_sortPairs fields.properties
    have hlook : ∀ p ∈ fields.properties,
        (parseProperties (render fields.connector fields.properties)).lookup p.1 = some (strip p.2) := by
      intro p hp
      rw [htrip.pairs, if_neg (hclean.keys p.1 (List.mem_map_of_mem hp)).2.2, Dict.lookup_of_mem hclean.nodup hp]
      rfl
    have hreadable : ∀ p ∈ fields.properties, Readable p := by
      intro p hp
      obtain ⟨hkey, hvalue⟩ := readable_of_parse (hlook p hp)
      rw [strip_toList] at hvalue
      exact ⟨hkey, (hclean.keys p.1 (List.mem_map_of_mem hp)).2.1, hvalue⟩
    have hone := oneLine_of_written (nodup_sortPairs hclean.nodup) (fun p hp => hreadable p (hperm.mem_iff.1 hp))
      (fun k hk => hclean.keys k ((hperm.map _).subset hk)) fun p hp => by
        have hp' := hlook p (hperm.mem_iff.1 hp)
        rw [lookup_file hclean, if_neg (hclean.keys p.1 (List.mem_map_of_mem (hperm.mem_iff.1 hp))).2.2,
          Option.or_none] at hp'
        exact hp'
    exact fun p hp => hone p (hperm.mem_iff.2 hp)
  · exact roundTrip_of_oneLine hclean

namespace Sample

/-- a draft with one property -/
def draft (value : String) : Except String Fields := validate id "lake" "hive" [("cache", some value)]

end Sample

/-- a draft of one plain property is read back -/
theorem reads_back_plain : ∃ fields, Sample.draft "on " = .ok fields ∧ RoundTrip fields.connector fields.properties := by
  have h : Sample.draft "on " = .ok ⟨"lake", "hive", [("cache", "on ")]⟩ := by decide +kernel
  refine ⟨_, h, (reads_back h).2 fun p hp => ?_⟩
  obtain rfl := List.mem_singleton.1 hp
  exact ⟨by decide, by decide, unbroken_of_any (by decide), unbroken_of_any (by decide)⟩

/-- **A password under another key's value**: `validate` never sees it, the file has it in the clear. -/
theorem hidden_credential : ∃ fields, Sample.draft "on\nconnection-password=hunter2" = .ok fields ∧
    ¬ RoundTrip fields.connector fields.properties ∧ secretKey "connection-password" = true ∧
    (parseProperties (render fields.connector fields.properties)).lookup "connection-password" = some "hunter2" := by
  have h : Sample.draft "on\nconnection-password=hunter2" =
      .ok ⟨"lake", "hive", [("cache", "on\nconnection-password=hunter2")]⟩ := by decide +kernel
  have hread : (parseProperties (render "hive" [("cache", "on\nconnection-password=hunter2")])).lookup
      "connection-password" = some "hunter2" := by decide +kernel
  refine ⟨_, h, fun htrip => ?_, by decide, hread⟩
  rw [htrip.pairs] at hread
  revert hread
  decide +kernel

end TrinoManagement.Catalogs
