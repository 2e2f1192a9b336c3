/-
What the scan hides and what the validators refuse.

Three modules carry a copy of the pattern of a credential. The scan's has one word more, `token`, so a key of that word
alone is hidden on one screen and may be stored in the clear by the other two.

- `guarded_iff`: a key is guarded unless `token` is all that makes it a credential.
- `token_stored`: a token as a literal in an accepted change and in an accepted draft.
-/
import Mathlib.Tactic
import TrinoManagement.Config.Catalogs
import TrinoManagement.Config.Edit
import TrinoManagement.Config.Scan

namespace TrinoManagement.Secrets

open TrinoManagement.Text

/-! ## The three patterns -/

/-- the scan's pattern has one word more -/
theorem scan_secretKey (key : String) :
    ConfigScan.secretKey key = (search [word "token"] key.toList || Catalogs.secretKey key) :=
  secret_insert ["password", "secret", "credential"] [] "token" key.toList

theorem secretKey_strip {key : String} (h : Catalogs.secretKey key = true) : Catalogs.secretKey (strip key) = true :=
  secret_strip (by decide) h

theorem token_strip {key : String} (h : search [word "token"] key.toList = true) :
    search [word "token"] (strip key).toList = true := by
  rw [strip, String.toList_ofList]
  refine search_stripChars (fun items hitems => ?_) h
  rw [List.mem_singleton.1 hitems]
  exact solid_word (by decide)

/-! ## What the validators refuse -/

section Refuses

variable (py : ConfigEdit.Letters)

/-- an edit that sets its value; setting is what an edit without an action does -/
def sets (raw : ConfigEdit.RawEntry) : Prop :=
  py.lower (strip (if raw.action.getD "" ≠ "" then raw.action.getD "" else "set")) = "set"

/-- no change that sets the key to the value is accepted -/
def ChangeRefuses (key value : String) : Prop :=
  ∀ (title targetRole : String) (raws : List ConfigEdit.RawEntry),
    (∃ raw ∈ raws, raw.key = some key ∧ raw.value = some value ∧ sets py raw) →
      ∀ fields, ConfigEdit.validate py title targetRole raws ≠ .ok fields

/-- no draft with the pair is accepted -/
def DraftRefuses (key value : String) : Prop :=
  ∀ (name connector : String) (properties : List (String × Option String)), (key, some value) ∈ properties →
    ∀ fields, Catalogs.validate py.repr name connector properties ≠ .ok fields

/-- a value either place has room for: it is not blank, not long, and one line -/
structure Storable (value : String) : Prop where
  some : strip value ≠ ""
  short : value.length ≤ Catalogs.maxValueChars ∧ (strip value).length ≤ ConfigEdit.maxValueChars
  line : '\n' ∉ (strip value).toList ∧ '\r' ∉ (strip value).toList

/-- what one definition of a secret says of a key -/
structure Guarded (key : String) : Prop where
  change : ConfigScan.secretKey key = true → ∀ value, envReference (strip value) = false → ChangeRefuses py key value
  draft : ConfigScan.secretKey key = true → ∀ value, envReference (strip value) = false → DraftRefuses py key value
  agree : ConfigEdit.isPropertyName (strip key) = true → strip key ∉ Catalogs.reserved → ∀ value, Storable value →
    (ChangeRefuses py key value ↔ DraftRefuses py key value)

end Refuses

variable {py : ConfigEdit.Letters}

/-! ### A change -/

theorem cleanEntry_of_mem {seen : List String} {raws : List ConfigEdit.RawEntry} {entries : List ConfigEdit.Entry}
    (h : ConfigEdit.cleanEntries py seen raws = .ok entries) {raw : ConfigEdit.RawEntry} (hraw : raw ∈ raws) :
    ∃ seen' e, ConfigEdit.cleanEntry py seen' raw = .ok e := by
  induction raws generalizing seen entries with
  | nil => cases hraw
  | cons first rest ih =>
    obtain ⟨entry, others, hfirst, hrest, rfl⟩ := ConfigEdit.cleanEntries_cons h
    rcases List.mem_cons.1 hraw with rfl | hraw
    · exact ⟨seen, entry, hfirst⟩
    · exact ih hrest hraw

theorem cleanEntry_set {seen : List String} {raw : ConfigEdit.RawEntry} {e : ConfigEdit.Entry} (hsets : sets py raw)
    (h : ConfigEdit.cleanEntry py seen raw = .ok e) :
    ConfigEdit.cleanSet (strip (raw.key.getD "")) (strip (raw.value.getD "")) = .ok e := by
  have haction : ConfigEdit.actionNames.lookup "set" = some ConfigEdit.Action.set := by decide
  unfold ConfigEdit.cleanEntry ConfigEdit.cleanFields at h
  rw [hsets, haction] at h
  split_ifs at h
  exact h

theorem changeRefuses_of_secret {key value : String} (hsecret : Catalogs.secretKey (strip key) = true)
    (hvalue : envReference (strip value) = false) : ChangeRefuses py key value := by
  rintro title targetRole raws ⟨raw, hraw, hkey, hval, hsets⟩ fields h
  obtain ⟨-, -, -, -, cleaned, -, hentries, -⟩ := ConfigEdit.validate_inv h
  obtain ⟨seen, e, he⟩ := cleanEntry_of_mem hentries hraw
  have hset := cleanEntry_set hsets he
  rw [hkey, hval, Option.getD_some, Option.getD_some] at hset
  obtain ⟨-, -, -, -, hreference⟩ := ConfigEdit.cleanSet_ok hset
  rw [hreference hsecret] at hvalue
  cases hvalue

/-- a change of one edit is accepted when the edit is -/
theorem change_accepted {key value : String} (hname : ConfigEdit.isPropertyName (strip key) = true)
    (hvalue : Storable value) (hsecret : Catalogs.secretKey (strip key) = true → envReference (strip value) = true) :
    ¬ ChangeRefuses py key value := by
  intro hrefuses
  have hclean : ConfigEdit.Entry.Clean ⟨strip key, .set, some (strip value)⟩ :=
    ⟨strip_idem key, hname, fun h => (by cases h), fun _ => ⟨strip value, rfl, strip_idem value, hvalue.some,
      hvalue.short.2, hvalue.line, hsecret⟩⟩
  have htitle : strip "title" = "title" := by decide
  have hfields : ConfigEdit.Fields.Clean ⟨"title", .all, [⟨strip key, .set, some (strip value)⟩]⟩ :=
    ⟨⟨htitle, by simp⟩, ⟨by simp, by simp [ConfigEdit.maxEntries]⟩, by simpa using hclean, by simp, by simp⟩
  have hvalidate := @ConfigEdit.validate_idem py _ hfields
  -- what comes in is stripped on the way
  have hraw : ConfigEdit.cleanEntry py [] ⟨some key, some "set", some value⟩ =
      ConfigEdit.cleanEntry py [] (ConfigEdit.Entry.raw ⟨strip key, .set, some (strip value)⟩) := by
    rw [ConfigEdit.cleanEntry, ConfigEdit.cleanEntry, ConfigEdit.Entry.raw, ConfigEdit.Action.name]
    dsimp only [Option.getD_some]
    rw [strip_idem, strip_idem]
  have hsame := @ConfigEdit.validate_singleton py "title" "all" _ _ hraw
  have hsets : sets py ⟨some key, some "set", some value⟩ := by
    have hne : "set" ≠ "" := by decide
    unfold sets
    rw [Option.getD_some, if_pos hne]
    exact ConfigEdit.lower_strip_action .set
  exact hrefuses "title" "all" _ ⟨_, List.mem_singleton_self _, rfl, rfl, hsets⟩ _ (hsame.trans hvalidate)

/-! ### A draft -/

theorem cleanProperty_of_mem {repr : String → String} {d d' : Dict String} {properties : List (String × Option String)}
    (h : Catalogs.cleanProperties repr d properties = .ok d') {key : String} {value : Option String}
    (hmem : (key, value) ∈ properties) : ∃ before after, Catalogs.cleanProperty repr before key value = .ok after := by
  induction properties generalizing d with
  | nil => cases hmem
  | cons p rest ih =>
    obtain ⟨k, v⟩ := p
    rw [Catalogs.cleanProperties] at h
    cases hfirst : Catalogs.cleanProperty repr d k v with
    | error m => rw [hfirst] at h; cases h
    | ok d₁ =>
      rw [hfirst] at h
      rcases List.mem_cons.1 hmem with heq | hmem
      · obtain ⟨rfl, rfl⟩ := Prod.mk.inj heq
        exact ⟨d, d₁, hfirst⟩
      · exact ih h hmem

theorem draftRefuses_of_secret {key value : String} (hsecret : Catalogs.secretKey (strip key) = true)
    (hvalue : envReference (strip value) = false) : DraftRefuses py key value := by
  intro name connector properties hmem fields h
  obtain ⟨-, -, cleaned, hclean, -, -⟩ := Catalogs.validate_inv h
  obtain ⟨before, after, hproperty⟩ := cleanProperty_of_mem hclean hmem
  have hsome : strip key ≠ "" := by
    intro hempty
    rw [hempty] at hsecret
    revert hsecret
    decide
  unfold Catalogs.cleanProperty at hproperty
  dsimp only at hproperty
  rw [if_neg hsome] at hproperty
  split_ifs at hproperty with hreserved hlong hboth
  exact hboth ⟨hsecret, hvalue⟩

/-- a draft of one pair is accepted when the pair is -/
theorem draft_accepted {key value : String} (hsome : strip key ≠ "") (hreserved : strip key ∉ Catalogs.reserved)
    (hshort : value.length ≤ Catalogs.maxValueChars)
    (hsecret : Catalogs.secretKey (strip key) = true → envReference (strip value) = true) : ¬ DraftRefuses py key value := by
  intro hrefuses
  have hliteral : ¬ (Catalogs.secretKey (strip key) = true ∧ envReference (strip value) = false) := fun h => by
    rw [hsecret h.1] at h
    cases h.2
  have hproperty : Catalogs.cleanProperties py.repr [] [(key, some value)] = .ok [(strip key, value)] := by
    rw [Catalogs.cleanProperties, Catalogs.cleanProperty]
    dsimp only [Option.getD_some]
    rw [if_neg hsome, if_neg hreserved, if_neg (not_lt.2 hshort), if_neg hliteral]
    rfl
  have hvalidate : Catalogs.validate py.repr "lake" "hive" [(key, some value)] = .ok ⟨"lake", "hive", [(strip key, value)]⟩ := by
    have hname : strip "lake" = "lake" ∧ strip "hive" = "hive" := by decide
    have hnames : isName Char.isLower (fun c => c.isLower || c.isDigit || c == '_') "lake".toList = true := by decide
    rw [Catalogs.validate, hname.1, hname.2, hproperty]
    rfl
  exact hrefuses "lake" "hive" _ (List.mem_singleton_self _) _ hvalidate

/-! ## One definition -/

/-- both refuse exactly a literal under a key of the shared pattern -/
theorem changeRefuses_iff {key value : String} (hname : ConfigEdit.isPropertyName (strip key) = true)
    (hvalue : Storable value) : ChangeRefuses py key value ↔
      Catalogs.secretKey (strip key) = true ∧ envReference (strip value) = false := by
  refine ⟨fun hrefuses => ?_, fun h => changeRefuses_of_secret h.1 h.2⟩
  by_contra hnot
  exact change_accepted hname hvalue (fun hs => by
    by_contra hliteral
    exact hnot ⟨hs, by simpa using hliteral⟩) hrefuses

theorem draftRefuses_iff {key value : String} (hsome : strip key ≠ "") (hreserved : strip key ∉ Catalogs.reserved)
    (hshort : value.length ≤ Catalogs.maxValueChars) : DraftRefuses py key value ↔
      Catalogs.secretKey (strip key) = true ∧ envReference (strip value) = false := by
  refine ⟨fun hrefuses => ?_, fun h => draftRefuses_of_secret h.1 h.2⟩
  by_contra hnot
  exact draft_accepted hsome hreserved hshort (fun hs => by
    by_contra hliteral
    exact hnot ⟨hs, by simpa using hliteral⟩) hrefuses

theorem agrees (key : String) (hname : ConfigEdit.isPropertyName (strip key) = true)
    (hreserved : strip key ∉ Catalogs.reserved) (value : String) (hvalue : Storable value) :
    ChangeRefuses py key value ↔ DraftRefuses py key value := by
  have hsome : strip key ≠ "" := by
    intro hempty
    rw [hempty] at hname
    revert hname
    decide
  rw [changeRefuses_iff hname hvalue, draftRefuses_iff hsome hreserved hvalue.short.1]

/-- **A key is guarded** unless `token` is all that makes it a credential. -/
theorem guarded_iff (py : ConfigEdit.Letters) (key : String) : Guarded py key ↔
    (search [word "token"] key.toList = true → Catalogs.secretKey (strip key) = true) := by
  constructor
  · intro hguarded htoken
    by_contra hsecret
    have hscan : ConfigScan.secretKey key = true := by rw [scan_secretKey, htoken, Bool.true_or]
    have htoken := token_strip htoken
    have hsome : strip key ≠ "" := by
      intro hempty
      rw [hempty] at htoken
      revert htoken
      decide
    have hreserved : strip key ∉ Catalogs.reserved := by
      intro hmem
      rw [List.mem_singleton.1 hmem] at htoken
      revert htoken
      decide
    have hliteral : envReference (strip "x") = false := by decide
    exact draft_accepted hsome hreserved (by decide) (fun h => absurd h hsecret) (hguarded.draft hscan "x" hliteral)
  · intro hword
    have hsecret : ConfigScan.secretKey key = true → Catalogs.secretKey (strip key) = true := by
      intro hscan
      rw [scan_secretKey, Bool.or_eq_true] at hscan
      exact hscan.elim hword secretKey_strip
    exact ⟨fun hscan value hvalue => changeRefuses_of_secret (hsecret hscan) hvalue,
      fun hscan value hvalue => draftRefuses_of_secret (hsecret hscan) hvalue, agrees key⟩

namespace Sample

def letters : ConfigEdit.Letters := .ascii

end Sample

/-- **A token in the clear**: the scan hides the value of `auth-token`, a change and a draft that set it are accepted. -/
theorem token_stored : ConfigScan.secretKey "auth-token" = true ∧ ¬ Guarded Sample.letters "auth-token" ∧
    ConfigEdit.validate Sample.letters "tokens" "all" [⟨some "auth-token", none, some "t0ps3cret"⟩] =
      .ok ⟨"tokens", .all, [⟨"auth-token", .set, some "t0ps3cret"⟩]⟩ ∧
    Catalogs.validate id "lake" "hive" [("auth-token", some "t0ps3cret")] =
      .ok ⟨"lake", "hive", [("auth-token", "t0ps3cret")]⟩ := by
  refine ⟨by decide, fun hguarded => ?_, by decide +kernel, by decide +kernel⟩
  have hchange : ConfigEdit.validate Sample.letters "tokens" "all" [⟨some "auth-token", none, some "t0ps3cret"⟩] =
      .ok ⟨"tokens", .all, [⟨"auth-token", .set, some "t0ps3cret"⟩]⟩ := by decide +kernel
  exact hguarded.change (by decide) "t0ps3cret" (by decide) "tokens" "all" _
    ⟨_, List.mem_singleton_self _, rfl, rfl, by unfold sets; decide +kernel⟩ _ hchange

end TrinoManagement.Secrets
