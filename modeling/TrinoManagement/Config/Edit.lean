/-
What a change of `config.properties` may contain, and when it may leave for a cluster: `tms/ops/configedit.py`.

A change is a set of edits, never a file. `validate` refuses what cannot be written, `refuseDeploy` what may not go to a
cluster yet.

- `Letters`: `str.lower` and `repr`, of which nothing is used but that lower-case ASCII text is left alone.
- `validate_ok`: what a validated change is made of. `validate_idem`: it validates to itself.
- `refuseDeploy_eq_none`: the gates in one condition.
-/
import Mathlib.Data.List.Sort
import Mathlib.Data.String.Basic
import Mathlib.Tactic
import TrinoManagement.Config.Secrets

namespace TrinoManagement.ConfigEdit

open TrinoManagement.Secrets TrinoManagement.Text

/-- Python's `str.lower` and the `repr` of its messages -/
structure Letters where
  lower : String → String
  lower_ascii : ∀ s : String, (∀ c ∈ s.toList, c.isLower = true) → lower s = s
  repr : String → String

/-- lower-case text is its own lower case, and a message has its value as it is -/
def Letters.ascii : Letters := ⟨id, fun _ _ => rfl, id⟩

/-- `NAME` -/
def isPropertyName (key : String) : Bool :=
  isName isLetter (fun c => isLetter c || c.isDigit || c == '_' || c == '.' || c == '-') key.toList

/-- `SECRET_KEY`, "same rule as catalogs" -/
def secretKey (key : String) : Bool := search (secretPattern ["password", "secret", "credential"]) key.toList

inductive Action where
  | set | unset
deriving DecidableEq, Repr

def actionNames : List (String × Action) := [("set", .set), ("unset", .unset)]

inductive Role where
  | all | coordinator | worker
deriving DecidableEq, Repr

/-- a closed vocabulary of three words: what reaches Ansible as the host pattern -/
def roleNames : List (String × Role) := [("all", .all), ("coordinator", .coordinator), ("worker", .worker)]

def maxEntries : ℕ := 50

def maxValueChars : ℕ := 2000

/-- one edit as it comes in; `none` is a key that is not there, or null -/
structure RawEntry where
  key : Option String
  action : Option String
  value : Option String
deriving DecidableEq, Repr

/-- one edit as it is stored; removing carries no value -/
structure Entry where
  key : String
  action : Action
  value : Option String
deriving DecidableEq, Repr

/-- what `validate` returns -/
structure Fields where
  title : String
  targetRole : Role
  entries : List Entry
deriving DecidableEq, Repr

def credentialMessage (key : String) : String :=
  key ++ " looks like a credential, so it must be written as $\x7bENV:VARIABLE_NAME\x7d. Trino reads that from the " ++
    "node's own environment; a literal here would put the secret in TMS's database, its API and its audit log."

/-- the checks of a value that is set -/
def cleanSet (key value : String) : Except String Entry :=
  if value = "" then
    .error (key ++ " has no value. To take it out of the file, choose Remove - an empty value is a value.")
  else if maxValueChars < value.length then .error (key ++ ": value is too long.")
  else if '\n' ∈ value.toList ∨ '\r' ∈ value.toList then
    .error (key ++ ": a value is one line. A newline would split it into two properties.")
  else if secretKey key = true ∧ envReference value = false then .error (credentialMessage key)
  else .ok ⟨key, .set, some value⟩

section Validate

variable (py : Letters)

/-- one edit, stripped, after those whose keys are `seen` -/
def cleanFields (seen : List String) (key action value : String) : Except String Entry :=
  if isPropertyName key = false then
    .error (py.repr key ++ " is not a Trino property name. Letters, digits, dot, dash and underscore, starting with a " ++
      "letter.")
  else if key ∈ seen then .error (key ++ " appears twice. A file cannot hold two values for it.")
  else
    match actionNames.lookup action with
    | none => .error (key ++ ": action must be 'set' or 'unset'.")
    -- removing a property is not a null change: Trino falls back to its default
    | some .unset => .ok ⟨key, .unset, none⟩
    | some .set => cleanSet key value

def cleanEntry (seen : List String) (raw : RawEntry) : Except String Entry :=
  cleanFields py seen (strip (raw.key.getD ""))
    (py.lower (strip (if raw.action.getD "" ≠ "" then raw.action.getD "" else "set"))) (strip (raw.value.getD ""))

def cleanEntries (seen : List String) : List RawEntry → Except String (List Entry)
  | [] => .ok []
  | raw :: rest =>
    match cleanEntry py seen raw with
    | .error m => .error m
    | .ok entry => (cleanEntries (entry.key :: seen) rest).map (entry :: ·)

/-- `sorted(cleaned, key=...)` -/
def sortEntries (entries : List Entry) : List Entry := entries.insertionSort fun a b => a.key ≤ b.key

/-- refuse a change that cannot be written -/
def validate (title targetRole : String) (entries : List RawEntry) : Except String Fields :=
  if strip title = "" then
    .error "Give this change a title. It is what the deployment history shows six months from now."
  else
    match roleNames.lookup (py.lower (strip targetRole)) with
    | none => .error ("Deploy to all nodes, the coordinator, or the workers - not " ++
        py.repr (py.lower (strip targetRole)) ++ ".")
    | some role =>
      if entries = [] then .error "A change needs at least one property."
      else if maxEntries < entries.length then
        .error ("At most " ++ toString maxEntries ++ " properties in one change.")
      else (cleanEntries py [] entries).map fun cleaned => ⟨strip title, role, sortEntries cleaned⟩

/-- of the entries only their number counts, and what becomes of them -/
theorem validate_congr {title targetRole : String} {entries entries' : List RawEntry} (hlength : entries.length = entries'.length)
    (hclean : cleanEntries py [] entries = cleanEntries py [] entries') :
    validate py title targetRole entries = validate py title targetRole entries' := by
  have hnil : entries = [] ↔ entries' = [] := by
    rw [← List.length_eq_zero_iff, hlength, List.length_eq_zero_iff]
  unfold validate
  simp only [hnil, hlength, hclean]

theorem cleanEntries_singleton (raw : RawEntry) :
    cleanEntries py [] [raw] = (cleanEntry py [] raw).map fun entry => [entry] := by
  unfold cleanEntries
  generalize cleanEntry py [] raw = cleaned
  cases cleaned <;> rfl

theorem validate_singleton {title targetRole : String} {raw raw' : RawEntry} (h : cleanEntry py [] raw = cleanEntry py [] raw') :
    validate py title targetRole [raw] = validate py title targetRole [raw'] := by
  apply validate_congr
  · rfl
  · rw [cleanEntries_singleton, cleanEntries_singleton, h]

end Validate

/-! ## What a validated change is made of -/

def Action.name : Action → String
  | .set => "set"
  | .unset => "unset"

def Role.name : Role → String
  | .all => "all"
  | .coordinator => "coordinator"
  | .worker => "worker"

/-- a stored edit read as one that comes in -/
def Entry.raw (e : Entry) : RawEntry := ⟨some e.key, some e.action.name, e.value⟩

/-- an edit `validate` lets through -/
structure Entry.Clean (e : Entry) : Prop where
  stripped : strip e.key = e.key
  name : isPropertyName e.key = true
  unset : e.action = .unset → e.value = none
  set : e.action = .set → ∃ value, e.value = some value ∧ strip value = value ∧ value ≠ "" ∧
    value.length ≤ maxValueChars ∧ ('\n' ∉ value.toList ∧ '\r' ∉ value.toList) ∧
    (secretKey e.key = true → envReference value = true)

/-- what `validate` returns -/
structure Fields.Clean (f : Fields) : Prop where
  title : strip f.title = f.title ∧ f.title ≠ ""
  some : f.entries ≠ [] ∧ f.entries.length ≤ maxEntries
  entries : ∀ e ∈ f.entries, e.Clean
  nodup : (f.entries.map (·.key)).Nodup
  sorted : f.entries.Pairwise fun a b => a.key ≤ b.key

section Clean

variable {py : Letters} {seen : List String} {raw : RawEntry} {e : Entry}

theorem cleanSet_ok {key value : String} (h : cleanSet key value = .ok e) :
    e = ⟨key, .set, some value⟩ ∧ value ≠ "" ∧ value.length ≤ maxValueChars ∧
      ('\n' ∉ value.toList ∧ '\r' ∉ value.toList) ∧ (secretKey key = true → envReference value = true) := by
  unfold cleanSet at h
  split_ifs at h with hempty hlong hlines hsecret
  refine ⟨(Except.ok.inj h).symm, hempty, by omega, not_or.1 hlines, fun hs => ?_⟩
  by_contra hvalue
  exact hsecret ⟨hs, by simpa using hvalue⟩

theorem cleanEntry_ok (h : cleanEntry py seen raw = .ok e) : e.Clean ∧ e.key ∉ seen := by
  unfold cleanEntry cleanFields at h
  by_cases hname : isPropertyName (strip (raw.key.getD "")) = false
  · rw [if_pos hname] at h; cases h
  rw [if_neg hname] at h
  by_cases hseen : strip (raw.key.getD "") ∈ seen
  · rw [if_pos hseen] at h; cases h
  rw [if_neg hseen] at h
  have hname : isPropertyName (strip (raw.key.getD "")) = true := by simpa using hname
  split at h
  · cases h
  · obtain rfl := Except.ok.inj h
    exact ⟨⟨strip_idem _, hname, fun _ => rfl, fun hset => by cases hset⟩, hseen⟩
  · obtain ⟨rfl, hne, hlong, hlines, hsecret⟩ := cleanSet_ok h
    exact ⟨⟨strip_idem _, hname, fun hunset => (by cases hunset), fun _ => ⟨_, rfl, strip_idem _, hne, hlong, hlines,
      hsecret⟩⟩, hseen⟩

theorem lookup_actionName (action : Action) : actionNames.lookup action.name = some action := by
  cases action <;> decide

theorem lower_strip_action (action : Action) : py.lower (strip action.name) = action.name := by
  have hstrip : strip action.name = action.name := by cases action <;> decide
  rw [hstrip]
  exact py.lower_ascii _ (List.all_eq_true.1 (by cases action <;> decide))

theorem lower_strip_role (role : Role) : py.lower (strip role.name) = role.name := by
  have hstrip : strip role.name = role.name := by cases role <;> decide
  rw [hstrip]
  exact py.lower_ascii _ (List.all_eq_true.1 (by cases role <;> decide))

/-- a clean edit goes through as it is -/
theorem cleanEntry_raw (h : e.Clean) (hseen : e.key ∉ seen) : cleanEntry py seen e.raw = .ok e := by
  have hne : e.action.name ≠ "" := by cases e.action <;> decide
  have hraw : cleanEntry py seen e.raw = cleanFields py seen (strip e.key)
      (py.lower (strip (if e.action.name ≠ "" then e.action.name else "set"))) (strip (e.value.getD "")) := rfl
  rw [hraw, if_pos hne, lower_strip_action, h.stripped, cleanFields, if_neg (by simp [h.name]), if_neg hseen,
    lookup_actionName]
  obtain ⟨key, action, value⟩ := e
  cases action with
  | unset =>
    have hvalue : value = none := h.unset rfl
    rw [hvalue]
  | set =>
    obtain ⟨value', hvalue, hstrip, hne, hlong, hlines, hsecret⟩ := h.set rfl
    have hvalue : value = some value' := hvalue
    have hset : cleanSet key value' = .ok ⟨key, .set, some value'⟩ := by
      have hcredential : ¬ (secretKey key = true ∧ envReference value' = false) := fun hs => by
        rw [hsecret hs.1] at hs
        cases hs.2
      rw [cleanSet, if_neg hne, if_neg (by omega), if_neg (not_or.2 hlines), if_neg hcredential]
    simp only [hvalue, Option.getD_some, hstrip, hset]

-- the list is walked whatever one edit is made of
attribute [local irreducible] cleanEntry

theorem cleanEntries_step (rest : List RawEntry) : cleanEntries py seen (raw :: rest) =
    match cleanEntry py seen raw with
    | .error m => .error m
    | .ok entry => (cleanEntries py (entry.key :: seen) rest).map (entry :: ·) := rfl

theorem cleanEntries_cons {rest : List RawEntry} {entries : List Entry}
    (h : cleanEntries py seen (raw :: rest) = .ok entries) : ∃ entry others, cleanEntry py seen raw = .ok entry ∧
      cleanEntries py (entry.key :: seen) rest = .ok others ∧ entries = entry :: others := by
  rw [cleanEntries_step] at h
  cases hfirst : cleanEntry py seen raw with
  | error m => rw [hfirst] at h; cases h
  | ok entry =>
    rw [hfirst] at h
    dsimp only at h
    cases hrest : cleanEntries py (entry.key :: seen) rest with
    | error m => rw [hrest] at h; cases h
    | ok others =>
      rw [hrest] at h
      exact ⟨entry, others, rfl, hrest, (Except.ok.inj h).symm⟩

theorem cleanEntries_ok {raws : List RawEntry} {entries : List Entry} (h : cleanEntries py seen raws = .ok entries) :
    (∀ e ∈ entries, e.Clean) ∧ (entries.map (·.key)).Nodup ∧ (∀ e ∈ entries, e.key ∉ seen) ∧
      entries.length = raws.length := by
  induction raws generalizing seen entries with
  | nil =>
    obtain rfl := Except.ok.inj h
    exact ⟨fun e he => (by cases he), List.nodup_nil, fun e he => (by cases he), rfl⟩
  | cons raw rest ih =>
    obtain ⟨entry, others, hfirst, hrest, rfl⟩ := cleanEntries_cons h
    obtain ⟨hclean, hseen⟩ := cleanEntry_ok hfirst
    obtain ⟨hcleans, hnodup, hnew, hlength⟩ := ih hrest
    refine ⟨?_, ?_, ?_, by simp [hlength]⟩
    · intro e he
      rcases List.mem_cons.1 he with rfl | he
      · exact hclean
      · exact hcleans e he
    · rw [List.map_cons, List.nodup_cons]
      refine ⟨fun hmem => ?_, hnodup⟩
      obtain ⟨e, he, hkey⟩ := List.mem_map.1 hmem
      exact hnew e he (hkey ▸ List.mem_cons_self)
    · intro e he
      rcases List.mem_cons.1 he with rfl | he
      · exact hseen
      · exact fun hmem => hnew e he (List.mem_cons_of_mem _ hmem)

theorem cleanEntries_raw {entries : List Entry} (hclean : ∀ e ∈ entries, e.Clean)
    (hnodup : (entries.map (·.key)).Nodup) (hseen : ∀ e ∈ entries, e.key ∉ seen) :
    cleanEntries py seen (entries.map Entry.raw) = .ok entries := by
  induction entries generalizing seen with
  | nil => rfl
  | cons e rest ih =>
    rw [List.map_cons, List.nodup_cons] at hnodup
    have hfirst := @cleanEntry_raw py seen e (hclean e List.mem_cons_self) (hseen e List.mem_cons_self)
    have hrest := @ih (e.key :: seen) (fun e' he' => hclean e' (List.mem_cons_of_mem _ he')) hnodup.2
      fun e' he' hmem => by
        rcases List.mem_cons.1 hmem with heq | hmem
        · exact hnodup.1 (heq ▸ List.mem_map_of_mem he')
        · exact hseen e' (List.mem_cons_of_mem _ he') hmem
    rw [List.map_cons, cleanEntries_step, hfirst]
    dsimp only
    rw [hrest]
    rfl

theorem sorted_sortEntries (entries : List Entry) : (sortEntries entries).Pairwise fun a b => a.key ≤ b.key := by
  have : Std.Total fun a b : Entry => a.key ≤ b.key := ⟨fun a b => le_total a.key b.key⟩
  have : IsTrans Entry fun a b => a.key ≤ b.key := ⟨fun a b c hab hbc => le_trans hab hbc⟩
  exact List.pairwise_insertionSort _ entries

/-- what `validate` has looked at when it accepts -/
theorem validate_inv {title targetRole : String} {raws : List RawEntry} {fields : Fields}
    (h : validate py title targetRole raws = .ok fields) : strip title ≠ "" ∧ raws ≠ [] ∧ raws.length ≤ maxEntries ∧
      ∃ role cleaned, roleNames.lookup (py.lower (strip targetRole)) = some role ∧ cleanEntries py [] raws = .ok cleaned ∧
        fields = ⟨strip title, role, sortEntries cleaned⟩ := by
  unfold validate at h
  by_cases htitle : strip title = ""
  · rw [if_pos htitle] at h; cases h
  rw [if_neg htitle] at h
  cases hrole : roleNames.lookup (py.lower (strip targetRole)) with
  | none => rw [hrole] at h; cases h
  | some role =>
    rw [hrole] at h
    dsimp only at h
    by_cases hsome : raws = []
    · rw [if_pos hsome] at h; cases h
    rw [if_neg hsome] at h
    by_cases hmany : maxEntries < raws.length
    · rw [if_pos hmany] at h; cases h
    rw [if_neg hmany] at h
    cases hentries : cleanEntries py [] raws with
    | error m => rw [hentries] at h; cases h
    | ok cleaned =>
      rw [hentries] at h
      exact ⟨htitle, hsome, not_lt.1 hmany, role, cleaned, rfl, rfl, (Except.ok.inj h).symm⟩

/-- **A validated change is clean.** -/
theorem validate_ok {title targetRole : String} {raws : List RawEntry} {fields : Fields}
    (h : validate py title targetRole raws = .ok fields) : fields.Clean := by
  obtain ⟨htitle, hsome, hmany, role, cleaned, -, hentries, rfl⟩ := validate_inv h
  obtain ⟨hclean, hnodup, -, hlength⟩ := cleanEntries_ok hentries
  have hperm : (sortEntries cleaned).Perm cleaned := List.perm_insertionSort _ cleaned
  have hlen : (sortEntries cleaned).length = raws.length := hperm.length_eq.trans hlength
  refine ⟨⟨strip_idem title, htitle⟩, ⟨fun hnil => hsome ?_, ?_⟩, fun e he => hclean e (hperm.subset he),
    (hperm.map _).nodup_iff.2 hnodup, sorted_sortEntries cleaned⟩
  · have hnil : sortEntries cleaned = [] := hnil
    rw [hnil] at hlen
    exact List.length_eq_zero_iff.1 hlen.symm
  · change (sortEntries cleaned).length ≤ maxEntries
    omega

/-- **It validates to itself.** -/
theorem validate_idem {fields : Fields} (h : fields.Clean) :
    validate py fields.title fields.targetRole.name (fields.entries.map Entry.raw) = .ok fields := by
  have hrole : roleNames.lookup (py.lower (strip fields.targetRole.name)) = some fields.targetRole := by
    rw [lower_strip_role]
    cases fields.targetRole <;> decide
  unfold validate
  rw [h.title.1, if_neg h.title.2, hrole]
  dsimp only
  rw [if_neg (by simpa using h.some.1), if_neg (by simpa using h.some.2),
    cleanEntries_raw h.entries h.nodup fun e _ => List.not_mem_nil]
  change Except.ok (Fields.mk fields.title fields.targetRole (sortEntries fields.entries)) = _
  rw [sortEntries, h.sorted.insertionSort_eq]

end Clean

/-! ## When a change may leave -/

/-- a stored change -/
structure Change where
  id : ℕ
  title : String
  targetRole : Role
  entries : List Entry
  notes : Option String
  verifiedOn : Option String
deriving DecidableEq, Repr

/-- `unknown_names`: of the names being set, those this build does not accept -/
def unknownNames (entries : List Entry) (validNames : List String) : List String :=
  ((entries.filter fun e => e.action ≠ .unset ∧ e.key ∉ validNames).map (·.key)).dedup.insertionSort (· ≤ ·)

/-- why this change may not go to this cluster, if it may not -/
def refuseDeploy (change : Change) (cluster : String) (development validNames : List String) (scanned : Bool) :
    Option String :=
  if scanned = false then
    some ("TMS has not read this cluster's configuration yet, so it does not know which property names this build " ++
      "accepts. Run the scan on this screen first.")
  else if validNames = [] then
    some ("The scan of this cluster returned no property names, so the typo check has nothing to check against. " ++
      "Trino prints them at startup - if the list is empty, the scan is not reading the right log. Nothing will be " ++
      "deployed until it is.")
  else if unknownNames change.entries validNames ≠ [] then
    some ("This cluster does not accept " ++ String.intercalate ", " (unknownNames change.entries validNames) ++
      ". An unknown property stops Trino from starting, so nothing is deployed. Check the spelling against the Known " ++
      "properties list.")
  else if cluster ∈ development then none
  else if development = [] then
    some ("No development cluster is configured, so there is nowhere to prove this before it reaches production. Set " ++
      "cluster_ops.config_scan.development_clusters.")
  else if change.verifiedOn.getD "" = "" then
    some ("This change has not been proved on a development cluster yet. Deploy it there, restart, and confirm health " ++
      "is GOOD first.")
  else if change.verifiedOn.getD "" ∉ development then
    some ("This change was last proved on " ++ change.verifiedOn.getD "" ++ ", which is not a development cluster.")
  else none

theorem unknownNames_eq_nil {entries : List Entry} {validNames : List String} :
    unknownNames entries validNames = [] ↔ ∀ e ∈ entries, e.action = .set → e.key ∈ validNames := by
  have hmem : ∀ name, name ∈ unknownNames entries validNames ↔
      ∃ e ∈ entries, (e.action ≠ .unset ∧ e.key ∉ validNames) ∧ e.key = name := by
    intro name
    simp [unknownNames, and_assoc]
  rw [List.eq_nil_iff_forall_not_mem]
  constructor
  · intro h e he hset
    by_contra hkey
    exact h e.key ((hmem e.key).2 ⟨e, he, ⟨by rw [hset]; decide, hkey⟩, rfl⟩)
  · intro h name hname
    obtain ⟨e, he, ⟨haction, hkey⟩, -⟩ := (hmem name).1 hname
    cases hact : e.action with
    | set => exact hkey (h e he hact)
    | unset => exact haction hact

/-- **The gates of a deployment**, in one condition. -/
theorem refuseDeploy_eq_none {change : Change} {cluster : String} {development validNames : List String} {scanned : Bool} :
    refuseDeploy change cluster development validNames scanned = none ↔
      scanned = true ∧ validNames ≠ [] ∧ (∀ e ∈ change.entries, e.action = .set → e.key ∈ validNames) ∧
        (cluster ∈ development ∨ ∃ on ∈ change.verifiedOn, on ≠ "" ∧ on ∈ development) := by
  have hproof : (∃ on ∈ change.verifiedOn, on ≠ "" ∧ on ∈ development) ↔
      change.verifiedOn.getD "" ≠ "" ∧ change.verifiedOn.getD "" ∈ development := by
    cases change.verifiedOn <;> simp
  rw [hproof, ← unknownNames_eq_nil]
  unfold refuseDeploy
  split_ifs with hscanned hnames hunknown hcluster hdevelopment hverified hplace
  all_goals simp_all

end TrinoManagement.ConfigEdit
