/-
Catalog drafts and the rules of their deployment: `tms/ops/catalogs.py`.

No credential in TMS: `validate` refuses a literal under a key that looks like one. A draft goes to a development cluster
first: `refuseDeploy`.

- `validate_ok`: what a validated draft is made of.
- `refuseDeploy_eq_none`: the gate in one condition.
-/
import Mathlib.Data.List.Sort
import Mathlib.Data.String.Basic
import Mathlib.Tactic
import TrinoManagement.Config.Secrets
import TrinoManagement.Core.Dict

namespace TrinoManagement.Catalogs

open TrinoManagement.Secrets TrinoManagement.Text

/-- `^[a-z][a-z0-9_]*$`: Trino reads the name as a filename -/
def isCatalogName (name : String) : Bool :=
  isName Char.isLower (fun c => c.isLower || c.isDigit || c == '_') name.toList

/-- `SECRET_KEY` -/
def secretKey (key : String) : Bool := search (secretPattern ["password", "secret", "credential"]) key.toList

/-- it lives in its own column; it is not a free property -/
def reserved : List String := ["connector.name"]

def maxProperties : ℕ := 100

def maxValueChars : ℕ := 2000

/-- what `validate` returns -/
structure Fields where
  name : String
  connector : String
  properties : Dict String
deriving DecidableEq, Repr

def credentialMessage (key : String) : String :=
  key ++ " looks like a credential, so it must be an environment reference rather than a value: " ++
    "$\x7bENV:SOME_VARIABLE\x7d. TMS never stores the secret itself - Trino reads the variable from the node's own " ++
    "environment, so the variable has to exist on every node this is deployed to."

section Validate

variable (repr : String → String)

/-- the properties so far with one more; `none` is a null value -/
def cleanProperty (cleaned : Dict String) (key : String) (value : Option String) : Except String (Dict String) :=
  let key := strip key
  let value := value.getD ""
  if key = "" then .ok cleaned
  else if key ∈ reserved then .error "\x60connector.name\x60 is set by the Connector field, not as a property."
  else if maxValueChars < value.length then .error ("The value of " ++ repr key ++ " is too long.")
  else if secretKey key = true ∧ envReference (strip value) = false then .error (credentialMessage key)
  else .ok (cleaned.set key value)

def cleanProperties (cleaned : Dict String) : List (String × Option String) → Except String (Dict String)
  | [] => .ok cleaned
  | (key, value) :: rest =>
    match cleanProperty repr cleaned key value with
    | .error m => .error m
    | .ok cleaned => cleanProperties cleaned rest

/-- refuse a draft that cannot be stored -/
def validate (name connector : String) (properties : List (String × Option String)) : Except String Fields :=
  if isCatalogName (strip name) = false then
    .error ("A catalog name must start with a letter and hold only lowercase letters, digits and underscores - Trino " ++
      "reads it as the filename etc/catalog/<name>.properties.")
  else if strip connector = "" then .error "Which connector? \x60connector.name\x60 cannot be empty."
  -- not checked against a list: a wrong name is caught by the development cluster refusing to start
  else if isCatalogName (strip connector) = false then
    .error ("A connector name holds lowercase letters, digits and underscores. Trino writes them with underscores - " ++
      "\x60delta_lake\x60, not \x60delta-lake\x60.")
  else
    match cleanProperties repr [] properties with
    | .error m => .error m
    | .ok cleaned =>
      if maxProperties < cleaned.length then
        .error ("That is more than " ++ toString maxProperties ++ " properties.")
      else .ok ⟨strip name, strip connector, cleaned⟩

end Validate

/-- `sorted(properties)`, with the values -/
def sortPairs (properties : Dict String) : List (String × String) := properties.insertionSort fun a b => a.1 ≤ b.1

/-- the file as it will land on the node -/
def render (connector : String) (properties : Dict String) : String :=
  String.intercalate "\n" (("connector.name=" ++ connector) ::
    (sortPairs properties).map fun p => p.1 ++ "=" ++ p.2) ++ "\n"

/-- a stored draft -/
structure Draft where
  id : ℕ
  name : String
  connector : String
  properties : Dict String
  notes : Option String
  verifiedOn : Option String
deriving DecidableEq, Repr

/-- why this draft may not go to this cluster, if it may not -/
def refuseDeploy (draft : Draft) (cluster : String) (development : List String) : Option String :=
  if cluster ∈ development then none
  else if development = [] then
    some ("No development cluster is configured, so there is nowhere to prove this first. Set cluster_ops.config_scan." ++
      "development_clusters before deploying a catalog to a cluster that serves queries.")
  else if draft.verifiedOn.getD "" = "" then
    some ("This catalog has not been proved on a development cluster yet. A catalog Trino cannot load stops every node " ++
      "it reaches from starting, and TMS cannot check that in advance - so deploy it to " ++
      String.intercalate " or " development ++ " first and let it restart.")
  else if draft.verifiedOn.getD "" ∉ development then
    some ("This catalog was last proved on " ++ draft.verifiedOn.getD "" ++ ", which is not a development cluster.")
  else none

/-- **The gate of a deployment.** -/
theorem refuseDeploy_eq_none {draft : Draft} {cluster : String} {development : List String} :
    refuseDeploy draft cluster development = none ↔
      cluster ∈ development ∨ ∃ on ∈ draft.verifiedOn, on ≠ "" ∧ on ∈ development := by
  have hproof : (∃ on ∈ draft.verifiedOn, on ≠ "" ∧ on ∈ development) ↔
      draft.verifiedOn.getD "" ≠ "" ∧ draft.verifiedOn.getD "" ∈ development := by
    cases draft.verifiedOn <;> simp
  rw [hproof]
  unfold refuseDeploy
  split_ifs with hcluster hdevelopment hverified hplace
  all_goals simp_all

/-! ## What a validated draft is made of -/

/-- what `validate` returns -/
structure Fields.Clean (f : Fields) : Prop where
  name : isCatalogName f.name = true
  connector : isCatalogName f.connector = true ∧ strip f.connector = f.connector
  nodup : f.properties.keys.Nodup
  keys : ∀ key ∈ f.properties.keys, strip key = key ∧ key ≠ "" ∧ key ≠ "connector.name"
  values : ∀ p ∈ f.properties, p.2.length ≤ maxValueChars ∧ (secretKey p.1 = true → envReference (strip p.2) = true)
  few : f.properties.length ≤ maxProperties

section Clean

variable {repr : String → String}

/-- what every property stored so far meets -/
structure CleanPairs (d : Dict String) : Prop where
  nodup : d.keys.Nodup
  keys : ∀ key ∈ d.keys, strip key = key ∧ key ≠ "" ∧ key ≠ "connector.name"
  values : ∀ p ∈ d, p.2.length ≤ maxValueChars ∧ (secretKey p.1 = true → envReference (strip p.2) = true)

theorem cleanProperty_ok {d d' : Dict String} {key : String} {value : Option String} (hd : CleanPairs d)
    (h : cleanProperty repr d key value = .ok d') : CleanPairs d' := by
  unfold cleanProperty at h
  dsimp only at h
  split_ifs at h with hempty hreserved hlong hsecret
  · obtain rfl := Except.ok.inj h
    exact hd
  · obtain rfl := Except.ok.inj h
    have hkey : strip key ≠ "connector.name" := fun heq => hreserved (by simp [reserved, heq])
    refine ⟨Dict.nodup_set hd.nodup _ _, fun k hk => ?_, fun p hp => ?_⟩
    · rw [Dict.keys_set] at hk
      have hk : k ∈ d.keys ∨ k = strip key := by
        split_ifs at hk with hmem
        · exact .inl hk
        · simpa using hk
      rcases hk with hk | rfl
      · exact hd.keys k hk
      · exact ⟨strip_idem key, hempty, hkey⟩
    · rcases Dict.mem_set hp with hp | rfl
      · exact hd.values p hp
      · refine ⟨not_lt.1 hlong, fun hs => ?_⟩
        by_contra hvalue
        exact hsecret ⟨hs, by simpa using hvalue⟩

theorem cleanProperties_ok {d d' : Dict String} {properties : List (String × Option String)} (hd : CleanPairs d)
    (h : cleanProperties repr d properties = .ok d') : CleanPairs d' := by
  induction properties generalizing d with
  | nil =>
    obtain rfl := Except.ok.inj h
    exact hd
  | cons p rest ih =>
    obtain ⟨key, value⟩ := p
    rw [cleanProperties] at h
    cases hfirst : cleanProperty repr d key value with
    | error m => rw [hfirst] at h; cases h
    | ok d₁ =>
      rw [hfirst] at h
      exact ih (cleanProperty_ok hd hfirst) h

/-- what `validate` has looked at when it accepts -/
theorem validate_inv {name connector : String} {properties : List (String × Option String)} {fields : Fields}
    (h : validate repr name connector properties = .ok fields) : isCatalogName (strip name) = true ∧
      isCatalogName (strip connector) = true ∧ ∃ cleaned, cleanProperties repr [] properties = .ok cleaned ∧
        cleaned.length ≤ maxProperties ∧ fields = ⟨strip name, strip connector, cleaned⟩ := by
  unfold validate at h
  split_ifs at h with hname hempty hconnector
  cases hclean : cleanProperties repr [] properties with
  | error m => rw [hclean] at h; cases h
  | ok cleaned =>
    rw [hclean] at h
    dsimp only at h
    split_ifs at h with hmany
    exact ⟨by simpa using hname, by simpa using hconnector, cleaned, rfl, not_lt.1 hmany, (Except.ok.inj h).symm⟩

/-- **A validated draft is clean.** -/
theorem validate_ok {name connector : String} {properties : List (String × Option String)} {fields : Fields}
    (h : validate repr name connector properties = .ok fields) : fields.Clean := by
  obtain ⟨hname, hconnector, cleaned, hclean, hmany, rfl⟩ := validate_inv h
  have hnone : CleanPairs [] := ⟨List.nodup_nil, fun k hk => (by cases hk), fun p hp => (by cases hp)⟩
  obtain ⟨hnodup, hkeys, hvalues⟩ := cleanProperties_ok hnone hclean
  exact ⟨hname, ⟨hconnector, strip_idem _⟩, hnodup, hkeys, hvalues, hmany⟩

end Clean

end TrinoManagement.Catalogs
