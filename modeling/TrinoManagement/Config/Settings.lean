/-
Where a setting comes from, `load_config` of `tms/core/config.py`: the configuration file, the file with the secrets over it,
the environment over both.

- `Mapping`: a document whose mappings double no key. `readYaml`: the document of a file, or why there is none.
- `secretLayer`: the file with the secrets is left out only if there is none. One that cannot be looked at is an error.
- `applyEnv_merge`: the environment is one more layer, `envLayer`, over the sections it writes into.
- `last_layer_wins`: every setting is that of the last layer that has one.
-/
import Mathlib.Tactic
import TrinoManagement.Collector.HealthWriter
import TrinoManagement.Core.Overlay

namespace TrinoManagement.Settings

open TrinoManagement.HealthWriter (Rejected)
open TrinoManagement.Overlay

/-! ## Files -/

/-- what `os.stat` and `open` raise; `other` is also a text that is no YAML -/
inductive FileError where
  | notFound | permission | isADirectory | other
deriving DecidableEq, Repr

/-- what `yaml.safe_load` returns -/
structure Yaml where
  value : Value
  unique : Unique value

/-- the files of the host, and `_current_user_description` -/
structure Host where
  stat : String → Except FileError Unit
  load : String → Except FileError Yaml
  who : String

/-- a `dict` -/
structure Mapping where
  fields : Dict Value
  unique : Unique (.dict fields)

def Mapping.empty : Mapping where
  fields := []
  unique := unique_dict List.nodup_nil fun _ h => absurd h List.not_mem_nil

/-- `_secret_file_present` -/
def secretFilePresent (host : Host) (path : String) : Except Rejected Bool :=
  match host.stat path with
  | .ok _ => .ok true
  | .error .notFound => .ok false
  | .error .permission => .error (.config (path ++ ": cannot be checked - permission denied on a parent directory. " ++
      "This process runs as " ++ host.who ++ ". Every credential lives in this file, so it " ++
      "must not be skipped silently. Make the directory traversable:  " ++
      "sudo chmod o+x <parent dir>  (or chown it to the service user)"))
  | .error _ => .error .raised

/-- `_read_yaml` -/
def readYaml (host : Host) (path : String) : Except Rejected Mapping :=
  match host.load path with
  | .error .permission => .error (.config (path ++ ": permission denied. This process runs as " ++ host.who ++
      " and cannot read the file. If it was created with sudo it is probably owned by root. " ++
      "Fix with:  sudo chown <service-user>:<service-group> " ++ path ++
      " && sudo chmod 600 " ++ path ++ "  (the parent directory must also be traversable by that user)"))
  | .error .isADirectory => .error (.config (path ++ ": expected a file, found a directory"))
  | .error _ => .error .raised
  | .ok ⟨.none, _⟩ => .ok Mapping.empty
  | .ok ⟨.dict fields, unique⟩ => .ok ⟨fields, unique⟩
  | .ok _ => .error (.config (path ++ ": expected a mapping at the top level"))

/-- `os.path.dirname` -/
def dirname (path : String) : String :=
  let head := path.toList.rdropWhile (· ≠ '/')
  if head.all (· = '/') then String.ofList head else String.ofList (head.rdropWhile (· = '/'))

/-- `os.path.join`, of a name that does not begin with a slash -/
def joined (directory name : String) : String :=
  if directory = "" ∨ directory.toList.getLast? = some '/' then directory ++ name else directory ++ "/" ++ name

/-! ## Layers -/

/-- `_deep_merge` -/
def deepMerge (base overlay : Dict Value) : Dict Value := merge base overlay

/-- an entry of `ENV_OVERRIDES`: a variable, and the setting it stands for -/
structure EnvOverride where
  name : String
  sectionName : String
  key : String
deriving DecidableEq, Repr

/-- `ENV_OVERRIDES` -/
def envOverrides : List EnvOverride :=
  [⟨"TMS_TRINO_PASSWORD", "trino", "password"⟩, ⟨"TMS_DATABASE_URL", "database", "url"⟩,
    ⟨"TMS_LDAP_BIND_PASSWORD", "ldap", "bind_password"⟩, ⟨"TMS_SESSION_SECRET", "portal", "session_secret"⟩,
    ⟨"TMS_GATEWAY_PASSWORD", "gateway", "password"⟩]

/-- the environment; a variable that is empty is not set -/
def environValue (environ : String → Option String) (name : String) : Option String := (environ name).filter (· ≠ "")

/-- `dict(v)` of a value that is no mapping: a list may hold pairs, anything else raises -/
def dictOf (pairs : List Value → Except Rejected (Dict Value)) : Value → Except Rejected (Dict Value)
  | .dict fields => .ok fields
  | .list items => pairs items
  | _ => .error .raised

section Load

variable (pairs : List Value → Except Rejected (Dict Value)) (environ : String → Option String)

/-- one round of the loop of `_apply_env` -/
def applyOverride (result : Dict Value) (entry : EnvOverride) : Except Rejected (Dict Value) :=
  match environValue environ entry.name with
  | none => .ok result
  | some value => do
    let sectionMap ← dictOf pairs ((Value.dict result).get entry.sectionName).orEmptyDict
    pure (result.set entry.sectionName (.dict (sectionMap.set entry.key (.str value))))

/-- `_apply_env` -/
def applyEnv (raw : Dict Value) : Except Rejected (Dict Value) := envOverrides.foldlM (applyOverride pairs environ) raw

/-- the mapping of the file with the secrets, if there is one -/
def secretLayer (host : Host) (path : String) : Except Rejected Mapping := do
  if ← secretFilePresent host path then readYaml host path else pure Mapping.empty

/-- `load_config`, up to what it gives `build_config` -/
def loadSettings (host : Host) (configPath : String) (secretPath : Option String) : Except Rejected (Dict Value) := do
  let config ← readYaml host configPath
  let secret ← secretLayer host (secretPath.getD (joined (dirname configPath) "config.secret.yaml"))
  applyEnv pairs environ (deepMerge config.fields secret.fields)

end Load

/-! ## The environment as a layer -/

/-- what some entries say -/
def layerOf (environ : String → Option String) (entries : List EnvOverride) : Dict Value :=
  entries.filterMap fun entry =>
    (environValue environ entry.name).map fun value => (entry.sectionName, .dict [(entry.key, .str value)])

/-- what the environment says -/
def envLayer (environ : String → Option String) : Dict Value := layerOf environ envOverrides

/-- no section that the environment writes into is a list -/
def NoLists (raw : Dict Value) (entries : List EnvOverride) : Prop :=
  ∀ entry ∈ entries, ∀ items, raw.lookup entry.sectionName = some (.list items) → items = []

section EnvLayer

variable {pairs : List Value → Except Rejected (Dict Value)} {environ : String → Option String}
  {raw result : Dict Value} {entry : EnvOverride} {entries : List EnvOverride}

theorem keys_layerOf : (layerOf environ entries).keys.Sublist (entries.map EnvOverride.sectionName) := by
  induction entries with
  | nil => exact List.Sublist.refl _
  | cons entry entries ih =>
    rw [layerOf, List.filterMap_cons]
    cases environValue environ entry.name with
    | none => exact ih.cons _
    | some value => exact ih.cons_cons _

theorem unique_setting {key value : String} : Unique (.dict [(key, .str value)]) := by
  refine unique_dict (List.nodup_singleton _) fun p hp => ?_
  obtain rfl := List.mem_singleton.1 hp
  exact unique_leaf rfl

theorem unique_envLayer : Unique (.dict (envLayer environ)) := by
  refine unique_dict (keys_layerOf.nodup (by decide)) fun p hp => ?_
  obtain ⟨entry, -, hentry⟩ := List.mem_filterMap.1 hp
  obtain ⟨value, -, rfl⟩ := Option.map_eq_some_iff.1 hentry
  exact unique_setting

/-- one variable: its setting laid over the rest -/
theorem applyOverride_merge (hlists : ∀ items, raw.lookup entry.sectionName = some (.list items) → items = [])
    (h : applyOverride pairs environ raw entry = .ok result) : result = merge raw (layerOf environ [entry]) := by
  unfold applyOverride at h
  unfold layerOf
  rw [List.filterMap_cons, List.filterMap_nil]
  cases hvalue : environValue environ entry.name with
  | none =>
    rw [hvalue] at h
    cases h
    simp only [Option.map_none, merge]
  | some value =>
    rw [hvalue] at h
    obtain ⟨sectionMap, hmap, hresult⟩ := bind_eq_ok.1 h
    obtain rfl : raw.set entry.sectionName (.dict (sectionMap.set entry.key (.str value))) = result :=
      Except.ok.inj hresult
    simp only [Option.map_some, merge]
    congr 1
    rw [Value.get] at hmap
    cases hold : raw.lookup entry.sectionName with
    | none =>
      rw [hold] at hmap
      obtain rfl : [] = sectionMap := Except.ok.inj hmap
      rw [put_none]
      rfl
    | some old =>
      rw [hold, Option.getD_some, Value.orEmptyDict] at hmap
      cases old with
      | dict fields =>
        have hfields : fields = sectionMap := by
          cases fields with
          | nil => exact Except.ok.inj hmap
          | cons p rest => exact Except.ok.inj hmap
        subst hfields
        rw [put_dict, merge, merge, put_leaf rfl]
      | list items =>
        obtain rfl := hlists items hold
        obtain rfl : [] = sectionMap := Except.ok.inj hmap
        rw [put_on_leaf rfl]
        rfl
      | _ =>
        split_ifs at hmap
        · cases hmap
        · obtain rfl : [] = sectionMap := Except.ok.inj hmap
          rw [put_on_leaf rfl]
          rfl

/-- what one variable leaves is no list -/
theorem noLists_step (h : NoLists raw (entry :: entries)) : NoLists (merge raw (layerOf environ [entry])) entries := by
  intro other hother items hfind
  have hkeys : (layerOf environ [entry]).keys.Nodup := keys_layerOf.nodup (List.nodup_singleton _)
  rw [lookup_merge hkeys] at hfind
  cases hlayer : (layerOf environ [entry]).lookup other.sectionName with
  | none =>
    rw [hlayer] at hfind
    exact h other (List.mem_cons_of_mem _ hother) items hfind
  | some v =>
    have hmem := Dict.mem_of_lookup hlayer
    obtain ⟨_, -, hentry⟩ := List.mem_filterMap.1 hmem
    obtain ⟨value, -, heq⟩ := Option.map_eq_some_iff.1 hentry
    obtain ⟨-, rfl⟩ := Prod.mk.inj heq
    rw [hlayer] at hfind
    have hlist : put (raw.lookup other.sectionName) _ = .list items := Option.some.inj hfind
    have hdict : (Value.list items).isDict = true := hlist ▸ put_isDict rfl
    cases hdict

theorem applyOverrides_merge (hlists : NoLists raw entries)
    (h : entries.foldlM (applyOverride pairs environ) raw = .ok result) : result = merge raw (layerOf environ entries) := by
  induction entries generalizing raw with
  | nil => exact (Except.ok.inj h).symm
  | cons entry entries ih =>
    rw [List.foldlM_cons] at h
    obtain ⟨mid, hmid, hrest⟩ := bind_eq_ok.1 h
    obtain rfl := applyOverride_merge (hlists entry List.mem_cons_self) hmid
    rw [ih (noLists_step hlists) hrest, ← merge_append, layerOf, layerOf, ← List.filterMap_append]
    rfl

/-- `_apply_env` lays the environment over the rest -/
theorem applyEnv_merge (hlists : NoLists raw envOverrides) (h : applyEnv pairs environ raw = .ok result) :
    result = merge raw (envLayer environ) :=
  applyOverrides_merge hlists h

end EnvLayer

/-! ## Every setting -/

/-- what the file with the secrets holds: nothing if there is none -/
def SecretsOf (host : Host) (path : String) (secret : Mapping) : Prop :=
  host.stat path = .error .notFound ∧ secret = Mapping.empty ∨ host.stat path = .ok () ∧ readYaml host path = .ok secret

theorem secretLayer_ok {host : Host} {path : String} {secret : Mapping} (h : secretLayer host path = .ok secret) :
    SecretsOf host path secret := by
  obtain ⟨present, hpresent, hread⟩ := bind_eq_ok.1 h
  unfold secretFilePresent at hpresent
  split at hpresent
  · rename_i hstat
    obtain rfl := Except.ok.inj hpresent
    exact .inr ⟨hstat, hread⟩
  · rename_i hstat
    obtain rfl := Except.ok.inj hpresent
    exact .inl ⟨hstat, (Except.ok.inj hread).symm⟩
  · cases hpresent
  · cases hpresent

/-- **The last layer wins.** What `load_config` passes on is made of three layers: the configuration file, the file with the
secrets, which is left out only if there is none, and the environment. At every path, however deep, what is set is what the
last layer says that says anything there; a layer says nothing as long as it holds only mappings on the way and nothing at
the end. So no credential of a later layer is lost, and nothing appears that no layer holds. -/
theorem last_layer_wins (pairs : List Value → Except Rejected (Dict Value)) (environ : String → Option String) (host : Host)
    (configPath : String) (secretPath : Option String) {settings : Dict Value}
    (h : loadSettings pairs environ host configPath secretPath = .ok settings) :
    ∃ config secret : Mapping, readYaml host configPath = .ok config ∧
      SecretsOf host (secretPath.getD (joined (dirname configPath) "config.secret.yaml")) secret ∧
      (NoLists (deepMerge config.fields secret.fields) envOverrides → ∀ path x, x.isDict = false →
        (find path (.dict settings) = some x ↔ Says [config.fields, secret.fields, envLayer environ] path x)) := by
  obtain ⟨config, hconfig, h⟩ := bind_eq_ok.1 h
  obtain ⟨secret, hsecret, h⟩ := bind_eq_ok.1 h
  refine ⟨config, secret, hconfig, secretLayer_ok hsecret, fun hlists path x hx => ?_⟩
  have hlayers : settings = [secret.fields, envLayer environ].foldl merge config.fields := applyEnv_merge hlists h
  rw [hlayers]
  refine leaf_layers hx fun layer hlayer => ?_
  rcases List.mem_cons.1 hlayer with rfl | hlayer
  · exact secret.unique
  · obtain rfl := List.mem_singleton.1 hlayer
    exact unique_envLayer

section Sample

def oneSetting (sectionName key value : String) : Yaml where
  value := .dict [(sectionName, .dict [(key, .str value)])]
  unique := by
    refine unique_dict (List.nodup_singleton _) fun p hp => ?_
    obtain rfl := List.mem_singleton.1 hp
    exact unique_setting

/-- a user in one file, a password in the other -/
def sampleHost : Host where
  stat _ := .ok ()
  load path := .ok (if path = "/etc/tms/config.yaml" then oneSetting "trino" "user" "tms"
    else oneSetting "trino" "password" "from the file")
  who := "uid 993 (tms)"

def sampleEnviron (name : String) : Option String :=
  if name = "TMS_SESSION_SECRET" then some "from systemd" else none

def sampleSettings : Dict Value :=
  [("trino", .dict [("user", .str "tms"), ("password", .str "from the file")]),
    ("portal", .dict [("session_secret", .str "from systemd")])]

theorem last_layer_wins_sample : ∃ config secret : Mapping, readYaml sampleHost "/etc/tms/config.yaml" = .ok config ∧
    SecretsOf sampleHost "/etc/tms/config.secret.yaml" secret ∧
    (NoLists (deepMerge config.fields secret.fields) envOverrides → ∀ path x, x.isDict = false →
      (find path (.dict sampleSettings) = some x ↔ Says [config.fields, secret.fields, envLayer sampleEnviron] path x)) :=
  last_layer_wins (fun _ => .error .raised) sampleEnviron sampleHost "/etc/tms/config.yaml" none rfl

end Sample

end TrinoManagement.Settings
