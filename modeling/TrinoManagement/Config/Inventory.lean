/-
Who the nodes are: `tms/fleet/inventory.py`, the subset of Ansible's inventory files that TMS reads.

- `parseInventory`: the hosts of the two role groups, through `:children`, each once a role.
- `visit_enough`: a walk of the groups ends within the steps it is given, whatever cycles the file has.
- `parseInventory_isHost`: a node's name is made of host characters, so it is never the `?` of an unknown host.
-/
import Mathlib.Tactic
import TrinoManagement.Core.Audit
import TrinoManagement.Core.Dict
import TrinoManagement.Core.Lines
import TrinoManagement.Core.Walk

namespace TrinoManagement.Inventory

open TrinoManagement.Text

/-- Python's `str.lower`, and `\w` of its `re` -/
structure Letters where
  lower : String → String
  isWord : Char → Bool

inductive NodeRole where
  | coordinator | worker
deriving DecidableEq, Repr

/-- `_ROLE_GROUPS`, in the order nodes are listed -/
def roleGroups : List (String × NodeRole) :=
  [("coordinator", .coordinator), ("coordinators", .coordinator), ("worker", .worker), ("workers", .worker)]

/-- one node, as the inventory knows it -/
structure Node where
  host : String
  role : NodeRole
  cluster : String
  vars : Dict String
deriving DecidableEq, Repr

/-- a host line -/
structure HostLine where
  host : String
  vars : Dict String
deriving DecidableEq, Repr

/-! ## Lines -/

/-- a line less its comment -/
def uncommented (raw : List Char) : List Char :=
  stripChars ((raw.takeWhile (· != '#')).takeWhile (· != ';'))

section Letters

variable (py : Letters)

/-- `_SECTION`: the group and the kind a header opens, in lower case -/
def sectionOf (line : List Char) : Option (String × String) :=
  if line.head? ≠ some '[' ∨ line.getLast? ≠ some ']' ∨ line.length < 3 then none
  else
    let inner := line.tail.dropLast
    let name := inner.takeWhile (· != ':')
    if name = [] ∨ ']' ∈ name then none
    else
      let group := py.lower (String.ofList (stripChars name))
      match inner.dropWhile (· != ':') with
      | [] => some (group, "hosts")
      | _ :: rest =>
        let kind := stripChars rest
        if kind = [] ∨ kind.any (fun c => !py.isWord c) then none else some (group, py.lower (String.ofList kind))

/-- `_HOST`: what a host's name is made of -/
def isHostChar (c : Char) : Bool :=
  c.isLower || c.isUpper || c.isDigit || c == '_' || c == '.' || c == ':' || c == '-'

/-- the `key=value` words after a host -/
def hostVars (rest : List Char) : Dict String :=
  Dict.ofPairs ((Audit.words (String.ofList rest)).filterMap fun token =>
    if '=' ∈ token then
      some (String.ofList (stripChars (token.takeWhile (· != '='))),
        String.ofList (stripChars (token.dropWhile (· != '=')).tail))
    else none)

def hostLine (line : List Char) : Option HostLine :=
  let host := line.takeWhile isHostChar
  if host = [] then none else some ⟨String.ofList host, hostVars (line.dropWhile isHostChar)⟩

/-- what the lines say: the hosts of each group, and the children of each -/
structure Groups where
  hosts : List (String × HostLine)
  children : List (String × String)
deriving DecidableEq, Repr

/-- `group` and `kind` of the header above a line -/
abbrev Header := Option (String × String)

/-- one line under a header -/
def readLine (header : Header) (groups : Groups) (raw : List Char) : Header × Groups :=
  let line := uncommented raw
  if line = [] then (header, groups)
  else
    match sectionOf py line with
    | some opened => (some opened, groups)
    | none =>
      match header with
      | none => (header, groups)
      | some (group, kind) =>
        if kind = "children" then
          (header, { groups with children := groups.children ++ [(group, py.lower (strip (String.ofList line)))] })
        else if kind ≠ "hosts" then (header, groups)
        else
          match hostLine line with
          | none => (header, groups)
          | some entry => (header, { groups with hosts := groups.hosts ++ [(group, entry)] })

def readLines (text : String) : Groups :=
  ((splitLines text.toList).foldl (fun (header, groups) raw => readLine py header groups raw) (none, ⟨[], []⟩)).2

/-! ## Groups -/

/-- `collect`, the groups still to visit on a stack: first a group's own hosts, then those of its children -/
def visit (groups : Groups) : ℕ → List String → List String → List HostLine
  | 0, _, _ => []
  | _, [], _ => []
  | fuel + 1, name :: stack, seen =>
    if name ∈ seen then visit groups fuel stack seen
    else
      (groups.hosts.filter (·.1 == name)).map Prod.snd ++
        visit groups fuel ((groups.children.filter (·.1 == name)).map Prod.snd ++ stack) (name :: seen)

/-- a group is opened once, so every `children` line is followed at most once -/
def collect (groups : Groups) (name : String) : List HostLine :=
  visit groups (groups.children.length + 1) [name] []

/-- the entries of the role groups, each host once a role -/
def listNodes (cluster : String) (groups : Groups) : List Node :=
  (roleGroups.flatMap fun (name, role) => (collect groups name).map fun entry => (entry, role)).foldl
    (fun nodes (entry, role) =>
      if nodes.any (fun n => n.host == entry.host && n.role == role) then nodes
      else nodes ++ [⟨entry.host, role, cluster, entry.vars⟩]) []

/-- `parse_inventory` -/
def parseInventory (text cluster : String) : List Node := listNodes cluster (readLines py text)

/-- `load_inventory` of a file, if it can be read -/
def loadInventory (file : Option String) (cluster : String) : List Node :=
  (file.map fun text => parseInventory py text cluster).getD []

end Letters

/-! ## The walk of the groups -/

/-- how many steps are left: the stack, and the children lines of groups not opened yet -/
def left (groups : Groups) (stack seen : List String) : ℕ :=
  stack.length + (groups.children.filter fun p => p.1 ∉ seen).length

/-- the hosts of the groups that are opened, in order -/
theorem visit_eq_walk (groups : Groups) (fuel : ℕ) (stack seen : List String) :
    visit groups fuel stack seen = (Walk.walk groups.children fuel stack seen).flatMap fun name =>
      (groups.hosts.filter (·.1 == name)).map Prod.snd := by
  induction fuel generalizing stack seen with
  | zero => rfl
  | succ fuel ih =>
    cases stack with
    | nil => rfl
    | cons name stack =>
      rw [visit, Walk.walk]
      split_ifs with hseen
      · exact ih stack seen
      · rw [List.flatMap_cons, ih]
        rfl

/-- **The walk ends** within the steps it is given: more of them change nothing. -/
theorem visit_enough (groups : Groups) {fuel : ℕ} {stack seen : List String} (h : left groups stack seen ≤ fuel) (more : ℕ) :
    visit groups (fuel + more) stack seen = visit groups fuel stack seen := by
  rw [visit_eq_walk, visit_eq_walk, Walk.walk_enough h]

theorem collect_enough (groups : Groups) (name : String) (more : ℕ) :
    visit groups (groups.children.length + 1 + more) [name] [] = collect groups name :=
  visit_enough groups (by simp [left]; omega) more

/-- every host a walk finds is on a host line -/
theorem mem_visit {groups : Groups} {fuel : ℕ} {stack seen : List String} {entry : HostLine}
    (h : entry ∈ visit groups fuel stack seen) : ∃ group, (group, entry) ∈ groups.hosts := by
  induction fuel generalizing stack seen with
  | zero => cases h
  | succ fuel ih =>
    cases stack with
    | nil => cases h
    | cons name stack =>
      rw [visit] at h
      split_ifs at h
      · exact ih h
      · rcases List.mem_append.1 h with h | h
        · obtain ⟨⟨group, entry'⟩, hp, rfl⟩ := List.mem_map.1 h
          exact ⟨group, (List.mem_filter.1 hp).1⟩
        · exact ih h

/-! ## Nodes -/

theorem mem_fold_nodes {cluster : String} {entries : List (HostLine × NodeRole)} {nodes : List Node} {n : Node}
    (h : n ∈ entries.foldl (fun nodes (entry, role) =>
      if nodes.any (fun n => n.host == entry.host && n.role == role) then nodes
      else nodes ++ [⟨entry.host, role, cluster, entry.vars⟩]) nodes) :
    n ∈ nodes ∨ ∃ entry role, (entry, role) ∈ entries ∧ n.host = entry.host ∧ n.role = role := by
  induction entries generalizing nodes with
  | nil => exact .inl h
  | cons e rest ih =>
    rcases ih h with h | ⟨entry, role, hmem, hn⟩
    · dsimp only at h
      split_ifs at h
      · exact .inl h
      · rcases List.mem_append.1 h with h | h
        · exact .inl h
        · rw [List.mem_singleton.1 h]
          exact .inr ⟨e.1, e.2, List.mem_cons_self, rfl, rfl⟩
    · exact .inr ⟨entry, role, List.mem_cons_of_mem _ hmem, hn⟩

/-- a node of an inventory is one of its host lines -/
theorem mem_listNodes {cluster : String} {groups : Groups} {n : Node} (h : n ∈ listNodes cluster groups) :
    ∃ group entry, (group, entry) ∈ groups.hosts ∧ n.host = entry.host := by
  rcases mem_fold_nodes h with h | ⟨entry, role, hmem, hhost, -⟩
  · cases h
  · obtain ⟨⟨name, role'⟩, -, hentry⟩ := List.mem_flatMap.1 hmem
    obtain ⟨entry', hentry', heq⟩ := List.mem_map.1 hentry
    obtain ⟨rfl, -⟩ := Prod.mk.inj heq
    obtain ⟨group, hgroup⟩ := mem_visit hentry'
    exact ⟨group, entry', hgroup, hhost⟩

/-- a host's name is not empty and made of host characters -/
def IsHost (host : String) : Prop := host ≠ "" ∧ ∀ c ∈ host.toList, isHostChar c = true

theorem hostLine_isHost {line : List Char} {entry : HostLine} (h : hostLine line = some entry) : IsHost entry.host := by
  unfold hostLine at h
  dsimp only at h
  split_ifs at h with hempty
  obtain rfl := Option.some.inj h
  refine ⟨fun heq => hempty ?_, fun c hc => ?_⟩
  · simpa using congrArg String.toList heq
  · rw [String.toList_ofList] at hc
    exact List.mem_takeWhile_imp hc

theorem readLines_isHost (py : Letters) (text : String) : ∀ p ∈ (readLines py text).hosts, IsHost p.2.host := by
  have main : ∀ (lines : List (List Char)) (state : Header × Groups), (∀ p ∈ state.2.hosts, IsHost p.2.host) →
      ∀ p ∈ (lines.foldl (fun (header, groups) raw => readLine py header groups raw) state).2.hosts, IsHost p.2.host := by
    intro lines
    induction lines with
    | nil => exact fun _ h => h
    | cons raw rest ih =>
      intro state hstate
      refine ih _ ?_
      obtain ⟨header, groups⟩ := state
      simp only [readLine]
      split_ifs with hblank
      · exact hstate
      · split
        · exact hstate
        · split
          · exact hstate
          · split_ifs
            · exact hstate
            · exact hstate
            · split
              · exact hstate
              · rename_i entry hentry
                intro p hp
                rcases List.mem_append.1 hp with hp | hp
                · exact hstate p hp
                · rw [List.mem_singleton.1 hp]
                  exact hostLine_isHost hentry
  exact main _ _ fun p hp => by cases hp

/-- **The nodes of an inventory have host names.** -/
theorem parseInventory_isHost {py : Letters} {text cluster : String} {n : Node} (h : n ∈ parseInventory py text cluster) :
    IsHost n.host := by
  obtain ⟨group, entry, hmem, hhost⟩ := mem_listNodes h
  rw [hhost]
  exact readLines_isHost py text (group, entry) hmem

end TrinoManagement.Inventory
