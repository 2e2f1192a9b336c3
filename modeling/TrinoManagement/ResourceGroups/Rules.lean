/-
What may be saved into the resource group tables, `tms/ops/resource_group_rules.py`. The rules look at a whole tree; a
finding either blocks the save or is a warning.

- `validate`, `blocking`.
- `not_blank_of_allowed`, `unique_of_allowed`, `target_of_allowed`: in a tree without blocking findings every group has a
  name that is not blank and a path of its own, and every selector points at one of them.
-/
import Mathlib.Data.List.Sort
import Mathlib.Tactic
import TrinoManagement.Core.Pattern
import TrinoManagement.Core.Text
import TrinoManagement.ResourceGroups.Tree

namespace TrinoManagement.ResourceGroups

open TrinoManagement.Text

/-- what the rules use of Python's library: `repr`, the error of `re.compile`, `{:g}`, and the value of a decimal digit -/
structure Library where
  repr : String → String
  regexError : String → Option String
  general : ℚ → String
  digit : Char → Option ℕ

/-- right for texts of plain ASCII whose matchers are regular expressions -/
def Library.plain : Library where
  repr := fun text => "'" ++ text ++ "'"
  regexError := fun _ => none
  general := fun q => toString q
  digit := fun c => if c.isDigit then some (c.toNat - 48) else none

inductive Level where
  | error | warning
deriving DecidableEq, Repr

structure Finding where
  level : Level
  code : String
  target : String
  message : String
deriving DecidableEq, Repr

def Finding.blocking (f : Finding) : Bool := f.level = .error

def blocking (findings : List Finding) : List Finding := findings.filter Finding.blocking

/-- a list of at most one finding -/
def findIf (c : Prop) [Decidable c] (level : Level) (code target message : String) : List Finding :=
  if c then [⟨level, code, target, message⟩] else []

def maxName : ℕ := 250

def schedulingPolicies : List String := ["fair", "weighted_fair", "weighted", "query_priority"]

/-! ## Sizes, shares and durations -/

section Texts

variable (lib : Library)

/-- `\d+(\.\d+)?` and what follows it -/
def number (text : List Char) : Option (ℚ × List Char) :=
  let isDigit := fun c => (lib.digit c).isSome
  let value := fun digits : List Char => digits.foldl (fun n c => 10 * n + (lib.digit c).getD 0) 0
  let whole := text.takeWhile isDigit
  if whole = [] then none
  else
    match text.dropWhile isDigit with
    | '.' :: rest =>
      let fraction := rest.takeWhile isDigit
      if fraction = [] then some (value whole, '.' :: rest)
      else some (value whole + value fraction / 10 ^ fraction.length, rest.dropWhile isDigit)
    | rest => some (value whole, rest)

/-- the number and the unit of a text that is both, with blanks around them -/
def quantity (text : String) : Option (ℚ × List Char) :=
  (number lib (stripChars text.toList)).map fun r => (r.1, r.2.dropWhile isSpace)

/-- `_DATA_SIZE`, whose units match in any case -/
def isDataSize (text : String) : Bool :=
  match quantity lib text with
  | none => false
  | some (_, rest) => ["b", "kb", "mb", "gb", "tb", "pb"].any fun unit =>
      unit.toList.length = rest.length && (unit.toList.zip rest).all fun p => ignoreCase p.1 p.2

/-- `_DURATION` -/
def isDuration (text : String) : Bool :=
  match quantity lib text with
  | none => false
  | some (_, rest) => String.ofList rest ∈ ["ns", "us", "ms", "s", "m", "h", "d"]

/-- `percentage_of` -/
def percentageOf (text : String) : Option ℚ :=
  match quantity lib text with
  | none => none
  | some (q, rest) => if rest = ['%'] then some q else none

/-- `_is_size` -/
def isSize (text : String) : Bool := isDataSize lib text || (percentageOf lib text).isSome

end Texts

/-- `if value` for a text column -/
def present (value : Option String) : Option String := value.filter fun text => text ≠ ""

/-! ## Groups -/

section Groups

variable (lib : Library)

def GroupView.label (g : GroupView) : String :=
  if g.id ≠ "" then g.id else if g.name ≠ "" then g.name else "(unnamed)"

/-- V1 -/
def checkName (g : GroupView) : List Finding :=
  let name := strip g.name
  if name = "" then [⟨.error, "V1", g.label, "A group needs a name."⟩]
  else findIf (maxName < name.length) .error "V1" g.label
    ("Name is " ++ toString name.length ++ " characters; the column holds " ++ toString maxName ++ ".")

/-- V2 -/
def checkLimit (g : GroupView) (label : String) : Option ℤ → List Finding
  | none => [⟨.error, "V2", g.label, label ++ " is required."⟩]
  | some value => findIf (value ≤ 0) .error "V2" g.label
      (label ++ " is " ++ toString value ++ ". That stops this group entirely; delete the group if that is the intent.")

/-- V3, for a column that must match -/
def checkText (g : GroupView) (ok : String → Bool) (message : String → String) (value : Option String) : List Finding :=
  match present value with
  | none => []
  | some text => findIf (ok text = false) .error "V3" g.label (message text)

/-- the findings of `_check_groups` about one group -/
def checkGroup (g : GroupView) : List Finding :=
  let l := g.limits
  checkName g ++
  checkLimit g "Max queued" l.maxQueued ++
  checkLimit g "Concurrency limit" l.hardConcurrencyLimit ++
  checkText g (isSize lib)
    (fun text => "Memory limit " ++ lib.repr text ++ " is neither a size (100GB) nor a share (80%).") l.softMemoryLimit ++
  checkText g (isDuration lib)
    (fun text => "soft_cpu_limit " ++ lib.repr text ++ " is not a duration (1h, 30m).") l.softCpuLimit ++
  checkText g (isDuration lib)
    (fun text => "hard_cpu_limit " ++ lib.repr text ++ " is not a duration (1h, 30m).") l.hardCpuLimit ++
  findIf ((present l.softCpuLimit).isSome ∧ present l.hardCpuLimit = none) .error "V4" g.label
    "A soft CPU limit needs a hard CPU limit alongside it." ++
  (match present l.schedulingPolicy with
    | none => []
    | some policy => findIf (policy ∉ schedulingPolicies) .error "V5" g.label
        ("Scheduling policy " ++ lib.repr policy ++ " is not one of " ++ ", ".intercalate schedulingPolicies ++ ".")) ++
  (match present l.hardPhysicalDataScanLimit with
    | none => []
    | some scan =>
      if isSize lib scan = false then
        [⟨.error, "V3", g.label, "Scan limit " ++ lib.repr scan ++ " is not a size (10GB)."⟩]
      else
        [⟨.warning, "W3", g.label, "A scan quota does not fail a query when it runs out - new queries queue until the quota period rolls, which can be an hour of this group appearing simply slow."⟩]) ++
  findIf (present l.hardCpuLimit).isSome .warning "W3" g.label
    "A CPU quota does not fail a query when it runs out - new queries queue until the quota period rolls." ++
  findIf (l.jmxExport.getD false = false) .warning "W2" g.label
    "jmxExport is off, so this group never appears on the Workload screen. Intended for per-user groups; a mistake on the rest."

def checkGroups (groups : List GroupView) : List Finding := groups.flatMap (checkGroup lib)

/-! ## Hierarchy -/

/-- V9, path by path in sorted order -/
def checkPaths (groups : List GroupView) : List Finding :=
  let ids := groups.map GroupView.id
  (ids.dedup.insertionSort (· ≤ ·)).flatMap fun id => findIf (1 < ids.count id) .error "V9" id
    (toString (ids.count id) ++
      " groups share this path. Trino's schema has no unique constraint, so duplicates are accepted silently and only one of them is ever used.")

/-- V6 -/
def checkPriorities (groups : List GroupView) : List Finding :=
  (groups.filter fun g => g.limits.schedulingPolicy = some "query_priority").flatMap fun g =>
    groups.flatMap fun other =>
      findIf ((g.id ++ ".").toList <+: other.id.toList ∧ other.limits.schedulingPolicy ≠ some "query_priority")
        .error "V6" other.id (g.id ++ " uses query_priority, so every group beneath it must too.")

/-- `_parent_id` -/
def GroupView.parentId (g : GroupView) : String := ".".intercalate g.path.dropLast

/-- W1, parent by parent in sorted order; `by_id` keeps the last group of a path -/
def checkShares (groups : List GroupView) : List Finding :=
  ((groups.map GroupView.parentId).dedup.insertionSort (· ≤ ·)).flatMap fun parentId =>
    if parentId = "" then []
    else
      let share := (groups.reverse.find? fun g => g.id = parentId).bind fun parent =>
        (present parent.limits.softMemoryLimit).bind (percentageOf lib)
      match share with
      | none => []
      | some parentShare =>
        let children := groups.filter fun g => g.parentId = parentId
        let total := (children.filterMap fun child => (present child.limits.softMemoryLimit).bind (percentageOf lib)).sum
        findIf (parentShare < total) .warning "W1" parentId
          ("Children add up to " ++ lib.general total ++ "% of cluster memory but " ++ parentId ++ " allows " ++
            lib.general parentShare ++ "%. Shares are of the cluster, not of the parent.")

def checkHierarchy (groups : List GroupView) : List Finding :=
  checkPaths groups ++ checkPriorities groups ++ checkShares lib groups

end Groups

/-! ## Selectors -/

section Selectors

variable (lib : Library)

/-- the name of the column -/
def MatcherColumn.key : MatcherColumn → String
  | .userRegex => "user_regex"
  | .userGroupRegex => "user_group_regex"
  | .sourceRegex => "source_regex"
  | .queryType => "query_type"
  | .clientTags => "client_tags"
  | .originalUserRegex => "original_user_regex"
  | .authenticatedUserRegex => "authenticated_user_regex"

/-- `_REGEX_COLUMNS` -/
def regexColumns : List (MatcherColumn × ℕ) :=
  [(.userRegex, 512), (.sourceRegex, 512), (.queryType, 512), (.clientTags, 512), (.originalUserRegex, 512),
    (.authenticatedUserRegex, 512), (.userGroupRegex, 2048)]

/-- `_REGEX_SYNTAX_COLUMNS` -/
def regexSyntaxColumns : List MatcherColumn :=
  [.userRegex, .sourceRegex, .originalUserRegex, .authenticatedUserRegex, .userGroupRegex]

/-- the findings about one selector -/
def checkSelector (groups : List GroupView) (groupProviderConfigured : Bool) (s : SelectorView) : List Finding :=
  let sid := "selector " ++ toString s.id
  findIf (s.target = "" ∨ s.target ∉ groups.map GroupView.id) .error "V8" sid
    "This selector points at a group that does not exist in this environment, so it can never place a query." ++
  (regexColumns.flatMap fun (column, limit) =>
    match s.matchers.lookup column with
    | none => []
    | some value => findIf (limit < value.length) .error "V7" sid
        (column.key ++ " is " ++ toString value.length ++ " characters; the column holds " ++ toString limit ++ ".")) ++
  (regexSyntaxColumns.flatMap fun column =>
    match present (s.matchers.lookup column) with
    | none => []
    | some value =>
      match lib.regexError value with
      | none => []
      | some error => [⟨.error, "V7", sid, column.key ++ " is not a valid regular expression: " ++ error ++ "."⟩]) ++
  findIf ((present (s.matchers.lookup .userGroupRegex)).isSome ∧ groupProviderConfigured = false) .warning "W4" sid
    "user_group_regex only matches when Trino has a group provider (etc/group-provider.properties). Without one the groups it compares against are always empty, so this rule is dead."

def checkSelectors (groups : List GroupView) (selectors : List SelectorView) (groupProviderConfigured : Bool) :
    List Finding :=
  selectors.flatMap (checkSelector lib groups groupProviderConfigured) ++
  findIf (groups ≠ [] ∧ selectors.any SelectorView.catchAll = false) .error "V10" "selectors"
    "No catch-all selector. Every rule here narrows what it matches, so a query matching none of them has nowhere to go - and Trino 477 does not document what it does then." ++
  groups.flatMap fun g =>
    findIf (g.id ∉ selectors.map SelectorView.target ∧ ∀ other ∈ groups, ¬ (g.id ++ ".").toList <+: other.id.toList)
      .warning "W5" g.id "No selector sends anything here, and it has no sub-groups. Nothing will ever run in this group."

/-- `validate` -/
def validate (tree : Tree) (groupProviderConfigured : Bool) : List Finding :=
  checkGroups lib tree.groups ++ checkHierarchy lib tree.groups ++
    checkSelectors lib tree.groups tree.selectors groupProviderConfigured

end Selectors

/-! ## Trees without blocking findings -/

section Allowed

variable {lib : Library} {tree : Tree} {provider : Bool}

/-- nothing in it blocks a save -/
def Allowed (lib : Library) (tree : Tree) (provider : Bool) : Prop := blocking (validate lib tree provider) = []

instance : Decidable (Allowed lib tree provider) := inferInstanceAs (Decidable (blocking (validate lib tree provider) = []))

theorem not_mem_of_allowed (h : Allowed lib tree provider) {f : Finding} (hf : f.level = .error) :
    f ∉ validate lib tree provider := by
  intro hmem
  exact List.filter_eq_nil_iff.1 h f hmem (by simpa [Finding.blocking] using hf)

theorem mem_findIf {c : Prop} [Decidable c] {level : Level} {code target message : String} (h : c) :
    ⟨level, code, target, message⟩ ∈ findIf c level code target message := by
  simp [findIf, h]

theorem not_blank_of_allowed (h : Allowed lib tree provider) {g : GroupView} (hg : g ∈ tree.groups) : strip g.name ≠ "" := by
  intro hblank
  have hfinding : (⟨.error, "V1", g.label, "A group needs a name."⟩ : Finding) ∈ validate lib tree provider := by
    apply List.mem_append_left
    apply List.mem_append_left
    refine List.mem_flatMap.2 ⟨g, hg, ?_⟩
    simp [checkGroup, checkName, hblank]
  exact not_mem_of_allowed h rfl hfinding

theorem unique_of_allowed (h : Allowed lib tree provider) : (tree.groups.map GroupView.id).Nodup := by
  rw [List.nodup_iff_count_le_one]
  intro id
  by_contra htwice
  have hcount : 1 < (tree.groups.map GroupView.id).count id := not_le.1 htwice
  have hmem : id ∈ (tree.groups.map GroupView.id).dedup.insertionSort (· ≤ ·) := by
    rw [List.mem_insertionSort, List.mem_dedup]
    exact List.count_pos_iff.1 (by omega)
  have hfinding : (⟨.error, "V9", id, toString ((tree.groups.map GroupView.id).count id) ++
      " groups share this path. Trino's schema has no unique constraint, so duplicates are accepted silently and only one of them is ever used."⟩ :
      Finding) ∈ validate lib tree provider := by
    apply List.mem_append_left
    apply List.mem_append_right
    apply List.mem_append_left
    apply List.mem_append_left
    exact List.mem_flatMap.2 ⟨id, hmem, mem_findIf hcount⟩
  exact not_mem_of_allowed h rfl hfinding

theorem target_of_allowed (h : Allowed lib tree provider) {s : SelectorView} (hs : s ∈ tree.selectors) :
    s.target ∈ tree.groups.map GroupView.id := by
  by_contra hunknown
  have hfinding : (⟨.error, "V8", "selector " ++ toString s.id,
      "This selector points at a group that does not exist in this environment, so it can never place a query."⟩ : Finding) ∈
      validate lib tree provider := by
    apply List.mem_append_right
    apply List.mem_append_left
    apply List.mem_append_left
    refine List.mem_flatMap.2 ⟨s, hs, ?_⟩
    apply List.mem_append_left
    apply List.mem_append_left
    exact List.mem_append_left _ (mem_findIf (.inr hunknown))
  exact not_mem_of_allowed h rfl hfinding

end Allowed

end TrinoManagement.ResourceGroups
