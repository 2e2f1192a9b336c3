/-
Drift found: whether a scan's findings are the files and properties in which nodes of one role differ, and whether the nodes
agree where nothing but the expected was found.

What a comparison takes of a node is a checksum or a value, and nothing where there is none: a file that is there without a
checksum, as an empty one is, and a property that is null count as absent. And a finding that is marked as expected, of the
file that must differ on every node, is a finding: "a drift screen that is always red is a drift screen nobody reads".
- `mem_findings`: where each finding comes from. `texts_found_iff`: over the texts of properties files.
- `detects_iff`: drift is found iff no role has a file without a checksum, or a null, that nothing but absence stands
  against, and something else is found where the expected is.
- `healthy_disagrees`: two workers that differ in `node.id` only.
-/
import Mathlib.Tactic
import TrinoManagement.Config.Drift

namespace TrinoManagement.Drift

open TrinoManagement.ConfigScan (FileRecord distinct mem_sortedSet perNodeFiles)

variable {β : Type}

/-! ## What nodes differ in -/

/-- whether a node has a file, and the checksum if it has one -/
def fileState (path : String) (n : Node β) : Option (Option String) :=
  (n.files.lookup path).bind fun entry => if entry.present then some entry.sha256 else none

/-- whether a node has a property, and the value unless it is null -/
def propertyState (name : String) (n : Node β) : Option (Option β) := n.properties.lookup name

/-- two nodes of the role that could be read differ -/
def Differ {α : Type} (state : Node β → α) (nodes : List (Node β)) (role : String) : Prop :=
  ∃ n ∈ peersOf nodes role, ∃ m ∈ peersOf nodes role, state n ≠ state m

def Finding.OfFile (f : Finding β) : Prop := f.kind = "missing_file" ∨ f.kind = "file_differs"

def Finding.OfProperty (f : Finding β) : Prop := f.kind = "value_differs"

/-- the findings are what nodes of a role differ in -/
structure Detects (nodes : List (Node β)) (c : Comparison β) : Prop where
  files : ∀ role path, (∃ f ∈ c.findings, f.OfFile ∧ f.role = role ∧ f.subject = path) ↔ Differ (fileState path) nodes role
  properties : ∀ role name,
    (∃ f ∈ c.findings, f.OfProperty ∧ f.role = role ∧ f.subject = name) ↔ Differ (propertyState name) nodes role
  /-- within a role, never across -/
  within : ∀ f ∈ c.findings, f.OfFile ∨ f.OfProperty → ∀ host ∈ f.hosts.keys, ∃ n ∈ peersOf nodes f.role, n.host = host
  agree : c.agree = true ↔ ∀ f ∈ c.findings, f.expected = some true

section States

variable {nodes : List (Node β)} {role : String}

theorem fileOf_eq (path : String) (n : Node β) : fileOf path n = (fileState path n).join := by
  unfold fileOf fileState
  cases n.files.lookup path with
  | none => rfl
  | some entry =>
    rw [Option.bind_some]
    dsimp only
    split_ifs <;> rfl

theorem mem_peersOf {n : Node β} : n ∈ peersOf nodes role ↔ n ∈ nodes ∧ n.read = true ∧ n.role = role := by
  simp [peersOf, and_comm]

/-- a state without a value on one node, none on another, and no value on any -/
def Blind {α : Type} (state : Node β → Option (Option α)) (nodes : List (Node β)) (role : String) : Prop :=
  (∃ n ∈ peersOf nodes role, state n = some none) ∧ (∃ m ∈ peersOf nodes role, state m = none) ∧
    ∀ k ∈ peersOf nodes role, (state k).join = none

theorem differ_of_join {α : Type} {state : Node β → Option (Option α)} (h : Differ (fun n => (state n).join) nodes role) :
    Differ state nodes role := by
  obtain ⟨n, hn, m, hm, hne⟩ := h
  exact ⟨n, hn, m, hm, fun heq => hne (congrArg Option.join heq)⟩

/-- a difference that is not seen in the values -/
theorem blind_iff {α : Type} {state : Node β → Option (Option α)} :
    Blind state nodes role ↔ Differ state nodes role ∧ ¬ Differ (fun n => (state n).join) nodes role := by
  constructor
  · rintro ⟨⟨n, hn, hsome⟩, ⟨m, hm, hnone⟩, hall⟩
    refine ⟨⟨n, hn, m, hm, ?_⟩, ?_⟩
    · rw [hsome, hnone]
      exact Option.some_ne_none none
    · rintro ⟨k, hk, l, hl, hne⟩
      exact hne ((hall k hk).trans (hall l hl).symm)
  · rintro ⟨⟨n, hn, m, hm, hne⟩, hsame⟩
    have hjoin : ∀ k ∈ peersOf nodes role, ∀ l ∈ peersOf nodes role, (state k).join = (state l).join := by
      intro k hk l hl
      by_contra hdiffer
      exact hsame ⟨k, hk, l, hl, hdiffer⟩
    -- two states of one join are a state without a value and no state
    have hcases : (state n = some none ∧ state m = none) ∨ (state n = none ∧ state m = some none) := by
      have heq := hjoin n hn m hm
      cases hstate : state n with
      | none =>
        cases hstate' : state m with
        | none => exact absurd (hstate.trans hstate'.symm) hne
        | some v =>
          rw [hstate, hstate'] at heq
          exact .inr ⟨rfl, congrArg some heq.symm⟩
      | some v =>
        cases hstate' : state m with
        | none =>
          rw [hstate, hstate'] at heq
          exact .inl ⟨congrArg some heq, rfl⟩
        | some w =>
          rw [hstate, hstate'] at heq
          exact absurd (hstate.trans ((congrArg some heq).trans hstate'.symm)) hne
    have hnone : (state n).join = none := by
      rcases hcases with ⟨h, -⟩ | ⟨h, -⟩ <;> rw [h] <;> rfl
    refine ⟨?_, ?_, fun k hk => (hjoin k hk n hn).trans hnone⟩
    · rcases hcases with ⟨h, -⟩ | ⟨-, h⟩
      · exact ⟨n, hn, h⟩
      · exact ⟨m, hm, h⟩
    · rcases hcases with ⟨-, h⟩ | ⟨h, -⟩
      · exact ⟨m, hm, h⟩
      · exact ⟨n, hn, h⟩

end States

/-! ## Where the findings come from -/

section Findings

variable {nodes peers : List (Node β)} {role : String} {f : Finding β}

theorem byHost_eq {α : Type} (hhosts : (peers.map Node.host).Nodup) (value : Node β → α) :
    Dict.ofPairs (peers.map fun n => (n.host, value n)) = peers.map fun n => (n.host, value n) := by
  apply Dict.ofPairs_of_nodup
  rw [List.map_map]
  exact hhosts

/-- fewer than two different values of hosts that are all different -/
theorem distinct_lt_two {α : Type} [DecidableEq α] (hhosts : (peers.map Node.host).Nodup) (value : Node β → α) :
    (distinct (Dict.ofPairs (peers.map fun n => (n.host, value n)))).length < 2 ↔
      ∀ n ∈ peers, ∀ m ∈ peers, value n = value m := by
  have hvalues : (peers.map fun n => (n.host, value n)).map Prod.snd = peers.map value := by
    rw [List.map_map]
    rfl
  rw [distinct, byHost_eq hhosts, hvalues]
  constructor
  · intro hlt n hn m hm
    have hmem : ∀ k ∈ peers, value k ∈ (peers.map value).dedup := fun k hk => List.mem_dedup.2 (List.mem_map_of_mem hk)
    match hvalues : (peers.map value).dedup, hlt with
    | [], _ =>
      have hin := hmem n hn
      rw [hvalues] at hin
      cases hin
    | [v], _ =>
      rw [hvalues] at hmem
      rw [List.mem_singleton.1 (hmem n hn), List.mem_singleton.1 (hmem m hm)]
  · intro hall
    by_contra hge
    obtain ⟨v, w, rest, heq⟩ : ∃ v w rest, (peers.map value).dedup = v :: w :: rest := by
      match hvalues : (peers.map value).dedup with
      | [] => simp [hvalues] at hge
      | [v] => simp [hvalues] at hge
      | v :: w :: rest => exact ⟨v, w, rest, rfl⟩
    have hnodup := List.nodup_dedup (peers.map value)
    rw [heq] at hnodup
    have hv : v ∈ (peers.map value).dedup := heq ▸ List.mem_cons_self
    have hw : w ∈ (peers.map value).dedup := heq ▸ List.mem_cons_of_mem _ List.mem_cons_self
    obtain ⟨n, hn, rfl⟩ := List.mem_map.1 (List.mem_dedup.1 hv)
    obtain ⟨m, hm, rfl⟩ := List.mem_map.1 (List.mem_dedup.1 hw)
    rw [hall n hn m hm] at hnodup
    exact (List.nodup_cons.1 hnodup).1 List.mem_cons_self

/-- a file's finding, and the two peers that differ -/
theorem fileFinding_eq_some (hhosts : (peers.map Node.host).Nodup) {path : String} (h : fileFinding role peers path = some f) :
    (∃ n ∈ peers, ∃ m ∈ peers, fileOf path n ≠ fileOf path m) ∧ f.OfFile ∧ f.role = role ∧ f.subject = path ∧
      f.hosts.keys = peers.map Node.host ∧ f.expected = some (decide (path ∈ perNodeFiles)) := by
  rw [fileFinding] at h
  split_ifs at h with hdistinct
  · rw [distinct_lt_two hhosts] at hdistinct
    push Not at hdistinct
    obtain rfl := Option.some.inj h
    refine ⟨hdistinct, ?_, rfl, rfl, ?_, rfl⟩
    · unfold Finding.OfFile
      dsimp only
      split_ifs
      · exact .inl rfl
      · exact .inr rfl
    · dsimp only
      rw [byHost_eq hhosts, Dict.keys, List.map_map, List.map_map]
      rfl

theorem exists_fileFinding (hhosts : (peers.map Node.host).Nodup) {path : String}
    (h : ∃ n ∈ peers, ∃ m ∈ peers, fileOf path n ≠ fileOf path m) : ∃ f, fileFinding role peers path = some f := by
  rw [fileFinding, if_neg]
  · exact ⟨_, rfl⟩
  · rw [distinct_lt_two hhosts]
    push Not
    exact h

theorem two_le_of_ne {α : Type} {value : Node β → α} {n m : Node β} (hn : n ∈ peers) (hm : m ∈ peers) (hne : value n ≠ value m) :
    ¬ peers.length < 2 := by
  intro hlt
  apply hne
  match peers, hlt with
  | [k], _ => rw [List.mem_singleton.1 hn, List.mem_singleton.1 hm]
  | [], _ => cases hn

theorem not_ofProperty (h : f.OfFile) : ¬ f.OfProperty := by
  unfold Finding.OfFile at h
  unfold Finding.OfProperty
  rcases h with h | h <;> rw [h] <;> decide

theorem nodup_peers (hhosts : (nodes.map Node.host).Nodup) : ((peersOf nodes role).map Node.host).Nodup :=
  hhosts.sublist ((List.filter_sublist.trans List.filter_sublist).map _)

/-- the finding about what could not be read is of no file and of no property -/
theorem unreachableFinding_kind : ¬ (unreachableFinding nodes).OfFile ∧ ¬ (unreachableFinding nodes).OfProperty := by
  unfold Finding.OfFile Finding.OfProperty unreachableFinding
  dsimp only
  decide

variable [DecidableEq β]

theorem propertyFinding_eq_some (hhosts : (peers.map Node.host).Nodup) {name : String}
    (h : propertyFinding role peers name = some f) :
    (∃ n ∈ peers, ∃ m ∈ peers, valueOf name n ≠ valueOf name m) ∧ f.OfProperty ∧ f.role = role ∧ f.subject = name ∧
      f.hosts.keys = peers.map Node.host ∧ f.expected = some false := by
  rw [propertyFinding] at h
  split_ifs at h with hdistinct
  rw [distinct_lt_two hhosts] at hdistinct
  push Not at hdistinct
  obtain rfl := Option.some.inj h
  refine ⟨hdistinct, rfl, rfl, rfl, ?_, rfl⟩
  dsimp only
  rw [byHost_eq hhosts, Dict.keys, List.map_map, List.map_map]
  rfl

theorem exists_propertyFinding (hhosts : (peers.map Node.host).Nodup) {name : String}
    (h : ∃ n ∈ peers, ∃ m ∈ peers, valueOf name n ≠ valueOf name m) : ∃ f, propertyFinding role peers name = some f := by
  rw [propertyFinding, if_neg]
  · exact ⟨_, rfl⟩
  · rw [distinct_lt_two hhosts]
    push Not
    exact h

/-- **Findings.** A file or a property in which the peers of a role differ, or what could not be read. -/
theorem mem_findings (hhosts : (nodes.map Node.host).Nodup) {ignoreMissingNodes : Bool} :
    f ∈ (compare nodes ignoreMissingNodes).findings ↔
      (∃ role path, fileFinding role (peersOf nodes role) path = some f) ∨
      (∃ role name, propertyFinding role (peersOf nodes role) name = some f) ∨
      ((∃ n ∈ nodes, n.read = false) ∧ ignoreMissingNodes = false ∧
        f = unreachableFinding (nodes.filter fun n => !n.read)) := by
  have hpeers : ∀ role, ((peersOf nodes role).map Node.host).Nodup := fun role =>
    hhosts.sublist ((List.filter_sublist.trans List.filter_sublist).map _)
  have hrole : ∀ {n : Node β} {role : String}, n ∈ peersOf nodes role →
      role ∈ ConfigScan.sortedSet ((nodes.filter Node.read).map (·.role)) := by
    intro n role hn
    obtain ⟨hmem, hread, rfl⟩ := mem_peersOf.1 hn
    exact mem_sortedSet.2 (List.mem_map_of_mem (List.mem_filter.2 ⟨hmem, hread⟩))
  rw [compare]
  dsimp only
  rw [List.mem_append, List.mem_flatMap, ← or_assoc]
  refine or_congr ⟨?_, ?_⟩ ?_
  · rintro ⟨role, -, hmem⟩
    split_ifs at hmem
    · cases hmem
    · rcases List.mem_append.1 hmem with hmem | hmem
      · obtain ⟨path, -, hsome⟩ := List.mem_filterMap.1 hmem
        exact .inl ⟨role, path, hsome⟩
      · obtain ⟨name, -, hsome⟩ := List.mem_filterMap.1 hmem
        exact .inr ⟨role, name, hsome⟩
  · rintro (⟨role, path, hsome⟩ | ⟨role, name, hsome⟩)
    · obtain ⟨⟨n, hn, m, hm, hne⟩, -⟩ := fileFinding_eq_some (hpeers role) hsome
      refine ⟨role, hrole hn, ?_⟩
      rw [if_neg (two_le_of_ne hn hm hne)]
      refine List.mem_append_left _ (List.mem_filterMap.2 ⟨path, mem_sortedSet.2 ?_, hsome⟩)
      -- a file that no peer has is the same on all of them
      by_contra habsent
      have hnone : ∀ k ∈ peersOf nodes role, fileOf path k = none := by
        intro k hk
        have hlookup : k.files.lookup path = none := by
          rw [Dict.lookup_eq_none]
          exact fun hkey => habsent (List.mem_flatMap.2 ⟨k, hk, hkey⟩)
        rw [fileOf, hlookup]
      exact hne ((hnone n hn).trans (hnone m hm).symm)
    · obtain ⟨⟨n, hn, m, hm, hne⟩, -⟩ := propertyFinding_eq_some (hpeers role) hsome
      refine ⟨role, hrole hn, ?_⟩
      rw [if_neg (two_le_of_ne hn hm hne)]
      refine List.mem_append_right _ (List.mem_filterMap.2 ⟨name, mem_sortedSet.2 ?_, hsome⟩)
      by_contra habsent
      have hnone : ∀ k ∈ peersOf nodes role, valueOf name k = none := by
        intro k hk
        have hlookup : k.properties.lookup name = none := by
          rw [Dict.lookup_eq_none]
          exact fun hkey => habsent (List.mem_flatMap.2 ⟨k, hk, hkey⟩)
        rw [valueOf, hlookup]
        rfl
      exact hne ((hnone n hn).trans (hnone m hm).symm)
  · have hunread : nodes.filter (fun n => !n.read) ≠ [] ↔ ∃ n ∈ nodes, n.read = false := by
      rw [Ne, List.filter_eq_nil_iff]
      push Not
      simp
    split_ifs with h
    · rw [List.mem_singleton]
      exact ⟨fun heq => ⟨hunread.1 h.1, h.2, heq⟩, fun h' => h'.2.2⟩
    · constructor
      · exact fun hmem => by cases hmem
      · exact fun h' => absurd ⟨hunread.2 h'.1, h'.2.1⟩ h

variable {ignoreMissingNodes : Bool}

theorem file_found_iff (hhosts : (nodes.map Node.host).Nodup) {path : String} :
    (∃ f ∈ (compare nodes ignoreMissingNodes).findings, f.OfFile ∧ f.role = role ∧ f.subject = path) ↔
      Differ (fileOf path) nodes role := by
  constructor
  · rintro ⟨f, hf, hkind, rfl, rfl⟩
    rcases (mem_findings hhosts).1 hf with ⟨role, path, hsome⟩ | ⟨role, name, hsome⟩ | ⟨-, -, rfl⟩
    · obtain ⟨hdiffer, -, hrole, hsubject, -⟩ := fileFinding_eq_some (nodup_peers hhosts) hsome
      rw [hrole, hsubject]
      exact hdiffer
    · exact absurd (propertyFinding_eq_some (nodup_peers hhosts) hsome).2.1 (not_ofProperty hkind)
    · exact absurd hkind unreachableFinding_kind.1
  · intro h
    obtain ⟨f, hsome⟩ := @exists_fileFinding β _ role (nodup_peers hhosts) path h
    obtain ⟨-, hkind, hrole, hsubject, -⟩ := fileFinding_eq_some (nodup_peers hhosts) hsome
    exact ⟨f, (mem_findings hhosts).2 (.inl ⟨role, path, hsome⟩), hkind, hrole, hsubject⟩

theorem property_found_iff (hhosts : (nodes.map Node.host).Nodup) {name : String} :
    (∃ f ∈ (compare nodes ignoreMissingNodes).findings, f.OfProperty ∧ f.role = role ∧ f.subject = name) ↔
      Differ (valueOf name) nodes role := by
  constructor
  · rintro ⟨f, hf, hkind, rfl, rfl⟩
    rcases (mem_findings hhosts).1 hf with ⟨role, path, hsome⟩ | ⟨role, name, hsome⟩ | ⟨-, -, rfl⟩
    · exact absurd hkind (not_ofProperty (fileFinding_eq_some (nodup_peers hhosts) hsome).2.1)
    · obtain ⟨hdiffer, -, hrole, hsubject, -⟩ := propertyFinding_eq_some (nodup_peers hhosts) hsome
      rw [hrole, hsubject]
      exact hdiffer
    · exact absurd hkind unreachableFinding_kind.2
  · intro h
    obtain ⟨f, hsome⟩ := @exists_propertyFinding β _ role _ (nodup_peers hhosts) name h
    obtain ⟨-, hkind, hrole, hsubject, -⟩ := propertyFinding_eq_some (nodup_peers hhosts) hsome
    exact ⟨f, (mem_findings hhosts).2 (.inr (.inl ⟨role, name, hsome⟩)), hkind, hrole, hsubject⟩

/-- **Over texts**: a property is found exactly if two nodes of the role that could be read have different texts for it. -/
theorem texts_found_iff {nodes : List ConfigScan.Node} (hhosts : (nodes.map (·.host)).Nodup) {name : String} :
    (∃ f ∈ (ConfigScan.compare nodes ignoreMissingNodes).findings, f.kind = "value_differs" ∧ f.role = role ∧ f.subject = name) ↔
      ∃ n ∈ nodes, ∃ m ∈ nodes, (n.read = true ∧ n.role = role) ∧ (m.read = true ∧ m.role = role) ∧
        n.properties.lookup name ≠ m.properties.lookup name := by
  have hhosts' : ((nodes.map ofTexts).map Node.host).Nodup := by
    rw [List.map_map]
    exact hhosts
  have hfound := @property_found_iff String (nodes.map ofTexts) role _ ignoreMissingNodes hhosts' name
  rw [← findings_texts]
  constructor
  · rintro ⟨flat, hflat, hkind, hrole, hsubject⟩
    obtain ⟨f, hf, rfl⟩ := List.mem_map.1 hflat
    obtain ⟨n', hn', m', hm', hne⟩ := hfound.1 ⟨f, hf, hkind, hrole, hsubject⟩
    obtain ⟨hn', hnread, hnrole⟩ := mem_peersOf.1 hn'
    obtain ⟨hm', hmread, hmrole⟩ := mem_peersOf.1 hm'
    obtain ⟨n, hn, rfl⟩ := List.mem_map.1 hn'
    obtain ⟨m, hm, rfl⟩ := List.mem_map.1 hm'
    rw [valueOf_ofTexts, valueOf_ofTexts] at hne
    exact ⟨n, hn, m, hm, ⟨hnread, hnrole⟩, ⟨hmread, hmrole⟩, hne⟩
  · rintro ⟨n, hn, m, hm, ⟨hnread, hnrole⟩, ⟨hmread, hmrole⟩, hne⟩
    rw [← valueOf_ofTexts, ← valueOf_ofTexts] at hne
    obtain ⟨f, hf, hkind, hrole, hsubject⟩ := hfound.2
      ⟨_, mem_peersOf.2 ⟨List.mem_map_of_mem hn, hnread, hnrole⟩, _, mem_peersOf.2 ⟨List.mem_map_of_mem hm, hmread, hmrole⟩, hne⟩
    exact ⟨f.flat, List.mem_map_of_mem hf, hkind, hrole, hsubject⟩

/-- a finding is of its role's nodes -/
theorem hosts_within (hhosts : (nodes.map Node.host).Nodup) (hf : f ∈ (compare nodes ignoreMissingNodes).findings)
    (hkind : f.OfFile ∨ f.OfProperty) {host : String} (hhost : host ∈ f.hosts.keys) :
    ∃ n ∈ peersOf nodes f.role, n.host = host := by
  rcases (mem_findings hhosts).1 hf with ⟨role, path, hsome⟩ | ⟨role, name, hsome⟩ | ⟨-, -, rfl⟩
  · obtain ⟨-, -, hrole, -, hkeys, -⟩ := fileFinding_eq_some (nodup_peers hhosts) hsome
    rw [hkeys] at hhost
    rw [hrole]
    exact List.mem_map.1 hhost
  · obtain ⟨-, -, hrole, -, hkeys, -⟩ := propertyFinding_eq_some (nodup_peers hhosts) hsome
    rw [hkeys] at hhost
    rw [hrole]
    exact List.mem_map.1 hhost
  · exact absurd hkind (not_or.2 unreachableFinding_kind)

/-! ## Only what is expected -/

/-- nodes differ in a file that must differ, and nothing else is found -/
def OnlyExpected (nodes : List (Node β)) (ignoreMissingNodes : Bool) : Prop :=
  (∃ role, ∃ path ∈ perNodeFiles, Differ (fileOf path) nodes role) ∧
    (∀ role path, Differ (fileOf path) nodes role → path ∈ perNodeFiles) ∧
    (∀ role name, ¬ Differ (valueOf name) nodes role) ∧ ((∀ n ∈ nodes, n.read = true) ∨ ignoreMissingNodes = true)

omit [DecidableEq β] in
/-- a node that was not read is a finding unless such nodes are ignored -/
theorem not_unread (hread : (∀ n ∈ nodes, n.read = true) ∨ ignoreMissingNodes = true) :
    ¬ ((∃ n ∈ nodes, n.read = false) ∧ ignoreMissingNodes = false) := by
  rintro ⟨⟨n, hn, hunread⟩, hignore⟩
  rcases hread with hread | hread
  · rw [hread n hn] at hunread
    cases hunread
  · rw [hread] at hignore
    cases hignore

theorem onlyExpected_iff (hhosts : (nodes.map Node.host).Nodup) :
    OnlyExpected nodes ignoreMissingNodes ↔ (compare nodes ignoreMissingNodes).findings ≠ [] ∧
      ∀ f ∈ (compare nodes ignoreMissingNodes).findings, f.expected = some true := by
  constructor
  · rintro ⟨⟨role, path, hpath, hdiffer⟩, hfiles, hproperties, hread⟩
    obtain ⟨f, hf, -⟩ := (@file_found_iff β nodes role _ ignoreMissingNodes hhosts path).2 hdiffer
    refine ⟨List.ne_nil_of_mem hf, ?_⟩
    intro f hf
    rcases (mem_findings hhosts).1 hf with ⟨role, path, hsome⟩ | ⟨role, name, hsome⟩ | ⟨hunread, hignore, -⟩
    · obtain ⟨hdiffer, -, -, -, -, hexpected⟩ := fileFinding_eq_some (nodup_peers hhosts) hsome
      rw [hexpected, decide_eq_true (hfiles role path hdiffer)]
    · exact absurd (propertyFinding_eq_some (nodup_peers hhosts) hsome).1 (hproperties role name)
    · exact absurd ⟨hunread, hignore⟩ (not_unread hread)
  · rintro ⟨hsome, hall⟩
    have hfiles : ∀ role path, Differ (fileOf path) nodes role → path ∈ perNodeFiles := by
      intro role path hdiffer
      obtain ⟨f, hsome⟩ := @exists_fileFinding β _ role (nodup_peers hhosts) path hdiffer
      obtain ⟨-, -, -, -, -, hexpected⟩ := fileFinding_eq_some (nodup_peers hhosts) hsome
      have htrue := hall f ((mem_findings hhosts).2 (.inl ⟨role, path, hsome⟩))
      rw [hexpected] at htrue
      exact of_decide_eq_true (Option.some.inj htrue)
    have hproperties : ∀ role name, ¬ Differ (valueOf name) nodes role := by
      intro role name hdiffer
      obtain ⟨f, hsome⟩ := @exists_propertyFinding β _ role _ (nodup_peers hhosts) name hdiffer
      obtain ⟨-, -, -, -, -, hexpected⟩ := propertyFinding_eq_some (nodup_peers hhosts) hsome
      have htrue := hall f ((mem_findings hhosts).2 (.inr (.inl ⟨role, name, hsome⟩)))
      rw [hexpected] at htrue
      cases htrue
    have hread : (∀ n ∈ nodes, n.read = true) ∨ ignoreMissingNodes = true := by
      by_contra hnot
      push Not at hnot
      obtain ⟨⟨n, hn, hunread⟩, hignore⟩ := hnot
      have htrue := hall _ ((mem_findings hhosts).2 (.inr (.inr ⟨⟨n, hn, by simpa using hunread⟩, by simpa using hignore, rfl⟩)))
      cases htrue
    refine ⟨?_, hfiles, hproperties, hread⟩
    obtain ⟨f, hf⟩ := List.exists_mem_of_ne_nil _ hsome
    rcases (mem_findings hhosts).1 hf with ⟨role, path, hsome⟩ | ⟨role, name, hsome⟩ | ⟨hunread, hignore, -⟩
    · have hdiffer := (fileFinding_eq_some (nodup_peers hhosts) hsome).1
      exact ⟨role, path, hfiles role path hdiffer, hdiffer⟩
    · exact absurd (propertyFinding_eq_some (nodup_peers hhosts) hsome).1 (hproperties role name)
    · exact absurd ⟨hunread, hignore⟩ (not_unread hread)

/-- **Drift found.** For nodes of different hosts, the findings are exactly the files and properties in which two nodes of a role
differ, and the nodes agree exactly if nothing unexpected was found, exactly if nothing hides from the comparison and not only
the expected was found. -/
theorem detects_iff (nodes : List (Node β)) (ignoreMissingNodes : Bool) (hhosts : (nodes.map Node.host).Nodup) :
    Detects nodes (compare nodes ignoreMissingNodes) ↔ (∀ role path, ¬ Blind (fileState path) nodes role) ∧
      (∀ role name, ¬ Blind (propertyState name) nodes role) ∧ ¬ OnlyExpected nodes ignoreMissingNodes := by
  have hfileOf : ∀ path, (fun n : Node β => (fileState path n).join) = fileOf path := fun path => funext fun n => (fileOf_eq path n).symm
  have hagree : (compare nodes ignoreMissingNodes).agree = true ↔ (compare nodes ignoreMissingNodes).findings = [] :=
    List.isEmpty_iff
  constructor
  · intro h
    refine ⟨?_, ?_, ?_⟩
    · intro role path hblind
      obtain ⟨hdiffer, hsame⟩ := blind_iff.1 hblind
      rw [hfileOf] at hsame
      exact hsame ((file_found_iff hhosts).1 ((h.files role path).2 hdiffer))
    · intro role name hblind
      obtain ⟨hdiffer, hsame⟩ := blind_iff.1 hblind
      exact hsame ((property_found_iff hhosts).1 ((h.properties role name).2 hdiffer))
    · intro honly
      obtain ⟨hsome, hall⟩ := (onlyExpected_iff hhosts).1 honly
      exact hsome (hagree.1 (h.agree.2 hall))
  · rintro ⟨hfiles, hproperties, honly⟩
    refine ⟨?_, ?_, fun f hf hkind _ hhost => hosts_within hhosts hf hkind hhost, ?_⟩
    · intro role path
      rw [file_found_iff hhosts, ← hfileOf]
      refine ⟨differ_of_join, fun hdiffer => ?_⟩
      by_contra hsame
      exact hfiles role path (blind_iff.2 ⟨hdiffer, hsame⟩)
    · intro role name
      rw [property_found_iff hhosts]
      refine ⟨differ_of_join, fun hdiffer => ?_⟩
      by_contra hsame
      exact hproperties role name (blind_iff.2 ⟨hdiffer, hsame⟩)
    · rw [hagree]
      constructor
      · intro hnone f hf
        rw [hnone] at hf
        cases hf
      · intro hall
        by_contra hsome
        exact honly ((onlyExpected_iff hhosts).2 ⟨hsome, hall⟩)

end Findings

/-! ## Scans -/

/-- a worker with a file, and no property that is read -/
def worker (host path : String) (file : FileRecord) : Node String := ⟨host, "worker", true, none, [(path, file)], [], []⟩

/-- two workers of a healthy cluster: their `node.id` differs -/
def healthy : List (Node String) :=
  [worker "w1" "etc/node.properties" ⟨true, some "aaa", false, none⟩,
    worker "w2" "etc/node.properties" ⟨true, some "bbb", false, none⟩]

/-- an empty file has no content that was collected, and so no checksum; the other worker does not have the file -/
def emptyFile : List (Node String) :=
  [worker "w1" "etc/log.properties" ⟨true, none, false, none⟩, worker "w2" "etc/log.properties" ⟨false, none, false, none⟩]

/-- the healthy cluster does not agree, and the file that one worker lacks is not found -/
theorem healthy_disagrees : ¬ Detects healthy (compare healthy false) ∧ ¬ Detects emptyFile (compare emptyFile false) := by
  constructor
  · intro h
    have hexpected : ∀ f ∈ (compare healthy false).findings, f.expected = some true := by decide
    have hagree := h.agree.2 hexpected
    revert hagree
    decide
  · intro h
    obtain ⟨f, hf, -⟩ := (h.files "worker" "etc/log.properties").2
      ⟨_, List.mem_cons_self, _, List.mem_cons_of_mem _ List.mem_cons_self, by decide⟩
    revert hf
    have hnone : (compare emptyFile false).findings = [] := by decide
    rw [hnone]
    exact List.not_mem_nil

/-- two workers with different ports -/
def ports : List (Node String) :=
  [⟨"w1", "worker", true, none, [], [("http-server.http.port", some "8443")], []⟩,
    ⟨"w2", "worker", true, none, [], [("http-server.http.port", some "8080")], []⟩]

theorem ports_detected : Detects ports (compare ports false) := by
  refine (detects_iff ports false (by decide)).2 ⟨?_, ?_, ?_⟩
  · rintro role path ⟨⟨n, hn, hstate⟩, -⟩
    rcases List.mem_pair.1 (mem_peersOf.1 hn).1 with rfl | rfl <;> cases hstate
  · rintro role name ⟨⟨n, hn, hstate⟩, -⟩
    have hvalue : ∀ v ∈ n.properties.map Prod.snd, v ≠ none := by
      rcases List.mem_pair.1 (mem_peersOf.1 hn).1 with rfl | rfl <;> decide
    exact hvalue none (List.mem_map.2 ⟨_, Dict.mem_of_lookup hstate, rfl⟩) rfl
  · rintro ⟨-, -, hproperties, -⟩
    exact hproperties "worker" "http-server.http.port"
      ⟨_, List.mem_cons_self, _, List.mem_cons_of_mem _ List.mem_cons_self, by decide⟩

end TrinoManagement.Drift
