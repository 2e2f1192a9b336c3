/-
Role members: the nodes of an inventory are, for each role, the hosts of the groups that its group names reach through
`:children`, each once, in whatever order the sections stand.

"A node with the wrong role attached is worse than a node that is missing". An inventory is a list of sections here, each with
the lines under its header; `parse_inventory` reads it line by line and follows `:children` with a set of the groups seen.
- `IsHeader`, `NamesHost`: what a header and a host line are. `sectionOf_iff`, `hostLine_iff`: they are read as such;
  `section_headed`: so a section is opened by a header, and its lines are none.
- `readLines_sections`: what the lines say is what their sections say.
- `mem_collect_iff`: a walk finds the hosts of the groups that are reached, cycles or not.
- `role_members`: the property, with the end of the walk.
-/
import Mathlib.Tactic
import TrinoManagement.Config.Inventory

namespace TrinoManagement.Inventory

open TrinoManagement.Text

/-! ## Headers and host lines -/

section Lines

variable (py : Letters)

/-- `[group]` is over host lines, `[group:kind]` over lines of that kind. The name of a group has neither colon nor bracket,
and a kind is a word. -/
inductive IsHeader : List Char → String → String → Prop where
  | hosts {name : List Char} (hne : name ≠ []) (hname : ':' ∉ name ∧ ']' ∉ name) :
    IsHeader ('[' :: (name ++ [']'])) (py.lower (String.ofList (stripChars name))) "hosts"
  | kind {name word : List Char} (hne : name ≠ []) (hname : ':' ∉ name ∧ ']' ∉ name) (hword : stripChars word ≠ [])
    (hletters : ∀ c ∈ stripChars word, py.isWord c = true) :
    IsHeader ('[' :: (name ++ ':' :: word ++ [']'])) (py.lower (String.ofList (stripChars name)))
      (py.lower (String.ofList (stripChars word)))

/-- a host line begins with a name of host characters, as far as they go -/
structure NamesHost (line : List Char) (host : String) : Prop where
  named : host ≠ ""
  chars : ∀ c ∈ host.toList, isHostChar c = true
  whole : ∃ rest, line = host.toList ++ rest ∧ ∀ c ∈ rest.head?, isHostChar c = false

variable {py}

/-- **Host lines.** What is read of a line is the host it names. -/
theorem hostLine_iff {line : List Char} {host : String} :
    (hostLine line).map HostLine.host = some host ↔ NamesHost line host := by
  unfold hostLine
  dsimp only
  constructor
  · intro h
    split_ifs at h with hnil
    · cases h
    · rw [Option.map_some, Option.some.injEq] at h
      subst h
      refine ⟨?_, ?_, line.dropWhile isHostChar, ?_, ?_⟩
      · rwa [Ne, String.ofList_eq_empty_iff]
      · rw [String.toList_ofList]
        exact fun c hc => List.mem_takeWhile_imp hc
      · rw [String.toList_ofList, List.takeWhile_append_dropWhile]
      · intro c hc
        have hstop := List.head?_dropWhile_not isHostChar line
        rw [hc] at hstop
        simpa using hstop
  · intro h
    obtain ⟨hnamed, hchars, rest, rfl, hrest⟩ := h
    have htake : (host.toList ++ rest).takeWhile isHostChar = host.toList := by
      rw [List.takeWhile_append_of_pos hchars]
      cases rest with
      | nil => rw [List.takeWhile_nil, List.append_nil]
      | cons c rest => rw [List.takeWhile_cons_of_neg (by simp [hrest c rfl]), List.append_nil]
    rw [htake, if_neg (by simpa using hnamed)]
    simp

/-- a line in brackets is taken for a header -/
theorem shape_bracketed {inner : List Char} (hne : inner ≠ []) :
    ¬(('[' :: (inner ++ [']'])).head? ≠ some '[' ∨ ('[' :: (inner ++ [']'])).getLast? ≠ some ']' ∨
      ('[' :: (inner ++ [']'])).length < 3) := by
  have hlast : ('[' :: (inner ++ [']'])).getLast? = some ']' := List.getLast?_concat (l := '[' :: inner)
  have hpos := List.length_pos_of_ne_nil hne
  rintro (hhead | hlast' | hlength)
  · exact hhead rfl
  · exact hlast' hlast
  · simp only [List.length_cons, List.length_append, List.length_nil] at hlength
    omega

theorem inner_bracketed (inner : List Char) : ('[' :: (inner ++ [']'])).tail.dropLast = inner := by simp

/-- and no other -/
theorem bracketed_of_shape {line : List Char}
    (h : ¬(line.head? ≠ some '[' ∨ line.getLast? ≠ some ']' ∨ line.length < 3)) :
    ∃ inner, inner ≠ [] ∧ line = '[' :: (inner ++ [']']) := by
  simp only [not_or, not_not, not_lt] at h
  obtain ⟨hhead, hlast, hlength⟩ := h
  obtain ⟨front, rfl⟩ := List.getLast?_eq_some_iff.1 hlast
  cases front with
  | nil => simp at hlength
  | cons c inner =>
    obtain rfl := Option.some.inj hhead
    refine ⟨inner, ?_, rfl⟩
    rintro rfl
    simp at hlength

/-- **Headers.** A line opens a section exactly if it is a header. -/
theorem sectionOf_iff {line : List Char} {group kind : String} :
    sectionOf py line = some (group, kind) ↔ IsHeader py line group kind := by
  have hcolon : ∀ {name : List Char}, ':' ∉ name → ∀ c ∈ name, (c != ':') = true := by
    intro name hname c hc
    exact bne_iff_ne.2 fun heq => hname (heq ▸ hc)
  unfold sectionOf
  constructor
  · intro h
    split_ifs at h with hshape
    obtain ⟨inner, hne, rfl⟩ := bracketed_of_shape hshape
    rw [inner_bracketed] at h
    dsimp only at h
    split_ifs at h with hname
    rw [not_or] at hname
    have hsplit := List.takeWhile_append_dropWhile (p := (· != ':')) (l := inner)
    have hfree : ':' ∉ inner.takeWhile (· != ':') := fun hmem => by simpa using List.mem_takeWhile_imp hmem
    have hstop := List.head?_dropWhile_not (· != ':') inner
    generalize inner.takeWhile (· != ':') = name at h hname hsplit hfree
    generalize inner.dropWhile (· != ':') = after at h hsplit hstop
    subst hsplit
    cases after with
    | nil =>
      obtain ⟨rfl, rfl⟩ := Prod.mk.inj (Option.some.inj h)
      rw [List.append_nil]
      exact .hosts hname.1 ⟨hfree, hname.2⟩
    | cons c word =>
      dsimp only at h
      split_ifs at h with hword
      obtain ⟨rfl, rfl⟩ := Prod.mk.inj (Option.some.inj h)
      obtain rfl : c = ':' := by simpa using hstop
      simp only [not_or, List.any_eq_true, not_exists, not_and, Bool.not_eq_true', Bool.not_eq_false] at hword
      exact .kind hname.1 ⟨hfree, hname.2⟩ hword.1 hword.2
  · intro h
    cases h with
    | @hosts name hne hname =>
      rw [if_neg (shape_bracketed hne), inner_bracketed]
      dsimp only
      rw [List.takeWhile_eq_self_iff.2 (hcolon hname.1), List.dropWhile_eq_nil_iff.2 (hcolon hname.1)]
      simp [hne, hname.2]
    | @kind name word hne hname hword hletters =>
      rw [if_neg (shape_bracketed (by simp)), inner_bracketed]
      dsimp only
      rw [List.takeWhile_append_of_pos (hcolon hname.1), List.dropWhile_append_of_pos (hcolon hname.1)]
      simpa [hne, hname.2, hword] using hletters

end Lines

/-! ## Sections -/

/-- a header's group and kind, and the lines under it without comments and blanks -/
structure Section where
  group : String
  kind : String
  lines : List (List Char)
deriving DecidableEq, Repr

variable (py : Letters)

/-- the lines before the first header, and the sections -/
def cut : List (List Char) → List (List Char) × List Section
  | [] => ([], [])
  | raw :: rest =>
    let line := uncommented raw
    if line = [] then cut rest
    else
      match sectionOf py line with
      | some (group, kind) => ([], ⟨group, kind, (cut rest).1⟩ :: (cut rest).2)
      | none => (line :: (cut rest).1, (cut rest).2)

def sections (text : String) : List Section := (cut py (splitLines text.toList)).2

section Headers

variable {py} {raw line : List Char} {raws : List (List Char)} {s : Section}

/-- a line of the text that is no header -/
def Plain (py : Letters) (raws : List (List Char)) (line : List Char) : Prop :=
  line ∈ raws.map uncommented ∧ ∀ group kind, ¬IsHeader py line group kind

/-- opened by a header of its group and kind, over lines that are none -/
structure Headed (py : Letters) (raws : List (List Char)) (s : Section) : Prop where
  opened : ∃ header ∈ raws.map uncommented, IsHeader py header s.group s.kind
  lines : ∀ line ∈ s.lines, Plain py raws line

theorem Plain.cons (h : Plain py raws line) : Plain py (raw :: raws) line := ⟨List.mem_cons_of_mem _ h.1, h.2⟩

theorem Headed.cons (h : Headed py raws s) : Headed py (raw :: raws) s := by
  obtain ⟨⟨header, hheader, his⟩, hlines⟩ := h
  exact ⟨⟨header, List.mem_cons_of_mem _ hheader, his⟩, fun line hline => (hlines line hline).cons⟩

theorem cut_headed (raws : List (List Char)) :
    (∀ line ∈ (cut py raws).1, Plain py raws line) ∧ ∀ s ∈ (cut py raws).2, Headed py raws s := by
  induction raws with
  | nil => simp [cut]
  | cons raw rest ih =>
    have hlines : ∀ line ∈ (cut py rest).1, Plain py (raw :: rest) line := fun line hline => (ih.1 line hline).cons
    have hsections : ∀ s ∈ (cut py rest).2, Headed py (raw :: rest) s := fun s hs => (ih.2 s hs).cons
    rw [cut]
    split_ifs
    · exact ⟨hlines, hsections⟩
    · cases hsection : sectionOf py (uncommented raw) with
      | none =>
        refine ⟨List.forall_mem_cons.2 ⟨⟨List.mem_cons_self, fun group kind hheader => ?_⟩, hlines⟩, hsections⟩
        rw [sectionOf_iff.2 hheader] at hsection
        cases hsection
      | some header =>
        refine ⟨List.forall_mem_nil _, List.forall_mem_cons.2 ⟨⟨?_, hlines⟩, hsections⟩⟩
        exact ⟨_, List.mem_cons_self, sectionOf_iff.1 hsection⟩

/-- **A section** of a text is opened by a header, and none of its lines is one. -/
theorem section_headed {text : String} (hs : s ∈ sections py text) : Headed py (splitLines text.toList) s :=
  (cut_headed _).2 s hs

end Headers

example : sections ⟨id, Char.isAlpha⟩ "[worker:children] # by site\neast\n\n[ east ]\nw1 ansible_host=10.0.0.1\n" =
    [⟨"worker", "children", ["east".toList]⟩, ⟨"east", "hosts", ["w1 ansible_host=10.0.0.1".toList]⟩] := by decide +kernel

/-- the host lines of a section -/
def Section.hosts (s : Section) : List (String × HostLine) :=
  if s.kind = "hosts" then s.lines.filterMap fun line => (hostLine line).map fun entry => (s.group, entry) else []

/-- the groups that a section pulls in -/
def Section.children (s : Section) : List (String × String) :=
  if s.kind = "children" then s.lines.map fun line => (s.group, py.lower (strip (String.ofList line))) else []

section Reading

/-- groups with what the section says added -/
def Groups.add (groups : Groups) (s : Section) : Groups :=
  ⟨groups.hosts ++ s.hosts, groups.children ++ s.children py⟩

theorem hosts_cons (group kind : String) (line : List Char) (lines : List (List Char)) :
    Section.hosts ⟨group, kind, line :: lines⟩ = Section.hosts ⟨group, kind, [line]⟩ ++ Section.hosts ⟨group, kind, lines⟩ := by
  unfold Section.hosts
  dsimp only
  split_ifs
  · rw [← List.filterMap_append, List.singleton_append]
  · rfl

theorem children_cons (group kind : String) (line : List Char) (lines : List (List Char)) :
    Section.children py ⟨group, kind, line :: lines⟩ =
      Section.children py ⟨group, kind, [line]⟩ ++ Section.children py ⟨group, kind, lines⟩ := by
  unfold Section.children
  dsimp only
  split_ifs
  · rw [← List.map_append, List.singleton_append]
  · rfl

theorem readLine_blank {header : Header} {groups : Groups} {raw : List Char} (h : uncommented raw = []) :
    readLine py header groups raw = (header, groups) := by
  unfold readLine
  exact if_pos h

theorem readLine_opened {header : Header} {groups : Groups} {raw : List Char} {opened : String × String}
    (hline : uncommented raw ≠ []) (hsection : sectionOf py (uncommented raw) = some opened) :
    readLine py header groups raw = (some opened, groups) := by
  unfold readLine
  simp only [if_neg hline, hsection]

/-- a line under a header says what a section of that line says -/
theorem readLine_under {raw : List Char} (hline : uncommented raw ≠ []) (hnone : sectionOf py (uncommented raw) = none)
    (group kind : String) (groups : Groups) : readLine py (some (group, kind)) groups raw =
      (some (group, kind), groups.add py ⟨group, kind, [uncommented raw]⟩) := by
  rw [readLine]
  simp only [if_neg hline, hnone]
  unfold Groups.add Section.hosts Section.children
  by_cases hchildren : kind = "children"
  · subst hchildren
    simp
  · by_cases hhosts : kind = "hosts"
    · subst hhosts
      cases hentry : hostLine (uncommented raw) <;> simp [hentry]
    · simp [hchildren, hhosts]

/-- what lines say after a header and groups -/
def readFrom (header : Header) (groups : Groups) : List (List Char) → Groups
  | [] => groups
  | raw :: rest => readFrom (readLine py header groups raw).1 (readLine py header groups raw).2 rest

theorem foldl_eq_readFrom (lines : List (List Char)) (state : Header × Groups) :
    (lines.foldl (fun (header, groups) raw => readLine py header groups raw) state).2 = readFrom py state.1 state.2 lines := by
  induction lines generalizing state with
  | nil => rfl
  | cons raw rest ih => exact ih _

def Groups.addAll (groups : Groups) (secs : List Section) : Groups :=
  ⟨groups.hosts ++ secs.flatMap Section.hosts, groups.children ++ secs.flatMap (Section.children py)⟩

theorem readFrom_under (lines : List (List Char)) (group kind : String) (groups : Groups) :
    readFrom py (some (group, kind)) groups lines = groups.addAll py (⟨group, kind, (cut py lines).1⟩ :: (cut py lines).2) := by
  induction lines generalizing group kind groups with
  | nil => simp [readFrom, cut, Groups.addAll, Section.hosts, Section.children]
  | cons raw rest ih =>
    rw [readFrom, cut]
    by_cases hblank : uncommented raw = []
    · rw [readLine_blank py hblank, if_pos hblank]
      exact ih group kind groups
    · rw [if_neg hblank]
      cases hsection : sectionOf py (uncommented raw) with
      | some opened =>
        rw [readLine_opened py hblank hsection, ih]
        simp [Groups.addAll, Section.hosts, Section.children]
      | none =>
        rw [readLine_under py hblank hsection, ih]
        simp only [Groups.addAll, Groups.add, List.flatMap_cons, List.append_assoc]
        rw [hosts_cons group kind (uncommented raw) (cut py rest).1, children_cons py group kind (uncommented raw) (cut py rest).1,
          List.append_assoc, List.append_assoc]

/-- **What the lines say** is what their sections say. -/
theorem readLines_sections (text : String) : readLines py text = Groups.addAll py ⟨[], []⟩ (sections py text) := by
  have main : ∀ (lines : List (List Char)) (groups : Groups), readFrom py none groups lines = groups.addAll py (cut py lines).2 := by
    intro lines
    induction lines with
    | nil => simp [readFrom, cut, Groups.addAll]
    | cons raw rest ih =>
      intro groups
      rw [readFrom, cut]
      by_cases hblank : uncommented raw = []
      · rw [readLine_blank py hblank, if_pos hblank]
        exact ih groups
      · rw [if_neg hblank]
        cases hsection : sectionOf py (uncommented raw) with
        | some opened =>
          rw [readLine_opened py hblank hsection, readFrom_under]
        | none =>
          have hread : readLine py none groups raw = (none, groups) := by
            rw [readLine]
            simp only [if_neg hblank, hsection]
          rw [hread, ih]
  rw [readLines, foldl_eq_readFrom, main]
  rfl

end Reading

/-! ## Membership -/

section Members

variable {py} {secs secs' : List Section} {role : NodeRole} {host name : String}

/-- a line of a `:children` section of the group names the other -/
def ChildOf (secs : List Section) (g g' : String) : Prop :=
  ∃ s ∈ secs, s.group = g ∧ s.kind = "children" ∧ ∃ line ∈ s.lines, py.lower (strip (String.ofList line)) = g'

/-- a line of a section of the group names the host -/
def HostOf (secs : List Section) (g host : String) : Prop :=
  ∃ s ∈ secs, s.group = g ∧ s.kind = "hosts" ∧ ∃ line ∈ s.lines, NamesHost line host

/-- a host of a group that one of the role's group names reaches -/
def Member (py : Letters) (secs : List Section) (role : NodeRole) (host : String) : Prop :=
  ∃ name, (name, role) ∈ roleGroups ∧ ∃ g, Relation.ReflTransGen (@ChildOf py secs) name g ∧ HostOf secs g host

theorem edge_iff {g g' : String} : Walk.Edge (Groups.addAll py ⟨[], []⟩ secs).children g g' ↔ @ChildOf py secs g g' := by
  change (g, g') ∈ [] ++ secs.flatMap (Section.children py) ↔ _
  rw [List.nil_append, List.mem_flatMap]
  refine exists_congr fun s => and_congr_right fun _ => ?_
  unfold Section.children
  split_ifs with hkind
  · simp only [List.mem_map, Prod.mk.injEq, hkind, true_and]
    constructor
    · rintro ⟨line, hline, rfl, rfl⟩
      exact ⟨rfl, line, hline, rfl⟩
    · rintro ⟨rfl, line, hline, rfl⟩
      exact ⟨line, hline, rfl, rfl⟩
  · simp [hkind]

theorem hosts_iff {g : String} : (∃ entry, (g, entry) ∈ (Groups.addAll py ⟨[], []⟩ secs).hosts ∧ entry.host = host) ↔
    HostOf secs g host := by
  change (∃ entry, (g, entry) ∈ [] ++ secs.flatMap Section.hosts ∧ entry.host = host) ↔ _
  rw [List.nil_append]
  constructor
  · rintro ⟨entry, hmem, rfl⟩
    obtain ⟨s, hs, hmem⟩ := List.mem_flatMap.1 hmem
    unfold Section.hosts at hmem
    split_ifs at hmem with hkind
    · obtain ⟨line, hline, hentry⟩ := List.mem_filterMap.1 hmem
      obtain ⟨entry', hentry', heq⟩ := Option.map_eq_some_iff.1 hentry
      obtain ⟨rfl, rfl⟩ := Prod.mk.inj heq
      exact ⟨s, hs, rfl, hkind, line, hline, hostLine_iff.1 (by rw [hentry', Option.map_some])⟩
    · cases hmem
  · rintro ⟨s, hs, rfl, hkind, line, hline, hhost⟩
    obtain ⟨entry, hentry, rfl⟩ := Option.map_eq_some_iff.1 (hostLine_iff.2 hhost)
    refine ⟨entry, List.mem_flatMap.2 ⟨s, hs, ?_⟩, rfl⟩
    rw [Section.hosts, if_pos hkind]
    exact List.mem_filterMap.2 ⟨line, hline, by rw [hentry, Option.map_some]⟩

/-- **A walk finds** the hosts of the groups that are reached. -/
theorem mem_collect_iff {groups : Groups} {entry : HostLine} : entry ∈ collect groups name ↔
    ∃ g, Relation.ReflTransGen (Walk.Edge groups.children) name g ∧ (g, entry) ∈ groups.hosts := by
  have hleft : Walk.left groups.children [name] [] ≤ groups.children.length + 1 := by
    simp [Walk.left]
    omega
  rw [collect, visit_eq_walk, List.mem_flatMap]
  refine exists_congr fun g => ?_
  rw [Walk.mem_walk_iff hleft]
  simp

/-- which entries become nodes: each host once a role -/
theorem fold_nodes {cluster : String} (entries : List (HostLine × NodeRole)) (nodes : List Node)
    (hnodes : (nodes.map fun n => (n.host, n.role)).Nodup) :
    let result := entries.foldl (fun nodes (entry, role) =>
      if nodes.any (fun n => n.host == entry.host && n.role == role) then nodes
      else nodes ++ [⟨entry.host, role, cluster, entry.vars⟩]) nodes
    (result.map fun n => (n.host, n.role)).Nodup ∧ ∀ key, key ∈ result.map (fun n => (n.host, n.role)) ↔
      key ∈ nodes.map (fun n => (n.host, n.role)) ∨ key ∈ entries.map fun e => (e.1.host, e.2) := by
  induction entries generalizing nodes with
  | nil => exact ⟨hnodes, fun key => by simp⟩
  | cons e rest ih =>
    obtain ⟨entry, role⟩ := e
    rw [List.foldl_cons]
    have hany : nodes.any (fun n => n.host == entry.host && n.role == role) = true ↔
        (entry.host, role) ∈ nodes.map fun n => (n.host, n.role) := by
      simp [List.any_eq_true]
    dsimp only
    split_ifs with hseen
    · obtain ⟨hnodup, hmem⟩ := ih nodes hnodes
      refine ⟨hnodup, fun key => ?_⟩
      rw [hmem, List.map_cons, List.mem_cons]
      constructor
      · rintro (h | h)
        · exact .inl h
        · exact .inr (.inr h)
      · rintro (h | rfl | h)
        · exact .inl h
        · exact .inl (hany.1 hseen)
        · exact .inr h
    · have hnew : ((nodes ++ [(⟨entry.host, role, cluster, entry.vars⟩ : Node)]).map fun n => (n.host, n.role)).Nodup := by
        rw [List.map_append, List.map_singleton]
        refine hnodes.append (List.nodup_singleton _) ?_
        rw [List.disjoint_singleton]
        exact fun hmem => hseen (hany.2 hmem)
      obtain ⟨hnodup, hmem⟩ := ih _ hnew
      refine ⟨hnodup, fun key => ?_⟩
      rw [hmem, List.map_append, List.map_singleton, List.mem_append, List.mem_singleton, List.map_cons, List.mem_cons]
      exact or_assoc

theorem member_iff {text cluster : String} : (host, role) ∈ (parseInventory py text cluster).map (fun n => (n.host, n.role)) ↔
    Member py (sections py text) role host := by
  rw [parseInventory, listNodes, (fold_nodes _ [] List.nodup_nil).2, List.map_nil, readLines_sections]
  simp only [List.not_mem_nil, false_or, List.map_flatMap, List.map_map]
  rw [List.mem_flatMap]
  constructor
  · rintro ⟨⟨name, role'⟩, hname, hmem⟩
    obtain ⟨entry, hentry, hkey⟩ := List.mem_map.1 hmem
    obtain ⟨hhost, rfl⟩ := Prod.mk.inj hkey
    obtain ⟨g, hreach, hg⟩ := mem_collect_iff.1 hentry
    refine ⟨name, hname, g, ?_, hosts_iff.1 ⟨entry, hg, hhost⟩⟩
    exact Relation.ReflTransGen.mono (fun _ _ hedge => edge_iff.1 hedge) _ _ hreach
  · rintro ⟨name, hname, g, hreach, hhost⟩
    obtain ⟨entry, hg, rfl⟩ := (@hosts_iff py _ _ _).2 hhost
    refine ⟨(name, role), hname, List.mem_map.2 ⟨entry, mem_collect_iff.2 ⟨g, ?_, hg⟩, rfl⟩⟩
    exact Relation.ReflTransGen.mono (fun _ _ hedge => edge_iff.2 hedge) _ _ hreach

/-- the order of the sections is nothing to membership -/
theorem member_perm (h : secs.Perm secs') : Member py secs role host ↔ Member py secs' role host := by
  have hchild : @ChildOf py secs = @ChildOf py secs' := by
    funext g g'
    exact propext (exists_congr fun s => and_congr_left' h.mem_iff)
  have hhost : ∀ g, HostOf secs g host ↔ HostOf secs' g host := fun g =>
    exists_congr fun s => and_congr_left' h.mem_iff
  unfold Member
  simp only [hchild, hhost]

end Members

/-- what the nodes of an inventory have to do with its text -/
structure RoleMembers (py : Letters) (text cluster : String) : Prop where
  /-- each host once a role -/
  once : ((parseInventory py text cluster).map fun n => (n.host, n.role)).Nodup
  /-- exactly the hosts of the groups that a role's names reach -/
  members : ∀ host role,
    (host, role) ∈ (parseInventory py text cluster).map (fun n => (n.host, n.role)) ↔ Member py (sections py text) role host
  /-- every walk ends: more steps find nothing more -/
  ends : ∀ name more, visit (readLines py text) ((readLines py text).children.length + 1 + more) [name] [] =
    collect (readLines py text) name
  /-- sections may stand in any order -/
  anyOrder : ∀ text', (sections py text').Perm (sections py text) → ∀ host role,
    (host, role) ∈ (parseInventory py text' cluster).map (fun n => (n.host, n.role)) ↔
      (host, role) ∈ (parseInventory py text cluster).map fun n => (n.host, n.role)

/-- **Role members.** -/
theorem role_members (py : Letters) (text cluster : String) : RoleMembers py text cluster where
  once := by
    rw [parseInventory, listNodes]
    exact (fold_nodes _ [] List.nodup_nil).1
  members := fun _ _ => member_iff
  ends := collect_enough (readLines py text)
  anyOrder := by
    intro text' hperm host role
    rw [member_iff, member_iff, member_perm hperm]

end TrinoManagement.Inventory
