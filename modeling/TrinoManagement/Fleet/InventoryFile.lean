/-
What `parse_inventory` reads in a file that `render_inventory` wrote.

- `readLines_render`: rows whose names are made of host characters come back as the host lines of the two groups, and
  nothing else does.
- `parseInventory_render`: so the nodes are the rows, the coordinators first.
-/
import Mathlib.Tactic
import TrinoManagement.Fleet.Nodes

namespace TrinoManagement.Nodes

open TrinoManagement.Audit (words)
open TrinoManagement.Inventory
open TrinoManagement.Text

/-! ## Host characters -/

theorem isHostChar_range {c : Char} (h : isHostChar c = true) : 45 ≤ c.toNat ∧ c.toNat ≤ 122 := by
  simp only [isHostChar, Bool.or_eq_true, beq_iff_eq] at h
  rcases h with (((((h | h) | h) | h) | h) | h) | h
  · have hrange := isLower_range h
    omega
  · have hrange := isUpper_range h
    omega
  · have hrange := isDigit_range h
    omega
  · subst h; decide
  · subst h; decide
  · subst h; decide
  · subst h; decide

theorem not_isSpace {c : Char} (h : isHostChar c = true) : isSpace c = false := by
  have hrange := isHostChar_range h
  simp only [isSpace, Bool.or_eq_false_iff, Bool.and_eq_false_iff, decide_eq_false_iff_not, beq_eq_false_iff_ne]
  omega

theorem not_isBreak {c : Char} (h : isHostChar c = true) : isBreak c = false := by
  have hrange := isHostChar_range h
  simp only [isBreak, Bool.or_eq_false_iff, Bool.and_eq_false_iff, decide_eq_false_iff_not, beq_eq_false_iff_ne]
  omega

/-- a test that no character of a literal passes -/
theorem none_of_any {p : Char → Bool} {l : List Char} (h : l.any p = false) : ∀ c ∈ l, p c = false := by
  intro c hc
  exact Bool.eq_false_iff.2 (List.any_eq_false.1 h c hc)

/-- a text that begins and ends with what is not white space -/
theorem stripChars_eq_self {l : List Char} (hhead : ∀ c ∈ l.head?, isSpace c = false)
    (hlast : ∀ c ∈ l.getLast?, isSpace c = false) : stripChars l = l := by
  have hdrop : l.dropWhile isSpace = l := by
    rw [List.dropWhile_eq_self_iff]
    intro hl
    exact Bool.eq_false_iff.1 (hhead _ (by simp [List.head?_eq_getElem?, hl]))
  rw [stripChars, hdrop, List.rdropWhile_eq_self_iff]
  intro hl
  exact Bool.eq_false_iff.1 (hlast _ (List.getLast?_eq_some_getLast hl))

/-! ## One host line -/

/-- a row's line, as it is read -/
def lineOf (row : NodeRow) : HostLine :=
  ⟨row.host, if row.address = row.host then [] else [("ansible_host", row.address)]⟩

/-- the host lines of a group -/
def groupHosts (name : String) (role : NodeRole) (rows : List NodeRow) : List (String × HostLine) :=
  (rows.filter fun row => row.role = role).map fun row => (name, lineOf row)

/-- names that may stand in the file -/
structure Named (row : NodeRow) : Prop where
  host : IsHost row.host
  address : IsHost row.address

/-- the variable of a row, as it is written -/
def addressWord (address : String) : List Char := "ansible_host".toList ++ '=' :: address.toList

theorem addressWord_eq (address : String) : addressWord address = "ansible_host".toList ++ '=' :: address.toList := rfl

theorem hostText_toList {row : NodeRow} (h : Named row) : (hostText row).toList =
    if row.address = row.host then row.host.toList else row.host.toList ++ ' ' :: addressWord row.address := by
  have hat : row.at = row.address := if_neg h.address.1
  rw [hostText, hat]
  by_cases heq : row.address = row.host
  · rw [if_pos heq, if_pos heq]
  · rw [if_neg heq, if_neg heq]
    have hspace : " ansible_host=".toList = ' ' :: ("ansible_host".toList ++ ['=']) := by decide
    rw [String.toList_append, String.toList_append, hspace, addressWord_eq]
    simp only [List.append_assoc, List.cons_append, List.nil_append]

/-- what may stand in a host line -/
def isLineChar (c : Char) : Bool := isHostChar c || c == ' ' || c == '='

theorem isLineChar_hostText {row : NodeRow} (h : Named row) : ∀ c ∈ (hostText row).toList, isLineChar c = true := by
  have hhost : ∀ c ∈ row.host.toList, isLineChar c = true := by
    intro c hc
    simp [isLineChar, h.host.2 c hc]
  have haddress : ∀ c ∈ row.address.toList, isLineChar c = true := by
    intro c hc
    simp [isLineChar, h.address.2 c hc]
  have hname : ∀ c ∈ "ansible_host".toList, isLineChar c = true := List.all_eq_true.1 (by decide)
  rw [hostText_toList h]
  split_ifs
  · exact hhost
  · intro c hc
    rcases List.mem_append.1 hc with hc | hc
    · exact hhost c hc
    · rcases List.mem_cons.1 hc with rfl | hc
      · rfl
      · rcases List.mem_append.1 hc with hc | hc
        · exact hname c hc
        · rcases List.mem_cons.1 hc with rfl | hc
          · rfl
          · exact haddress c hc

theorem ne_of_isLineChar {c d : Char} (h : isLineChar c = true) (hd : isLineChar d = false) : c ≠ d := by
  intro heq
  rw [heq, hd] at h
  cases h

theorem takeWhile_eq_self {l : List Char} {d : Char} (hl : ∀ c ∈ l, isLineChar c = true) (hd : isLineChar d = false) :
    l.takeWhile (· != d) = l := by
  rw [List.takeWhile_eq_self_iff]
  intro c hc
  exact bne_iff_ne.2 (ne_of_isLineChar (hl c hc) hd)

/-- a key and its value, cut at the first `=` -/
theorem cut_word {key value : List Char} (hkey : ∀ c ∈ key, (c != '=') = true) :
    (key ++ '=' :: value).takeWhile (· != '=') = key ∧ ((key ++ '=' :: value).dropWhile (· != '=')).tail = value := by
  rw [List.takeWhile_append_of_pos hkey, List.dropWhile_append_of_pos hkey]
  simp

theorem getLast_line (host key : List Char) {value : List Char} (h : value ≠ []) :
    (host ++ ' ' :: (key ++ '=' :: value)).getLast? = value.getLast? := by
  have hsplit : host ++ ' ' :: (key ++ '=' :: value) = (host ++ ' ' :: (key ++ ['='])) ++ value := by simp
  rw [hsplit, List.getLast?_append_of_ne_nil _ h]

theorem head_getLast {text : String} (h : IsHost text) :
    (∀ c ∈ text.toList.head?, isSpace c = false) ∧ ∀ c ∈ text.toList.getLast?, isSpace c = false :=
  ⟨fun c hc => not_isSpace (h.2 c (List.mem_of_head? hc)), fun c hc => not_isSpace (h.2 c (List.mem_of_getLast? hc))⟩

theorem toList_ne_nil {text : String} (h : IsHost text) : text.toList ≠ [] := by
  intro hnil
  exact h.1 (by simpa using hnil)

/-- a host line begins and ends with a host character -/
theorem stripChars_hostText {row : NodeRow} (h : Named row) : stripChars (hostText row).toList = (hostText row).toList := by
  rw [hostText_toList h]
  split_ifs
  · exact stripChars_eq_self (head_getLast h.host).1 (head_getLast h.host).2
  · refine stripChars_eq_self ?_ ?_
    · rw [List.head?_append_of_ne_nil _ (toList_ne_nil h.host)]
      exact (head_getLast h.host).1
    · rw [addressWord_eq, getLast_line _ _ (toList_ne_nil h.address)]
      exact (head_getLast h.address).2

theorem hostVars_addressWord {address : String} (h : IsHost address) :
    hostVars (' ' :: addressWord address) = [("ansible_host", address)] := by
  have hspaces : ∀ c ∈ addressWord address, isSpace c = false := by
    have hname : ∀ c ∈ "ansible_host".toList, isSpace c = false := none_of_any (by decide)
    intro c hc
    rcases List.mem_append.1 hc with hc | hc
    · exact hname c hc
    · rcases List.mem_cons.1 hc with rfl | hc
      · rfl
      · exact not_isSpace (h.2 c hc)
  have hempty : (addressWord address).isEmpty = false := rfl
  have hwords : words (String.ofList (' ' :: addressWord address)) = [addressWord address] := by
    have hspace : isSpace ' ' = true := rfl
    rw [words, String.toList_ofList, List.splitOnP_cons_eq_if_modifyHead, hspace, if_pos rfl,
      List.splitOnP_eq_singleton hspaces]
    simp [hempty]
  have hname : ∀ c ∈ "ansible_host".toList, (c != '=') = true := List.all_eq_true.1 (by decide)
  have hkey : (addressWord address).takeWhile (· != '=') = "ansible_host".toList := (cut_word hname).1
  have hvalue : ((addressWord address).dropWhile (· != '=')).tail = address.toList := (cut_word hname).2
  have hmem : '=' ∈ addressWord address := List.mem_append_right _ List.mem_cons_self
  have hstrip : stripChars address.toList = address.toList :=
    stripChars_eq_self (head_getLast h).1 (head_getLast h).2
  have hnamestrip : stripChars "ansible_host".toList = "ansible_host".toList := by decide
  rw [hostVars, hwords]
  simp only [List.filterMap_cons, if_pos hmem, List.filterMap_nil, hkey, hvalue, hstrip, hnamestrip, String.ofList_toList]
  rfl

theorem hostLine_hostText {row : NodeRow} (h : Named row) : hostLine (hostText row).toList = some (lineOf row) := by
  have hne : row.host.toList ≠ [] := toList_ne_nil h.host
  rw [hostText_toList h]
  split_ifs with heq
  · have htake : row.host.toList.takeWhile isHostChar = row.host.toList := List.takeWhile_eq_self_iff.2 h.host.2
    have hdrop : row.host.toList.dropWhile isHostChar = [] := List.dropWhile_eq_nil_iff.2 h.host.2
    rw [hostLine, htake, hdrop, if_neg hne, lineOf, if_pos heq, String.ofList_toList]
    rfl
  · have htake : (row.host.toList ++ ' ' :: addressWord row.address).takeWhile isHostChar = row.host.toList := by
      rw [List.takeWhile_append_of_pos h.host.2]
      simp [isHostChar]
    have hdrop : (row.host.toList ++ ' ' :: addressWord row.address).dropWhile isHostChar = ' ' :: addressWord row.address := by
      rw [List.dropWhile_append_of_pos h.host.2]
      rfl
    rw [hostLine, htake, hdrop, if_neg hne, lineOf, if_neg heq, hostVars_addressWord h.address, String.ofList_toList]

/-! ## A line under a header -/

section Lines

variable {py : Letters} {groups : Groups} {header : Header}

theorem uncommented_eq {l : List Char} (hl : ∀ c ∈ l, isLineChar c = true) (hstrip : stripChars l = l) :
    uncommented l = l := by
  rw [uncommented, takeWhile_eq_self hl rfl, takeWhile_eq_self hl rfl, hstrip]

/-- a line read under the header of a group -/
theorem readLine_hostText {group : String} {row : NodeRow} (h : Named row) :
    readLine py (some (group, "hosts")) groups (hostText row).toList =
      (some (group, "hosts"), { groups with hosts := groups.hosts ++ [(group, lineOf row)] }) := by
  have hline := isLineChar_hostText h
  have hne : (hostText row).toList ≠ [] := by
    intro hnil
    have hsome := hostLine_hostText h
    rw [hnil] at hsome
    cases hsome
  have hsection : sectionOf py (hostText row).toList = none := by
    rw [sectionOf, if_pos]
    refine .inl ?_
    intro hhead
    exact ne_of_isLineChar (hline _ (List.mem_of_head? hhead)) (d := '[') rfl rfl
  have hkind : "hosts" ≠ "children" := by decide
  unfold readLine
  dsimp only
  rw [uncommented_eq hline (stripChars_hostText h), if_neg hne, hsection]
  dsimp only
  rw [if_neg hkind, if_neg (not_not.2 rfl), hostLine_hostText h]

theorem readLine_empty : readLine py header groups [] = (header, groups) := rfl

theorem readLine_comment {l : List Char} (h : l.head? = some '#') : readLine py header groups l = (header, groups) := by
  have hempty : uncommented l = [] := by
    cases l with
    | nil => cases h
    | cons c rest =>
      obtain rfl := Option.some.inj h
      simp [uncommented, stripChars]
  unfold readLine
  dsimp only
  rw [hempty, if_pos rfl]

/-- the header of a role group, whose name is in lower case -/
theorem readLine_header {name : String} (hsection : sectionOf py ("[" ++ name ++ "]").toList = some (name, "hosts"))
    (hline : uncommented ("[" ++ name ++ "]").toList = ("[" ++ name ++ "]").toList) :
    readLine py header groups ("[" ++ name ++ "]").toList = (some (name, "hosts"), groups) := by
  have hne : ("[" ++ name ++ "]").toList ≠ [] := by simp
  unfold readLine
  dsimp only
  rw [hline, if_neg hne, hsection]

/-- a reader over lines -/
def readAll (py : Letters) (state : Header × Groups) (lines : List (List Char)) : Header × Groups :=
  lines.foldl (fun (header, groups) raw => readLine py header groups raw) state

theorem readAll_cons (state : Header × Groups) (line : List Char) (lines : List (List Char)) :
    readAll py state (line :: lines) = readAll py (readLine py state.1 state.2 line) lines := rfl

theorem readAll_append (state : Header × Groups) (lines lines' : List (List Char)) :
    readAll py state (lines ++ lines') = readAll py (readAll py state lines) lines' := List.foldl_append

theorem readAll_hosts {group : String} {rows : List NodeRow} (h : ∀ row ∈ rows, Named row) :
    readAll py (some (group, "hosts"), groups) (rows.map fun row => (hostText row).toList) =
      (some (group, "hosts"), { groups with hosts := groups.hosts ++ rows.map fun row => (group, lineOf row) }) := by
  induction rows generalizing groups with
  | nil => simp [readAll]
  | cons row rest ih =>
    have hfirst := @readLine_hostText py groups group row (h row List.mem_cons_self)
    have hrest := @ih { groups with hosts := groups.hosts ++ [(group, lineOf row)] }
      fun row hrow => h row (List.mem_cons_of_mem _ hrow)
    rw [List.map_cons, readAll_cons, hfirst]
    refine hrest.trans ?_
    simp

/-- a whole group -/
theorem readAll_group {name : String} {role : NodeRole} {rows : List NodeRow} (h : ∀ row ∈ rows, Named row)
    (hsection : sectionOf py ("[" ++ name ++ "]").toList = some (name, "hosts"))
    (hline : uncommented ("[" ++ name ++ "]").toList = ("[" ++ name ++ "]").toList) :
    readAll py (header, groups) ((groupLines name role rows).map String.toList) = (some (name, "hosts"),
      { groups with hosts := groups.hosts ++ groupHosts name role rows }) := by
  have hhosts := @readAll_hosts py groups name (rows.filter fun row => row.role = role)
    fun row hrow => h row (List.mem_filter.1 hrow).1
  have hlines : (groupLines name role rows).map String.toList = [("[" ++ name ++ "]").toList] ++
      ((rows.filter fun row => row.role = role).map fun row => (hostText row).toList) ++ [[]] := by
    simp [groupLines]
  rw [hlines, readAll_append, readAll_append]
  have hheader : readAll py (header, groups) [("[" ++ name ++ "]").toList] = (some (name, "hosts"), groups) := by
    rw [readAll_cons, readLine_header hsection hline]
    rfl
  rw [hheader, hhosts]
  exact @readLine_empty py _ _

end Lines

/-! ## The file -/

/-- lines that hold no break, each with its newline -/
theorem splitLines_flatMap {lines : List (List Char)} (h : ∀ line ∈ lines, ∀ c ∈ line, isBreak c = false) :
    splitLines (lines.flatMap fun line => line ++ ['\n']) = lines := by
  induction lines with
  | nil => rfl
  | cons line rest ih =>
    have hafter : afterBreak '\n' (rest.flatMap fun line => line ++ ['\n']) =
        rest.flatMap fun line => line ++ ['\n'] := rfl
    rw [List.flatMap_cons, List.append_assoc, List.singleton_append,
      splitLines_break (h line List.mem_cons_self) rfl, hafter,
      ih fun line hline => h line (List.mem_cons_of_mem _ hline)]

theorem intercalate_newline (lines : List String) : (String.intercalate "\n" (lines ++ [""])).toList =
    lines.flatMap fun line => line.toList ++ ['\n'] := by
  induction lines with
  | nil => rfl
  | cons line rest ih =>
    obtain ⟨next, more, hmore⟩ : ∃ next more, rest ++ [""] = next :: more := by
      cases rest with
      | nil => exact ⟨_, _, rfl⟩
      | cons next more => exact ⟨_, _, rfl⟩
    rw [List.cons_append, hmore, String.intercalate_cons_cons, ← hmore, String.toList_append, String.toList_append, ih,
      List.flatMap_cons]
    rfl

section File

variable {py : Letters} {cluster : String} {rows : List NodeRow}

def commentLine (cluster : String) : String := "# in the console overwrites this file. Cluster: " ++ cluster

/-- the lines of a rendered file -/
def fileLines (cluster : String) (rows : List NodeRow) : List String :=
  ["# Generated by TMS from the node list. Do not edit - the next change", commentLine cluster, ""] ++
    groupLines "coordinator" .coordinator rows ++
      ("[worker]" :: (rows.filter fun row => row.role = .worker).map hostText)

theorem renderInventory_toList : (renderInventory cluster rows).toList =
    (fileLines cluster rows).flatMap fun line => line.toList ++ ['\n'] := by
  have hlines : ["# Generated by TMS from the node list. Do not edit - the next change", commentLine cluster, ""] ++
      groupLines "coordinator" .coordinator rows ++ groupLines "worker" .worker rows = fileLines cluster rows ++ [""] := by
    rw [fileLines, List.append_assoc, List.append_assoc, List.append_assoc]
    rfl
  rw [← intercalate_newline, ← hlines]
  rfl

/-- a text without a line break -/
def OneLine (text : String) : Prop := ∀ c ∈ text.toList, isBreak c = false

theorem oneLine_hostText {row : NodeRow} (h : Named row) : OneLine (hostText row) := by
  intro c hc
  have hchar := isLineChar_hostText h c hc
  simp only [isLineChar, Bool.or_eq_true, beq_iff_eq] at hchar
  rcases hchar with (hchar | rfl) | rfl
  · exact not_isBreak hchar
  · rfl
  · rfl

theorem commentLine_toList :
    (commentLine cluster).toList = "# in the console overwrites this file. Cluster: ".toList ++ cluster.toList :=
  String.toList_append

theorem oneLine_commentLine (h : OneLine cluster) : OneLine (commentLine cluster) := by
  have hcomment : ∀ c ∈ "# in the console overwrites this file. Cluster: ".toList, isBreak c = false :=
    none_of_any (by decide)
  unfold OneLine
  rw [commentLine_toList]
  exact List.forall_mem_append.2 ⟨hcomment, h⟩

theorem oneLine_fileLines (hcluster : OneLine cluster) (h : ∀ row ∈ rows, Named row) :
    ∀ line ∈ fileLines cluster rows, OneLine line := by
  have hfirst : OneLine "# Generated by TMS from the node list. Do not edit - the next change" := none_of_any (by decide)
  have hempty : OneLine "" := by
    intro c hc
    cases hc
  have hcoordinator : OneLine ("[" ++ "coordinator" ++ "]") := none_of_any (by decide)
  have hworker : OneLine "[worker]" := none_of_any (by decide)
  have hhosts : ∀ role, ∀ line ∈ (rows.filter fun row => row.role = role).map hostText, OneLine line := by
    intro role line hline
    obtain ⟨row, hrow, rfl⟩ := List.mem_map.1 hline
    exact oneLine_hostText (h row (List.mem_filter.1 hrow).1)
  have hgroup : ∀ line ∈ groupLines "coordinator" .coordinator rows, OneLine line :=
    List.forall_mem_append.2 ⟨List.forall_mem_cons.2 ⟨hcoordinator, hhosts _⟩, List.forall_mem_singleton.2 hempty⟩
  have hhead : ∀ line ∈ ["# Generated by TMS from the node list. Do not edit - the next change", commentLine cluster, ""],
      OneLine line :=
    List.forall_mem_cons.2 ⟨hfirst, List.forall_mem_cons.2 ⟨oneLine_commentLine hcluster, List.forall_mem_singleton.2 hempty⟩⟩
  exact List.forall_mem_append.2 ⟨List.forall_mem_append.2 ⟨hhead, hgroup⟩, List.forall_mem_cons.2 ⟨hworker, hhosts _⟩⟩

/-- **What is written is read.** The host lines of the two groups, and no other line, group or child. -/
theorem readLines_render (hlower : py.lower "coordinator" = "coordinator" ∧ py.lower "worker" = "worker" )
    (hcluster : OneLine cluster) (h : ∀ row ∈ rows, Named row) :
    readLines py (renderInventory cluster rows) =
      ⟨groupHosts "coordinator" .coordinator rows ++ groupHosts "worker" .worker rows, []⟩ := by
  have hsplit := splitLines_flatMap (List.forall_mem_map.2 (oneLine_fileLines hcluster h))
  rw [List.flatMap_map] at hsplit
  have hread : readLines py (renderInventory cluster rows) =
      (readAll py (none, ⟨[], []⟩) ((fileLines cluster rows).map String.toList)).2 := by
    rw [readLines, renderInventory_toList, hsplit]
    rfl
  have hcoordinator : sectionOf py ("[" ++ "coordinator" ++ "]").toList = some ("coordinator", "hosts") := by
    have hsection : sectionOf py ("[" ++ "coordinator" ++ "]").toList = some (py.lower "coordinator", "hosts") := rfl
    rw [hsection, hlower.1]
  have hworker : sectionOf py ("[" ++ "worker" ++ "]").toList = some ("worker", "hosts") := by
    have hsection : sectionOf py ("[" ++ "worker" ++ "]").toList = some (py.lower "worker", "hosts") := rfl
    rw [hsection, hlower.2]
  have hskip : readAll py (none, ⟨[], []⟩) (["# Generated by TMS from the node list. Do not edit - the next change",
      commentLine cluster, ""].map String.toList) = (none, ⟨[], []⟩) := by
    have hcomment : (commentLine cluster).toList.head? = some '#' := by
      rw [commentLine_toList]
      rfl
    have hfirst : readLine py none ⟨[], []⟩ "# Generated by TMS from the node list. Do not edit - the next change".toList =
        (none, ⟨[], []⟩) := readLine_comment rfl
    have hsecond : readLine py none ⟨[], []⟩ (commentLine cluster).toList = (none, ⟨[], []⟩) := readLine_comment hcomment
    rw [List.map_cons, List.map_cons, readAll_cons, hfirst, readAll_cons, hsecond]
    rfl
  rw [hread, fileLines, List.map_append, List.map_append, readAll_append, readAll_append, hskip,
    readAll_group h hcoordinator rfl, List.map_cons, readAll_cons, List.map_map]
  have hheader := @readLine_header py ⟨[] ++ groupHosts "coordinator" .coordinator rows, []⟩ (some ("coordinator", "hosts")) "worker" hworker rfl
  have hhosts := @readAll_hosts py ⟨[] ++ groupHosts "coordinator" .coordinator rows, []⟩ "worker" (rows.filter fun row => row.role = .worker)
    fun row hrow => h row (List.mem_filter.1 hrow).1
  exact congrArg Prod.snd ((congrArg (fun state => readAll py state _) hheader).trans hhosts)

/-! ## The nodes -/

/-- a row as a node of its cluster -/
def nodeOf (cluster : String) (row : NodeRow) : Node := ⟨row.host, row.role, cluster, (lineOf row).vars⟩

theorem address_nodeOf {row : NodeRow} (h : Named row) : Fleet.address (nodeOf cluster row) = row.address := by
  rw [Fleet.address, nodeOf, lineOf]
  dsimp only
  split_ifs with heq
  · exact heq.symm
  · simp [h.address.1]

/-- entries of different hosts are all kept, in order -/
theorem foldl_nodes {cluster : String} {entries : List (HostLine × NodeRole)} {nodes : List Node}
    (h : (nodes.map (·.host) ++ entries.map (·.1.host)).Nodup) :
    entries.foldl (fun nodes (entry, role) =>
      if nodes.any (fun n => n.host == entry.host && n.role == role) then nodes
      else nodes ++ [⟨entry.host, role, cluster, entry.vars⟩]) nodes =
        nodes ++ entries.map fun (entry, role) => ⟨entry.host, role, cluster, entry.vars⟩ := by
  induction entries generalizing nodes with
  | nil => simp
  | cons e rest ih =>
    have hfresh : nodes.any (fun n => n.host == e.1.host && n.role == e.2) = false := by
      rw [List.any_eq_false]
      intro n hn hsame
      rw [Bool.and_eq_true, beq_iff_eq] at hsame
      exact (List.nodup_append.1 h).2.2 _ (List.mem_map_of_mem hn) _ (List.mem_map_of_mem List.mem_cons_self) hsame.1
    rw [List.foldl_cons]
    dsimp only
    rw [hfresh, if_neg (by decide), ih]
    · simp
    · simpa using h

theorem collect_eq {groups : Groups} (hchildren : groups.children = []) (name : String) :
    collect groups name = (groups.hosts.filter (·.1 == name)).map Prod.snd := by
  rw [collect, hchildren]
  simp [visit, hchildren]

/-- the rows as they are listed, the coordinators first -/
def inOrder (rows : List NodeRow) : List NodeRow :=
  (rows.filter fun row => row.role = .coordinator) ++ rows.filter fun row => row.role = .worker

theorem filter_groupHosts (name name' : String) (role : NodeRole) :
    (groupHosts name role rows).filter (·.1 == name') = if name = name' then groupHosts name role rows else [] := by
  split_ifs with hname
  · refine List.filter_eq_self.2 ?_
    intro p hp
    obtain ⟨row, -, rfl⟩ := List.mem_map.1 hp
    exact beq_iff_eq.2 hname
  · refine List.filter_eq_nil_iff.2 ?_
    intro p hp
    obtain ⟨row, -, rfl⟩ := List.mem_map.1 hp
    exact fun h => hname (beq_iff_eq.1 h)

theorem inOrder_perm : (inOrder rows).Perm rows := by
  have hworker : (rows.filter fun row => row.role = .worker) = rows.filter fun row => !decide (row.role = .coordinator) := by
    refine List.filter_congr ?_
    intro row _
    cases row.role <;> rfl
  rw [inOrder, hworker]
  exact List.filter_append_perm _ _

/-- the entries of the parsed groups, in order, are the written rows with their roles -/
theorem entries_groupHosts : (roleGroups.flatMap fun (name, role) => (collect ⟨groupHosts "coordinator" .coordinator rows ++
    groupHosts "worker" .worker rows, []⟩ name).map fun entry => (entry, role)) =
      (inOrder rows).map fun row => (lineOf row, row.role) := by
  have hroles : ∀ name role, (groupHosts name role rows).map (fun p => (p.2, role)) =
      (rows.filter fun row => row.role = role).map fun row => (lineOf row, row.role) := by
    intro name role
    rw [groupHosts, List.map_map]
    refine List.map_congr_left ?_
    intro row hrow
    have hrole : row.role = role := by simpa using (List.mem_filter.1 hrow).2
    rw [hrole]
    rfl
  simp only [roleGroups, List.flatMap_cons, List.flatMap_nil, collect_eq, List.filter_append, filter_groupHosts,
    String.reduceEq, if_true, if_false, List.append_nil, List.nil_append, List.map_nil, List.map_map, Function.comp_def,
    hroles, inOrder, List.map_append]

/-- **What is written is parsed back**, each row once. -/
theorem parseInventory_render (hlower : py.lower "coordinator" = "coordinator" ∧ py.lower "worker" = "worker")
    (hcluster : OneLine cluster) (h : ∀ row ∈ rows, Named row) (hhosts : (rows.map (·.host)).Nodup) :
    parseInventory py (renderInventory cluster rows) cluster = (inOrder rows).map (nodeOf cluster) := by
  rw [parseInventory, readLines_render hlower hcluster h, listNodes]
  rw [entries_groupHosts, foldl_nodes]
  · rw [List.nil_append, List.map_map]
    rfl
  · rw [List.map_nil, List.nil_append, List.map_map]
    exact (inOrder_perm.map _).nodup_iff.2 hhosts

end File

end TrinoManagement.Nodes
