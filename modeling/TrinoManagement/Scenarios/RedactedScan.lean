/-
A scan's line and the masking on its way to `parse_scan`.

- `Survives`: the line that is handed on is read as the same host, role, reachability and files, and is the same JSON but for the
  texts of its values.
- `Spared`: no text of the JSON ends in a secret, and there is no secret but asterisks in its keys, the host and the role.
- `survives_iff`: the first exactly if the second. `padding_taken` is a file in base64 whose padding reads like a secret's sign.
-/
import Mathlib.Tactic
import TrinoManagement.Config.ScanLine
import TrinoManagement.Ops.RedactedJson

namespace TrinoManagement.RedactedScan

open TrinoManagement.ConfigScan (marker payload)
open TrinoManagement.JsonText TrinoManagement.Redaction TrinoManagement.ScanLine TrinoManagement.ScanOutput TrinoManagement.Text

/-! ## What should survive -/

/-- the values a host reports: `_node` can read them, and the property names are texts -/
structure ScanPayload (py : Python) where
  tree : Tree
  shaped : Shaped (valueOf py.number tree)
  named : Named (valueOf py.number tree)

mutual

/-- the JSON without the texts of its values -/
def skeleton : Tree → Tree
  | .str _ => .str ""
  | .list items => .list (skeletonItems items)
  | .dict fields => .dict (skeletonFields fields)
  | t => t

def skeletonItems : List Tree → List Tree
  | [] => []
  | t :: ts => skeleton t :: skeletonItems ts

def skeletonFields : List (String × Tree) → List (String × Tree)
  | [] => []
  | (key, t) :: fs => (key, skeleton t) :: skeletonFields fs

end

/-- the same host with the same role, reachability and set of files -/
structure SameNode (report report' : NodeReport) : Prop where
  host : report'.host = report.host
  role : report'.role = report.role
  reachable : report'.reachable = report.reachable
  files : ∀ path, path ∈ report'.files.keys ↔ path ∈ report.files.keys

def Survives (py : Python) (p : ScanPayload py) : Prop :=
  ∃ line text t report report',
    handed py.alnum (scanLine p.tree ++ "\n") = some line ∧ payload line = some text ∧
      parse py.half text.toList = some t ∧ skeleton t = skeleton p.tree ∧
      parseScan py.library [scanLine p.tree] = .ok [report] ∧ parseScan py.library [line] = .ok [report'] ∧ SameNode report report'

/-! ## When it does -/

mutual

/-- the keys of a value's objects -/
def keysIn : Tree → List String
  | .list items => keysInItems items
  | .dict fields => keysInFields fields
  | _ => []

def keysInItems : List Tree → List String
  | [] => []
  | t :: ts => keysIn t ++ keysInItems ts

def keysInFields : List (String × Tree) → List String
  | [] => []
  | (key, t) :: fs => key :: keysIn t ++ keysInFields fs

end

mutual

/-- a value with its texts masked, and not its keys -/
def maskValue (alnum : Char → Bool) : Value → Value
  | .str s => .str (maskText alnum s)
  | .list items => .list (maskValues alnum items)
  | .dict fields => .dict (maskObject alnum fields)
  | v => v

def maskValues (alnum : Char → Bool) : List Value → List Value
  | [] => []
  | v :: vs => maskValue alnum v :: maskValues alnum vs

def maskObject (alnum : Char → Bool) : List (String × Value) → List (String × Value)
  | [] => []
  | (key, v) :: fields => (key, maskValue alnum v) :: maskObject alnum fields

end

mutual

/-- the texts of a value, and not its keys -/
def textsOf : Value → List String
  | .str s => [s]
  | .list items => textsOfList items
  | .dict fields => textsOfObject fields
  | _ => []

def textsOfList : List Value → List String
  | [] => []
  | v :: vs => textsOf v ++ textsOfList vs

def textsOfObject : List (String × Value) → List String
  | [] => []
  | (_, v) :: fields => textsOf v ++ textsOfObject fields

end

/-- every secret in a key, the host or the role is three asterisks already, and no secret anywhere reaches the end of its string -/
structure Spared (py : Python) (t : Tree) : Prop where
  ends : ∀ s ∈ texts t, ¬ Spills py.alnum s
  keys : ∀ key ∈ keysIn t, Bare py.alnum key
  host : ∀ s ∈ textsOf ((valueOf py.number t).get "host"), Bare py.alnum s
  role : ∀ s ∈ textsOf ((valueOf py.number t).get "role"), Bare py.alnum s

/-! ## Keys -/

section Keys

variable {alnum : Char → Bool}

mutual

/-- masking changes no more than the texts of values exactly if it changes no key -/
theorem skeleton_maskTree : ∀ t : Tree, skeleton (maskTree alnum t) = skeleton t ↔ ∀ key ∈ keysIn t, Bare alnum key
  | .null => by simp [maskTree, keysIn]
  | .bool _ => by simp [maskTree, keysIn]
  | .num _ => by simp [maskTree, keysIn]
  | .str _ => by simp [maskTree, skeleton, keysIn]
  | .list items => by simpa [maskTree, skeleton, keysIn] using skeleton_maskItems items
  | .dict fields => by simpa [maskTree, skeleton, keysIn] using skeleton_maskFields fields

theorem skeleton_maskItems : ∀ ts : List Tree,
    skeletonItems (maskItems alnum ts) = skeletonItems ts ↔ ∀ key ∈ keysInItems ts, Bare alnum key
  | [] => by simp [maskItems, keysInItems]
  | t :: ts => by
    rw [maskItems, skeletonItems, skeletonItems, List.cons.injEq, skeleton_maskTree t, skeleton_maskItems ts, keysInItems,
      List.forall_mem_append]

theorem skeleton_maskFields : ∀ fs : List (String × Tree),
    skeletonFields (maskFields alnum fs) = skeletonFields fs ↔ ∀ key ∈ keysInFields fs, Bare alnum key
  | [] => by simp [maskFields, keysInFields]
  | (key, t) :: fs => by
    rw [maskFields, skeletonFields, skeletonFields, List.cons.injEq, Prod.mk.injEq, skeleton_maskTree t, skeleton_maskFields fs,
      maskText_eq_iff, keysInFields, List.cons_append, List.forall_mem_cons, List.forall_mem_append, and_assoc]

end

end Keys

/-! ## Values -/

section Values

variable {alnum : Char → Bool} {number : List Char → ℤ ⊕ ℚ} {v : Value}

theorem maskValues_eq (vs : List Value) : maskValues alnum vs = vs.map (maskValue alnum) := by
  induction vs with
  | nil => rfl
  | cons v vs ih => rw [maskValues, ih, List.map_cons]

theorem maskObject_eq (fields : List (String × Value)) :
    maskObject alnum fields = fields.map fun p => (p.1, maskValue alnum p.2) := by
  induction fields with
  | nil => rfl
  | cons p fields ih =>
    obtain ⟨key, v⟩ := p
    rw [maskObject, ih, List.map_cons]

mutual

/-- where no key is masked, the values of the masked JSON are the masked values -/
theorem valueOf_maskTree : ∀ t : Tree, (∀ key ∈ keysIn t, Bare alnum key) →
    valueOf number (maskTree alnum t) = maskValue alnum (valueOf number t)
  | .null, _ => rfl
  | .bool _, _ => rfl
  | .num literal, _ => by
    rw [maskTree, valueOf]
    · cases number literal.1 <;> rfl
    · exact nofun
    · exact nofun
    · exact nofun
  | .str _, _ => rfl
  | .list items, h => by
    rw [maskTree, valueOf, valueOf, maskValue, valuesOf_maskItems items h]
  | .dict fields, h => by
    rw [maskTree, valueOf, valueOf, maskValue, fieldsOf_maskFields fields h, maskObject_eq, maskObject_eq, Dict.ofPairs_map]

theorem valuesOf_maskItems : ∀ ts : List Tree, (∀ key ∈ keysInItems ts, Bare alnum key) →
    valuesOf number (maskItems alnum ts) = maskValues alnum (valuesOf number ts)
  | [], _ => rfl
  | t :: ts, h => by
    obtain ⟨ht, hts⟩ := List.forall_mem_append.1 h
    rw [maskItems, valuesOf, valuesOf, maskValues, valueOf_maskTree t ht, valuesOf_maskItems ts hts]

theorem fieldsOf_maskFields : ∀ fs : List (String × Tree), (∀ key ∈ keysInFields fs, Bare alnum key) →
    fieldsOf number (maskFields alnum fs) = maskObject alnum (fieldsOf number fs)
  | [], _ => rfl
  | (key, t) :: fs, h => by
    obtain ⟨hkey, hrest⟩ := List.forall_mem_cons.1 h
    obtain ⟨ht, hfs⟩ := List.forall_mem_append.1 hrest
    rw [maskFields, fieldsOf, fieldsOf, maskObject, maskText_eq_iff.2 hkey, valueOf_maskTree t ht, fieldsOf_maskFields fs hfs]

end

end Values

/-! ## What a report reads -/

section Reads

variable {alnum : Char → Bool} {v : Value}

/-- a text's first character is in no secret -/
theorem maskText_eq_empty {s : String} : maskText alnum s = "" ↔ s = "" := by
  rw [maskText, String.ofList_eq_empty_iff, ← String.toList_eq_nil_iff]
  cases s.toList with
  | nil => exact iff_of_true rfl rfl
  | cons c rest => exact iff_of_false (List.cons_ne_nil c _) (List.cons_ne_nil c rest)

theorem truthy_maskValue : (maskValue alnum v).truthy = v.truthy := by
  cases v with
  | str s =>
    rw [Bool.eq_iff_iff]
    simp [maskValue, Value.truthy, maskText_eq_empty]
  | list items => cases items <;> rfl
  | dict fields => cases fields <;> rfl
  | _ => rfl

theorem isDict_maskValue : (maskValue alnum v).isDict = v.isDict := by cases v <;> rfl

theorem get_maskValue (key : String) : (maskValue alnum v).get key = maskValue alnum (v.get key) := by
  cases v with
  | dict fields =>
    rw [maskValue, maskObject_eq, Value.get, Value.get, Dict.lookup_map (maskValue alnum) fields key]
    cases List.lookup key fields <;> rfl
  | _ => rfl

theorem has_maskValue (key : String) : (maskValue alnum v).has key = v.has key := by
  cases v with
  | dict fields =>
    rw [maskValue, maskObject_eq, Value.has, Value.has, List.any_map]
    rfl
  | _ => rfl

theorem keys_maskValue : (objectFields (maskValue alnum v)).map Prod.fst = (objectFields v).map Prod.fst := by
  cases v with
  | dict fields =>
    rw [maskValue, maskObject_eq, objectFields, objectFields, List.map_map]
    rfl
  | _ => rfl

/-- an object's values are masked one by one -/
theorem objectOf_maskValue {P : String → Value → Prop} (hP : ∀ key v, P key v → P key (maskValue alnum v)) (h : ObjectOf P v) :
    ObjectOf P (maskValue alnum v) := by
  intro htruthy
  rw [truthy_maskValue] at htruthy
  obtain ⟨fields, rfl, hfields⟩ := h htruthy
  refine ⟨fields.map fun p => (p.1, maskValue alnum p.2), by rw [maskValue, maskObject_eq], ?_⟩
  intro p hp
  obtain ⟨q, hq, rfl⟩ := List.mem_map.1 hp
  exact hP _ _ (hfields q hq)

theorem entryShaped_maskValue {path : String} (h : EntryShaped path v) : EntryShaped path (maskValue alnum v) := by
  intro hdict
  rw [isDict_maskValue] at hdict
  rw [get_maskValue, get_maskValue, truthy_maskValue, truthy_maskValue]
  rcases h hdict with hnone | ⟨text, htext⟩ | hgiven
  · rw [hnone]
    exact .inl rfl
  · rw [htext]
    exact .inr (.inl ⟨_, rfl⟩)
  · exact .inr (.inr hgiven)

/-- what can be read can be read masked -/
theorem shaped_maskValue (h : Shaped v) : Shaped (maskValue alnum v) := by
  obtain ⟨hdict, hfiles, hproperties⟩ := h
  rw [Shaped, isDict_maskValue, get_maskValue, get_maskValue]
  exact ⟨hdict, objectOf_maskValue (fun _ _ => entryShaped_maskValue) hfiles, objectOf_maskValue (fun _ _ h => h) hproperties⟩

theorem named_maskValue (h : Named v) : Named (maskValue alnum v) := by
  intro htruthy
  rw [get_maskValue, truthy_maskValue] at htruthy
  obtain ⟨names, hnames⟩ := h htruthy
  refine ⟨names.map (maskText alnum), ?_⟩
  rw [get_maskValue, hnames, maskValue, maskValues_eq, List.map_map, List.map_map]
  rfl

mutual

theorem maskValue_iff : ∀ v : Value, maskValue alnum v = v ↔ ∀ s ∈ textsOf v, Bare alnum s
  | .none => by simp [maskValue, textsOf]
  | .bool _ => by simp [maskValue, textsOf]
  | .int _ => by simp [maskValue, textsOf]
  | .float _ => by simp [maskValue, textsOf]
  | .str _ => by simp [maskValue, textsOf, maskText_eq_iff]
  | .list vs => by simpa [maskValue, textsOf] using maskValues_iff vs
  | .dict fields => by simpa [maskValue, textsOf] using maskObject_iff fields

theorem maskValues_iff : ∀ vs : List Value, maskValues alnum vs = vs ↔ ∀ s ∈ textsOfList vs, Bare alnum s
  | [] => by simp [maskValues, textsOfList]
  | v :: vs => by
    rw [maskValues, List.cons.injEq, maskValue_iff v, maskValues_iff vs, textsOfList, List.forall_mem_append]

theorem maskObject_iff : ∀ fields : List (String × Value),
    maskObject alnum fields = fields ↔ ∀ s ∈ textsOfObject fields, Bare alnum s
  | [] => by simp [maskObject, textsOfObject]
  | (key, v) :: fields => by
    rw [maskObject, List.cons.injEq, Prod.mk.injEq, maskValue_iff v, maskObject_iff fields, textsOfObject, List.forall_mem_append]
    simp

end

/-- a host or a role is reported as before exactly if it is not masked -/
theorem orElse_maskValue {default : String} : orElse (maskValue alnum v) default = orElse v default ↔
    ∀ s ∈ textsOf v, Bare alnum s := by
  unfold orElse
  rw [truthy_maskValue, ← maskValue_iff]
  split_ifs with htruthy
  · exact Iff.rfl
  · refine iff_of_true rfl ?_
    cases v with
    | str s =>
      have hs : s = "" := by simpa [Value.truthy] using htruthy
      rw [hs]
      rfl
    | list items =>
      cases items with
      | nil => rfl
      | cons _ _ => exact absurd rfl htruthy
    | dict fields =>
      cases fields with
      | nil => rfl
      | cons _ _ => exact absurd rfl htruthy
    | _ => rfl

/-- the report of masked values is that of the same node exactly if its host and its role are not masked -/
theorem sameNode_iff {report report' : NodeReport} (h : Identified v report) (h' : Identified (maskValue alnum v) report') :
    SameNode report report' ↔
      (∀ s ∈ textsOf (v.get "host"), Bare alnum s) ∧ ∀ s ∈ textsOf (v.get "role"), Bare alnum s := by
  have hhost : report'.host = report.host ↔ ∀ s ∈ textsOf (v.get "host"), Bare alnum s := by
    rw [h.host, h'.host, get_maskValue, orElse_maskValue]
  have hrole : report'.role = report.role ↔ ∀ s ∈ textsOf (v.get "role"), Bare alnum s := by
    rw [h.role, h'.role, get_maskValue, orElse_maskValue]
  have hreachable : report'.reachable = report.reachable := by
    rw [h.reachable, h'.reachable, has_maskValue, get_maskValue, truthy_maskValue]
  have hfiles : report'.files.keys = report.files.keys := by
    rw [h.files, h'.files, get_maskValue, keys_maskValue]
  constructor
  · intro hsame
    exact ⟨hhost.1 hsame.host, hrole.1 hsame.role⟩
  · rintro ⟨hbare, hbare'⟩
    exact ⟨hhost.2 hbare, hrole.2 hbare', hreachable, fun path => by rw [hfiles]⟩

end Reads

/-! ## The line -/

section Lines

variable {alnum : Char → Bool}

/-- an object is printed between braces -/
theorem print_dict (fields : List (String × Tree)) : ∃ body, print (.dict fields) = '\x7b' :: body ++ ['\x7d'] := by
  have hfields : ∀ fs : List (String × Tree), ∃ body, printFields fs = body ++ ['\x7d'] := by
    intro fs
    induction fs with
    | nil => exact ⟨[], rfl⟩
    | cons f fs ih =>
      obtain ⟨body, hbody⟩ := ih
      refine ⟨',' :: ' ' :: (printField f ++ body), ?_⟩
      rw [printFields, hbody]
      simp
  cases fields with
  | nil => exact ⟨[], rfl⟩
  | cons f fs =>
    obtain ⟨body, hbody⟩ := hfields fs
    refine ⟨printField f ++ body, ?_⟩
    rw [print, hbody]
    simp

theorem stripChars_braces (body : List Char) : stripChars ('\x7b' :: body ++ ['\x7d']) = '\x7b' :: body ++ ['\x7d'] := by
  have hopen : isSpace '\x7b' = false := rfl
  have hclose : isSpace '\x7d' = false := rfl
  rw [stripChars, List.cons_append, List.dropWhile_cons_of_neg (by simp [hopen]), ← List.cons_append,
    List.rdropWhile_concat_neg _ _ _ (by simp [hclose])]

/-- the pattern takes nothing of the marker -/
theorem redactFrom_marker (text : List Char) :
    redactFrom alnum .idle (marker.toList ++ text) = marker.toList ++ redactFrom alnum .idle text := by
  have hmarker : marker.toList = "TMS-CONFIG-SCAN".toList ++ [' '] := rfl
  have hname : "TMS-CONFIG-SCAN".toList.all (inName alnum) = true := rfl
  rw [hmarker, List.append_assoc, List.append_assoc, List.singleton_append, List.singleton_append]
  exact redactFrom_other (List.all_eq_true.1 hname) rfl rfl

theorem redact_scanLine (t : Tree) :
    redact alnum (scanLine t) = String.ofList (marker.toList ++ redactFrom alnum .idle (print t)) := by
  rw [redact, scanLine, String.toList_ofList, redactFrom_marker]

/-- the line is handed on, without its end -/
theorem handed_scanLine (fields : List (String × Tree)) :
    handed alnum (scanLine (.dict fields) ++ "\n") = some (redact alnum (scanLine (.dict fields))) := by
  obtain ⟨body, hbody⟩ := print_dict fields
  have hline : (scanLine (.dict fields)).toList = (marker.toList ++ '\x7b' :: body) ++ ['\x7d'] := by
    rw [scanLine, String.toList_ofList, hbody, List.append_assoc]
  have hend : (scanLine (.dict fields) ++ "\n").toList.rdropWhile (fun c => c == '\r' || c == '\n') =
      (scanLine (.dict fields)).toList := by
    rw [String.toList_append, hline]
    exact (List.rdropWhile_concat_pos _ _ _ rfl).trans (List.rdropWhile_concat_neg _ _ _ (by decide))
  have hshown : blank (redact alnum (scanLine (.dict fields))) = false := by
    have hmarker : marker.toList.all isSpace = false := rfl
    rw [redact_scanLine, blank, String.toList_ofList, List.all_append, hmarker, Bool.false_and]
  rw [handed, hend, String.ofList_toList]
  simp only [hshown, Bool.false_eq_true, if_false]

/-- nothing is stripped of an object -/
theorem payload_dict (fields : List (String × Tree)) :
    payload (scanLine (.dict fields)) = some (String.ofList (print (.dict fields))) := by
  obtain ⟨body, hbody⟩ := print_dict fields
  rw [scanLine, payload_marked, hbody, stripChars_braces]

/-- a line without a spilled secret is the line of the masked JSON -/
theorem redact_scanLine_of_ends {t : Tree} (h : ∀ s ∈ texts t, ¬ Spills alnum s) :
    redact alnum (scanLine t) = scanLine (maskTree alnum t) := by
  rw [redact_scanLine, redact_print h, scanLine]

/-- white space around it does not make a text end in a string -/
theorem lex_stripChars {text : List Char} (h : lex .outside (stripChars text) = .outside) : lex .outside text = .outside := by
  have hspaces : ∀ spaces : List Char, (∀ c ∈ spaces, isSpace c = true) → lex .outside spaces = .outside := by
    intro spaces hall
    refine lex_outside fun c hc => ?_
    rw [isOutside, hall c hc, Bool.true_or, Bool.true_or]
  obtain ⟨lead, trail, htext, hlead, htrail⟩ := stripChars_split text
  rw [htext, lex_append, hspaces lead hlead, lex_append, h, hspaces trail htrail]

/-- a line with a spilled secret cannot be read -/
theorem parse_of_spilled {half : Fin 2048 → Char} {t : Tree} {text : String} (h : ∃ s ∈ texts t, Spills alnum s)
    (hpayload : payload (redact alnum (scanLine t)) = some text) : parse half text.toList = none := by
  rw [redact_scanLine, payload_marked] at hpayload
  obtain rfl := Option.some.inj hpayload
  cases hparse : parse half (String.ofList (stripChars (redactFrom alnum .idle (print t)))).toList with
  | none => rfl
  | some t' =>
    rw [String.toList_ofList] at hparse
    exact absurd (lex_stripChars (lex_parse hparse)) (lex_spilled h)

end Lines

/-! ## The claim -/

section Claim

variable {py : Python} {p : ScanPayload py}

theorem tree_dict (p : ScanPayload py) : ∃ fields, p.tree = .dict fields := by
  have hdict := p.shaped.1
  cases htree : p.tree with
  | dict fields => exact ⟨fields, rfl⟩
  | num literal =>
    rw [htree, valueOf] at hdict
    cases hnumber : py.number literal.1 <;> (rw [hnumber] at hdict; cases hdict)
  | _ =>
    rw [htree] at hdict
    cases hdict

theorem payload_before (p : ScanPayload py) : payload (scanLine p.tree) = some (String.ofList (print p.tree)) := by
  obtain ⟨fields, htree⟩ := tree_dict p
  rw [htree, payload_dict]

theorem payload_after (p : ScanPayload py) (hends : ∀ s ∈ texts p.tree, ¬ Spills py.alnum s) :
    payload (redact py.alnum (scanLine p.tree)) = some (String.ofList (print (maskTree py.alnum p.tree))) := by
  obtain ⟨fields, htree⟩ := tree_dict p
  rw [redact_scanLine_of_ends hends, htree, maskTree, payload_dict]

theorem parse_ofList (half : Fin 2048 → Char) (t : Tree) : parse half (String.ofList (print t)).toList = some t := by
  rw [String.toList_ofList, parse_print]

/-- the report before the masking -/
theorem reads_before (p : ScanPayload py) : ∃ report, parseScan py.library [scanLine p.tree] = .ok [report] ∧
    Identified (valueOf py.number p.tree) report := by
  obtain ⟨report, hnode, hreport⟩ := node_reads p.shaped p.named
  exact ⟨report, parseScan_marked (payload_before p) (parse_ofList _ _) hnode, hreport⟩

/-- and after it, where no secret is spilled and no key is masked -/
theorem reads_after (p : ScanPayload py) (hends : ∀ s ∈ texts p.tree, ¬ Spills py.alnum s)
    (hkeys : ∀ key ∈ keysIn p.tree, Bare py.alnum key) :
    ∃ report, parseScan py.library [redact py.alnum (scanLine p.tree)] = .ok [report] ∧
      Identified (maskValue py.alnum (valueOf py.number p.tree)) report := by
  obtain ⟨report, hnode, hreport⟩ := @node_reads py _ (@shaped_maskValue py.alnum _ p.shaped) (named_maskValue p.named)
  rw [← valueOf_maskTree p.tree hkeys] at hnode
  exact ⟨report, parseScan_marked (payload_after p hends) (parse_ofList _ _) hnode, hreport⟩

/-- a host with a spilled secret is reported as one that could not be read -/
theorem unread_of_spilled {t : Tree} (h : ∃ s ∈ texts t, Spills py.alnum s) :
    ∃ text, parseScan py.library [redact py.alnum (scanLine t)] = .ok [unreadNode (py.message text)] := by
  have hpayload := payload_marked (redactFrom py.alnum .idle (print t))
  rw [← redact_scanLine] at hpayload
  exact ⟨_, parseScan_unread hpayload (parse_of_spilled h hpayload)⟩

theorem ends_of_survives (h : Survives py p) : ∀ s ∈ texts p.tree, ¬ Spills py.alnum s := by
  obtain ⟨fields, htree⟩ := tree_dict p
  obtain ⟨line, text, t, -, -, hline, hpayload, hparse, -⟩ := h
  rw [htree, handed_scanLine] at hline
  intro s hs hspills
  rw [← Option.some.inj hline, ← htree] at hpayload
  rw [parse_of_spilled ⟨s, hs, hspills⟩ hpayload] at hparse
  cases hparse

end Claim

/-- **A scan survives the masking** exactly if no text of it ends in a secret, and there is none but asterisks in a key, the host
or the role. -/
theorem survives_iff (py : Python) (p : ScanPayload py) : Survives py p ↔ Spared py p.tree := by
  obtain ⟨fields, htree⟩ := tree_dict p
  have hhanded : handed py.alnum (scanLine p.tree ++ "\n") = some (redact py.alnum (scanLine p.tree)) := by
    rw [htree, handed_scanLine]
  obtain ⟨before, hbefore, hidentified⟩ := reads_before p
  constructor
  · intro h
    have hends := ends_of_survives h
    obtain ⟨line, text, t, report, report', hline, hpayload, hparse, hskeleton, hreport, hreport', hsame⟩ := h
    obtain rfl : redact py.alnum (scanLine p.tree) = line := Option.some.inj (hhanded.symm.trans hline)
    have hmasked : maskTree py.alnum p.tree = t := by
      obtain rfl : String.ofList (print (maskTree py.alnum p.tree)) = text :=
        Option.some.inj ((payload_after p hends).symm.trans hpayload)
      exact Option.some.inj ((parse_ofList _ _).symm.trans hparse)
    rw [← hmasked] at hskeleton
    have hkeys := (skeleton_maskTree p.tree).1 hskeleton
    obtain ⟨after, hafter, hidentified'⟩ := reads_after p hends hkeys
    obtain rfl : before = report := by
      rw [hbefore] at hreport
      exact List.singleton_inj.1 (Except.ok.inj hreport)
    obtain rfl : after = report' := by
      rw [hafter] at hreport'
      exact List.singleton_inj.1 (Except.ok.inj hreport')
    obtain ⟨hhost, hrole⟩ := (sameNode_iff hidentified hidentified').1 hsame
    exact ⟨hends, hkeys, hhost, hrole⟩
  · intro h
    obtain ⟨after, hafter, hidentified'⟩ := reads_after p h.ends h.keys
    exact ⟨_, _, _, before, after, hhanded, payload_after p h.ends, parse_ofList _ _, (skeleton_maskTree p.tree).2 h.keys, hbefore,
      hafter, (sameNode_iff hidentified hidentified').2 ⟨h.host, h.role⟩⟩

/-! ### A file whose padding reads like a secret's sign -/

/-- five bytes in base64 -/
def padded : Tree :=
  .dict [("host", .str "w1"), ("role", .str "worker"), ("reachable", .bool true),
    ("files", .dict [("etc/config.properties", .dict [("present", .bool true), ("content_b64", .str "AAApass=")])])]

def plain : Python where
  alnum _ := false
  number _ := .inl 0
  half _ := '?'
  message _ := "Unterminated string"
  checksum := id
  b64decode _ := none
  sortedOther _ := .ok []

def paddedScan : ScanPayload plain where
  tree := padded
  shaped := by
    refine ⟨rfl, fun _ => ⟨_, rfl, ?_⟩, fun h => ?_⟩
    · intro p hp
      obtain rfl := List.mem_singleton.1 hp
      exact fun _ => .inl rfl
    · cases h
  named := fun h => by cases h

theorem padding_taken : ¬ Survives plain paddedScan ∧
    parseScan plain.library [redact plain.alnum (scanLine padded)] = .ok [unreadNode "Unterminated string"] := by
  have hspills : ∃ s ∈ texts padded, Spills plain.alnum s := ⟨"AAApass=", by decide +kernel, by decide +kernel⟩
  constructor
  · intro h
    obtain ⟨s, hs, hspill⟩ := hspills
    exact ends_of_survives h s hs hspill
  · obtain ⟨text, hunread⟩ := @unread_of_spilled plain _ hspills
    exact hunread

end TrinoManagement.RedactedScan
