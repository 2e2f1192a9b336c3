/-
Does answering mean answering? The screen marks a row as answering if no row of its cluster was seen later, and takes that
for being in the answer of the newest scan.

- `hear`: who answers the effects, with the newest answer of the coordinator kept beside them.
- `Answering`: what is claimed of the screen. `Steady`: what a run must not do to it.
- `marked_scanned`, `marked_insert`, `marked_remove`: what one scan, one addition and one removal leave.
- `answering_means_answering`: every run of steady edits; `marks_served`: so the service's own, to which nobody listens.
- `all_still_answering`: an answer that names no machine.
-/
import Mathlib.Tactic
import TrinoManagement.Core.Run
import TrinoManagement.Fleet.Machines
import TrinoManagement.Scenarios.InventoryRoundTrip

namespace TrinoManagement.Marks

open TrinoManagement.Guard TrinoManagement.Nodes
open TrinoManagement.Prog (Along along_mono assuming assuming_mono onOk run_erase wp wp_along wp_bind wp_bind_inv wp_mono)
open TrinoManagement.Run (Meets run run_cons run_inv)
open TrinoManagement.Service (Exn)

/-! ## What was heard -/

/-- the newest answer of the coordinator, and whether the rows have yet to be read after it -/
structure Heard where
  reported : List Value
  unread : Bool

abbrev Watched := Site NodeWorld × Heard

def Heard.after (h : Heard) (o : Oracle NodeWeather) : Act NodeAct → Heard
  | .op (.queryNodes _) =>
    match o.inner.reported with
    | .ok rows => ⟨rows, true⟩
    | .error _ => h
  | .op (.list _) => { h with unread := false }
  | _ => h

def hear (collate : String → String → Bool) (o : Oracle NodeWeather) (a : Act NodeAct) (s : Watched) :
    Answer NodeAct.Answer a × Watched :=
  ((handle (serveNodes collate) o a s.1).1, (handle (serveNodes collate) o a s.1).2, s.2.after o a)

/-- an edit, and what is outside at each of its effects -/
structure Turn where
  edit : Edit
  weather : List (Oracle NodeWeather)

def Turn.seenAt (turn : Turn) : ℤ :=
  match turn.edit with
  | .scan _ seenAt => seenAt
  | _ => 0

section Claim

variable (lib : Library) (cfg : NodeListConfig) (collate : String → String → Bool) (cluster : String)

def afterTurn (s : Watched) (turn : Turn) : Watched :=
  (Prog.run (hear collate) turn.weather (turn.edit.prog lib cfg cluster) s).2

/-- an edit, as the service has it -/
def editSite (site : Site NodeWorld) (turn : Turn) : Site NodeWorld :=
  (Prog.run (handle (serveNodes collate)) turn.weather (turn.edit.prog lib cfg cluster) site).2

/-- listening changes nothing -/
theorem afterTurn_site (s : Watched) (turn : Turn) :
    (afterTurn lib cfg collate cluster s turn).1 = editSite lib cfg collate cluster s.1 turn :=
  (run_erase Prod.fst (fun _ _ _ => ⟨rfl, rfl⟩) s).2

theorem run_site (s : Watched) (turns : List Turn) :
    (run (afterTurn lib cfg collate cluster) s turns).1 = run (editSite lib cfg collate cluster) s.1 turns := by
  induction turns generalizing s with
  | nil => rfl
  | cons turn turns ih => rw [run_cons, run_cons, ih, afterTurn_site]

/-- an answer names a host -/
def Reported (reported : List Value) (host : String) : Prop :=
  host ≠ "" ∧ ∃ row ∈ reported, hostOf lib (row.get "http_uri") = .ok host

/-- an answer has a row's machine -/
def InAnswer (reported : List Value) (row : NodeRow) : Prop := ∃ host ∈ names lib row, Reported lib reported host

/-- the screen marks the rows whose machine was in the newest answer, and no others -/
def Answering (s : Watched) : Prop :=
  ∀ d ∈ describeAll (listed s.1.service.rows cluster collate), d.answering = true ↔ InAnswer lib s.2.reported d.row

/-! ## What may go wrong -/

def rowsIn (rows : List NodeRow) : List NodeRow := rows.filter fun row => row.cluster = cluster

/-- an answer to a scan at `seenAt`: it comes after what was seen before, it names a machine if any was seen before, and
each row whose machine it has is found by the scan -/
structure Recognised (rows : List NodeRow) (seenAt : ℤ) (reported : List Value) : Prop where
  later : ∀ row ∈ rowsIn cluster rows, ∀ t, row.lastSeenAt = some t → t < seenAt
  names : (∃ host, Reported lib reported host) ∨ ∀ row ∈ rowsIn cluster rows, row.lastSeenAt = none
  found : ∃ found, fromDiscovery lib reported cluster = .ok found ∧
    ((found.filter fun node => resolve (listed rows cluster collate) node.host = none).map (·.host)).Nodup ∧
    ∀ row ∈ listed rows cluster collate, InAnswer lib reported row →
      ∃ node ∈ found, resolve (listed rows cluster collate) node.host = some row

/-- without a host's row, the newest of the rest is the newest there was, unless none was ever seen -/
def KeepsNewest (rows : List NodeRow) (host : String) : Prop :=
  (∀ row ∈ rowsIn cluster (removeRow rows cluster host).2, row.lastSeenAt = none) ∨
    ∃ row ∈ rowsIn cluster (removeRow rows cluster host).2, Newest (rowsIn cluster rows) row

/-- a statement that changes rows -/
def Applied (o : Oracle NodeWeather) (e : NodeAct) (w : NodeWorld) : Prop := (serveNodes collate o.inner e w).2.rows ≠ w.rows

/-- what happens at one effect of an edit does not part the marks from the newest answer -/
def Steady (seenAt : ℤ) (o : Oracle NodeWeather) : Act NodeAct → Watched → Prop
  | .op (.queryNodes _), s => ∀ reported, o.inner.reported = .ok reported →
      Recognised lib collate cluster s.1.service.rows seenAt reported
  | .op (.list _), s => s.2.unread = true → o.inner.fault = .none
  | .op (.insert row), s =>
    match row.source with
    | .discovered => o.inner.fault = .none
    | .manual => Applied collate o (.insert row) s.1.service → row.cluster = cluster → ¬InAnswer lib s.2.reported row
  | .op (.touch ..), _ => o.inner.fault = .none
  | .op (.remove c host), s => Applied collate o (.remove c host) s.1.service → KeepsNewest cluster s.1.service.rows host
  | _, _ => True

/-- an edit whose effects are all steady -/
def SteadyTurn (s : Watched) (turn : Turn) : Prop :=
  Along (hear collate) (Steady lib collate cluster turn.seenAt) turn.weather (turn.edit.prog lib cfg cluster) s

end Claim

/-! ## Marks -/

section Marks

variable {lib : Library} {collate : String → String → Bool} {cluster : String} {rows : List NodeRow}
  {reported : List Value} {row : NodeRow} {seenAt : ℤ} {found : List Found} {changes : List Change}

/-- the newest rows are those in the answer -/
def Marked (lib : Library) (cluster : String) (rows : List NodeRow) (reported : List Value) : Prop :=
  ∀ row ∈ rowsIn cluster rows, Newest (rowsIn cluster rows) row ↔ InAnswer lib reported row

theorem mem_rowsIn : row ∈ rowsIn cluster rows ↔ row ∈ rows ∧ row.cluster = cluster := by simp [rowsIn]

theorem mem_listed : row ∈ listed rows cluster collate ↔ row ∈ rowsIn cluster rows := by
  rw [listed, List.mem_insertionSort, rowsIn]

theorem newest_listed : Newest (listed rows cluster collate) row ↔ Newest (rowsIn cluster rows) row := by
  simp only [Newest, mem_listed]

theorem answering_of_marked {s : Watched} (h : Marked lib cluster s.1.service.rows s.2.reported) :
    Answering lib collate cluster s := by
  intro d hd
  obtain ⟨hrow, hanswering⟩ := mem_describeAll hd
  rw [hanswering, newest_listed]
  exact h d.row (mem_listed.1 hrow)

theorem nodup_listed (h : Keyed rows) : ((listed rows cluster collate).map (·.host)).Nodup := by
  have hperm : (listed rows cluster collate).Perm (rowsIn cluster rows) := List.perm_insertionSort _ _
  rw [(hperm.map _).nodup_iff]
  refine List.Nodup.map_on ?_ (List.Nodup.filter _ h.of_map)
  intro r hr r' hr' hhost
  obtain ⟨hr, hcluster⟩ := mem_rowsIn.1 hr
  obtain ⟨hr', hcluster'⟩ := mem_rowsIn.1 hr'
  exact List.inj_on_of_nodup_map h hr hr' (Prod.ext (hcluster.trans hcluster'.symm) hhost)

/-- a row typed in that is in no answer -/
theorem marked_insert (h : Marked lib cluster rows reported) (hunseen : row.lastSeenAt = none)
    (hnot : row.cluster = cluster → ¬InAnswer lib reported row) : Marked lib cluster (rows ++ [row]) reported := by
  have hnewest : ∀ r, Newest (rowsIn cluster (rows ++ [row])) r ↔ Newest (rowsIn cluster rows) r := by
    intro r
    refine exists_congr fun t => and_congr_right fun _ => ?_
    simp only [mem_rowsIn, List.mem_append, List.mem_singleton]
    constructor
    · intro hall r' hr'
      exact hall r' ⟨.inl hr'.1, hr'.2⟩
    · rintro hall r' ⟨hr' | rfl, hcluster⟩
      · exact hall r' ⟨hr', hcluster⟩
      · simp [hunseen]
  intro r hr
  rw [hnewest]
  obtain ⟨hr, hcluster⟩ := mem_rowsIn.1 hr
  rcases List.mem_append.1 hr with hr | hr
  · exact h r (mem_rowsIn.2 ⟨hr, hcluster⟩)
  · obtain rfl := List.mem_singleton.1 hr
    refine iff_of_false ?_ (hnot hcluster)
    rintro ⟨t, ht, -⟩
    rw [hunseen] at ht
    cases ht

/-- a removal that leaves a newest row, if one -/
theorem marked_remove {host : String} (h : Marked lib cluster rows reported) (hkeeps : KeepsNewest cluster rows host) :
    Marked lib cluster (removeRow rows cluster host).2 reported := by
  have hsub : ∀ r ∈ rowsIn cluster (removeRow rows cluster host).2, r ∈ rowsIn cluster rows := by
    intro r hr
    obtain ⟨hr, hcluster⟩ := mem_rowsIn.1 hr
    exact mem_rowsIn.2 ⟨(List.mem_filter.1 hr).1, hcluster⟩
  intro r hr
  rw [← h r (hsub r hr)]
  constructor
  · rintro ⟨t, ht, hall⟩
    rcases hkeeps with hnone | ⟨kept, hkept, t', ht', hnewest⟩
    · rw [hnone r hr] at ht
      cases ht
    · refine ⟨t, ht, ?_⟩
      intro r' hr' u hu
      exact (hnewest r' hr' u hu).trans (hall kept hkept t' ht')
  · rintro ⟨t, ht, hall⟩
    exact ⟨t, ht, fun r' hr' => hall r' (hsub r' hr')⟩

/-! ### A scan -/

/-- a row after all changes of a scan -/
def refreshed (cluster : String) (seenAt : ℤ) (changes : List Change) (row : NodeRow) : NodeRow :=
  changes.foldl (fun row change => if isRow cluster change.host row then row.touched change seenAt else row) row

/-- a row's names stay, and it was seen if it was among the changes -/
theorem refreshed_spec : (refreshed cluster seenAt changes row).cluster = row.cluster ∧
    (refreshed cluster seenAt changes row).host = row.host ∧ (refreshed cluster seenAt changes row).address = row.address ∧
    (refreshed cluster seenAt changes row).lastSeenAt =
      if row.cluster = cluster ∧ row.host ∈ changes.map (·.host) then some seenAt else row.lastSeenAt := by
  induction changes generalizing row with
  | nil => simp [refreshed]
  | cons change rest ih =>
    by_cases hrow : isRow cluster change.host row = true
    · have hstep : refreshed cluster seenAt (change :: rest) row = refreshed cluster seenAt rest (row.touched change seenAt) := by
        rw [refreshed, List.foldl_cons, if_pos hrow, refreshed]
      obtain ⟨hcluster, hhost⟩ := isRow_iff.1 hrow
      obtain ⟨ihcluster, ihhost, ihaddress, ihseen⟩ := @ih (row.touched change seenAt)
      rw [hstep, ihcluster, ihhost, ihaddress, ihseen]
      refine ⟨rfl, rfl, rfl, ?_⟩
      have hchanged : row.cluster = cluster ∧ row.host ∈ (change :: rest).map (·.host) := ⟨hcluster, by simp [hhost]⟩
      refine Eq.trans ?_ (if_pos hchanged).symm
      split_ifs <;> rfl
    · have hstep : refreshed cluster seenAt (change :: rest) row = refreshed cluster seenAt rest row := by
        rw [refreshed, List.foldl_cons, if_neg hrow, refreshed]
      obtain ⟨ihcluster, ihhost, ihaddress, ihseen⟩ := @ih row
      rw [hstep, ihcluster, ihhost, ihaddress, ihseen]
      refine ⟨rfl, rfl, rfl, ?_⟩
      have hother : row.cluster = cluster → row.host ≠ change.host := by
        intro hcluster hhost
        exact hrow (isRow_iff.2 ⟨hcluster, hhost⟩)
      by_cases hcluster : row.cluster = cluster
      · simp [hcluster, hother hcluster]
      · simp [hcluster]

theorem inAnswer_refreshed : InAnswer lib reported (refreshed cluster seenAt changes row) ↔ InAnswer lib reported row := by
  obtain ⟨-, hhost, haddress, -⟩ := @refreshed_spec cluster row seenAt changes
  have hnames : names lib (refreshed cluster seenAt changes row) = names lib row := by
    simp only [names, NodeRow.at, hhost, haddress]
  rw [InAnswer, hnames, InAnswer]

/-- the rows that were seen at the newest time are those in the answer -/
theorem marked_of_seen (hseen : ∀ r ∈ rowsIn cluster rows, InAnswer lib reported r ↔ r.lastSeenAt = some seenAt)
    (hlatest : ∀ r ∈ rowsIn cluster rows, ∀ t, r.lastSeenAt = some t → t ≤ seenAt)
    (hsome : (∃ r ∈ rowsIn cluster rows, r.lastSeenAt = some seenAt) ∨ ∀ r ∈ rowsIn cluster rows, r.lastSeenAt = none) :
    Marked lib cluster rows reported := by
  intro r hr
  rw [hseen r hr]
  constructor
  · rintro ⟨t, ht, hall⟩
    rcases hsome with ⟨r', hr', hseen'⟩ | hnone
    · rw [ht, le_antisymm (hlatest r hr t ht) (hall r' hr' seenAt hseen')]
    · rw [hnone r hr] at ht
      cases ht
  · intro ht
    exact ⟨seenAt, ht, hlatest⟩

/-- what a reported host is, among the nodes found -/
theorem reported_found (h : fromDiscovery lib reported cluster = .ok found) {host : String} :
    Reported lib reported host ↔ ∃ node ∈ found, node.host = host := by
  constructor
  · rintro ⟨hne, value, hvalue, hhost⟩
    obtain ⟨nodes, hnodes, rfl⟩ := map_eq_ok.1 h
    obtain ⟨y, hy, hfound⟩ := (mapM_elements hnodes).1 _ hvalue
    obtain ⟨host', hhost', heq⟩ := map_eq_ok.1 hfound
    obtain rfl := Except.ok.inj (hhost.symm.trans hhost')
    rw [if_neg hne] at heq
    subst heq
    exact ⟨_, List.reduceOption_mem_iff.2 hy, rfl⟩
  · rintro ⟨node, hnode, rfl⟩
    obtain ⟨-, -, hne, hreported⟩ := mem_fromDiscovery h hnode
    exact ⟨hne, hreported⟩

/-- the rows once a scan's writes are through -/
def rowsScanned (rows : List NodeRow) (cluster : String) (seenAt : ℤ) (plan : Plan) : List NodeRow :=
  (rows ++ plan.added.map (scanRow cluster seenAt)).map (refreshed cluster seenAt plan.touched)

/-- **A scan** whose answer is recognised marks what is in it, and nothing else. -/
theorem marked_scanned (hkeyed : Keyed rows) (h : Recognised lib collate cluster rows seenAt reported)
    (hfound : fromDiscovery lib reported cluster = .ok found) :
    Marked lib cluster (rowsScanned rows cluster seenAt (planRefresh (listed rows cluster collate) found)) reported := by
  have hhosts := @nodup_listed collate cluster rows hkeyed
  obtain ⟨found', hfound', -, hown⟩ := h.found
  obtain rfl := Except.ok.inj (hfound.symm.trans hfound')
  -- a row of the list is touched exactly if the answer has its machine
  have htouched : ∀ row ∈ rowsIn cluster rows,
      row.host ∈ (planRefresh (listed rows cluster collate) found).touched.map (·.host) ↔ InAnswer lib reported row := by
    intro row hrow
    rw [mem_touched_hosts hhosts]
    constructor
    · rintro ⟨node, hnode, row', hresolve, hhost⟩
      obtain rfl := eq_of_host hhosts (resolve_mem hresolve).1 (mem_listed.2 hrow) hhost
      exact ⟨node.host, mem_names_of_resolve lib hresolve, (reported_found hfound).2 ⟨node, hnode, rfl⟩⟩
    · intro hanswer
      obtain ⟨node, hnode, hresolve⟩ := hown row (mem_listed.2 hrow) hanswer
      exact ⟨node, hnode, row, hresolve, rfl⟩
  have hrows : ∀ r ∈ rowsIn cluster (rowsScanned rows cluster seenAt (planRefresh (listed rows cluster collate) found)),
      (∃ row ∈ rowsIn cluster rows, ¬InAnswer lib reported r ∧ r.lastSeenAt = row.lastSeenAt) ∨
        InAnswer lib reported r ∧ r.lastSeenAt = some seenAt := by
    intro r hr
    obtain ⟨hr, hcluster⟩ := mem_rowsIn.1 hr
    obtain ⟨row, hrow, rfl⟩ := List.mem_map.1 hr
    obtain ⟨hsame, -, -, hseen⟩ := @refreshed_spec cluster row seenAt (planRefresh (listed rows cluster collate) found).touched
    rw [hsame] at hcluster
    rw [inAnswer_refreshed, hseen]
    rcases List.mem_append.1 hrow with hrow | hrow
    · have hin := mem_rowsIn.2 ⟨hrow, hcluster⟩
      by_cases hanswer : InAnswer lib reported row
      · exact .inr ⟨hanswer, if_pos ⟨hcluster, (htouched row hin).2 hanswer⟩⟩
      · refine .inl ⟨row, hin, hanswer, if_neg ?_⟩
        rintro ⟨-, hmem⟩
        exact hanswer ((htouched row hin).1 hmem)
    · obtain ⟨node, hnode, rfl⟩ := List.mem_map.1 hrow
      refine .inr ⟨⟨node.host, by simp [names, scanRow], (reported_found hfound).2 ⟨node, (List.mem_filter.1 hnode).1, rfl⟩⟩, ?_⟩
      split_ifs <;> rfl
  refine @marked_of_seen lib cluster _ reported seenAt ?_ ?_ ?_
  · intro r hr
    rcases hrows r hr with ⟨row, hrow, hnot, hsame⟩ | ⟨hanswer, hseen⟩
    · refine iff_of_false hnot ?_
      intro hseen
      exact absurd (h.later row hrow seenAt (hsame.symm.trans hseen)) (lt_irrefl seenAt)
    · exact iff_of_true hanswer hseen
  · intro r hr t ht
    rcases hrows r hr with ⟨row, hrow, -, hsame⟩ | ⟨-, hseen⟩
    · exact (h.later row hrow t (hsame.symm.trans ht)).le
    · rw [hseen] at ht
      exact (Option.some.inj ht).ge
  · by_cases hany : ∃ host, Reported lib reported host
    · left
      obtain ⟨host, hreported⟩ := hany
      obtain ⟨node, hnode, rfl⟩ := (reported_found hfound).1 hreported
      cases hresolve : resolve (listed rows cluster collate) node.host with
      | none =>
        have hadded : node ∈ (planRefresh (listed rows cluster collate) found).added := by
          rw [added_planRefresh hhosts, List.mem_filter]
          exact ⟨hnode, by simpa using hresolve⟩
        obtain ⟨hsame, -, -, hseen⟩ := @refreshed_spec cluster (scanRow cluster seenAt node) seenAt
          (planRefresh (listed rows cluster collate) found).touched
        refine ⟨_, mem_rowsIn.2 ⟨List.mem_map_of_mem (List.mem_append_right _ (List.mem_map_of_mem hadded)), hsame⟩, ?_⟩
        rw [hseen]
        split_ifs <;> rfl
      | some row =>
        have hrow := mem_listed.1 (resolve_mem hresolve).1
        have hcluster := (mem_rowsIn.1 hrow).2
        obtain ⟨hsame, -, -, hseen⟩ := @refreshed_spec cluster row seenAt
          (planRefresh (listed rows cluster collate) found).touched
        refine ⟨_, mem_rowsIn.2 ⟨List.mem_map_of_mem (List.mem_append_left _ (mem_rowsIn.1 hrow).1),
          hsame.trans hcluster⟩, ?_⟩
        rw [hseen, if_pos ⟨hcluster, (mem_touched_hosts hhosts).2 ⟨node, hnode, row, hresolve, rfl⟩⟩]
    · right
      have hnone := h.names.resolve_left hany
      intro r hr
      rcases hrows r hr with ⟨row, hrow, -, hsame⟩ | ⟨⟨host, -, hreported⟩, -⟩
      · rw [hsame, hnone row hrow]
      · exact absurd ⟨host, hreported⟩ hany

end Marks

/-! ## Edits -/

section Edits

variable {lib : Library} {cfg : NodeListConfig} {collate : String → String → Bool} {cluster path : String} {seenAt : ℤ}
  {s : Watched}

/-- the table's key, and the marks as they should be -/
structure Good (lib : Library) (cluster : String) (s : Watched) : Prop where
  keyed : Keyed s.1.service.rows
  marked : Marked lib cluster s.1.service.rows s.2.reported

/-- the same rows, and the same newest answer -/
def Kept (s s' : Watched) : Prop := s'.1.service.rows = s.1.service.rows ∧ s'.2.reported = s.2.reported

theorem Good.kept (h : Good lib cluster s) {s' : Watched} (hkept : Kept s s') : Good lib cluster s' := by
  obtain ⟨hrows, hreported⟩ := hkept
  refine ⟨?_, ?_⟩
  · rw [hrows]
    exact h.keyed
  · rw [hrows, hreported]
    exact h.marked

/-- an effect that neither asks the coordinator nor changes the rows -/
theorem kept_hear {o : Oracle NodeWeather} {e : NodeAct} (he : ∀ rows, e.rowsAfter rows = rows)
    (hquery : ∀ c, e ≠ .queryNodes c) : Kept s (hear collate o (.op e) s).2 := by
  constructor
  · rcases rows_serveNodes collate o.inner e s.1.service with hrows | hrows
    · exact hrows
    · exact hrows.trans (he _)
  · cases e with
    | queryNodes c => exact absurd rfl (hquery c)
    | _ => rfl

/-- the marks are right wherever the program ends -/
abbrev Keeps (lib : Library) (collate : String → String → Bool) (cluster : String) (seenAt : ℤ) {α : Type} (p : NodeM α)
    (s : Watched) : Prop :=
  wp (assuming (Steady lib collate cluster seenAt) (hear collate)) p (fun _ s' => Good lib cluster s') s

section Keeps

variable {α β ε : Type}

theorem keeps_bind {p : NodeM α} {f : α → NodeM β} (hp : Keeps lib collate cluster seenAt p s)
    (hf : ∀ a s, Good lib cluster s → Keeps lib collate cluster seenAt (f a) s) :
    Keeps lib collate cluster seenAt (p >>= f) s :=
  wp_bind_inv assuming_mono hp hf

theorem keeps_lift {exn : ε → Exn} {r : Except ε α} (h : Good lib cluster s) :
    Keeps lib collate cluster seenAt (lift exn r) s :=
  wp_lift (fun _ _ => h) fun _ _ => h

theorem keeps_refuse {e : Option Exn} (h : Good lib cluster s) : Keeps lib collate cluster seenAt (refuse e) s :=
  wp_refuse (fun _ => h) fun _ _ => h

theorem keeps_op {e : NodeAct} (he : ∀ rows, e.rowsAfter rows = rows) (hquery : ∀ c, e ≠ .queryNodes c)
    (h : Good lib cluster s) : Keeps lib collate cluster seenAt (op e) s :=
  fun _ _ => h.kept (kept_hear he hquery)

end Keeps

/-- reading the rows and writing the file -/
theorem keeps_writeInventory (h : Good lib cluster s) :
    Keeps lib collate cluster seenAt (writeInventory cluster path) s := by
  refine keeps_bind (keeps_bind (keeps_op (fun _ => rfl) (fun _ => NodeAct.noConfusion) h) fun _ s h => keeps_lift h) ?_
  intro listing s h
  refine keeps_bind (keeps_op (fun _ => rfl) (fun _ => NodeAct.noConfusion) h) ?_
  intro r s h
  refine keeps_bind (keeps_lift h) ?_
  intro _ s h
  exact keeps_bind (keeps_op (fun _ => rfl) (fun _ => NodeAct.noConfusion) h) fun _ s h => keeps_lift h

/-- the audit store's own effects -/
theorem good_writable (s : Watched) (h : Good lib cluster s) :
    assuming (Steady lib collate cluster seenAt) (hear collate) .writable (fun _ s' => Good lib cluster s') s :=
  fun _ _ => h

theorem good_write (entry : Drafts.AuditEntry) (s : Watched) (h : Good lib cluster s) :
    assuming (Steady lib collate cluster seenAt) (hear collate) (.write entry) (fun _ s' => Good lib cluster s') s := by
  intro o _
  have hservice : (hear collate o (.write entry) s).2.1.service = s.1.service :=
    @handle_write NodeAct NodeAct.Answer NodeWeather NodeWorld (serveNodes collate) o entry s.1
  exact h.kept ⟨congrArg NodeWorld.rows hservice, rfl⟩

theorem keeps_insert {row : NodeRow} (h : Good lib cluster s) (hmanual : row.source = .manual)
    (hunseen : row.lastSeenAt = none) : Keeps lib collate cluster seenAt (op (.insert row)) s := by
  intro o ho
  simp only [Steady, hmanual] at ho
  by_cases happlied : Applied collate o (.insert row) s.1.service
  · have hrows := (rows_serveNodes collate o.inner (.insert row) s.1.service).resolve_left happlied
    have hkeyed : Keyed (hear collate o (.op (.insert row)) s).2.1.service.rows :=
      hrows ▸ keyed_insertRow h.keyed row
    refine ⟨hkeyed, ?_⟩
    change Marked lib cluster (serveNodes collate o.inner (.insert row) s.1.service).2.rows s.2.reported
    rw [hrows, NodeAct.rowsAfter, insertRow]
    split_ifs
    · exact h.marked
    · exact marked_insert h.marked hunseen (ho happlied)
  · exact h.kept ⟨not_not.1 happlied, rfl⟩

theorem keeps_removal {host : String} (h : Good lib cluster s) :
    Keeps lib collate cluster seenAt (op (.remove cluster host)) s := by
  intro o ho
  by_cases happlied : Applied collate o (.remove cluster host) s.1.service
  · have hrows := (rows_serveNodes collate o.inner (.remove cluster host) s.1.service).resolve_left happlied
    have hkeyed : Keyed (hear collate o (.op (.remove cluster host)) s).2.1.service.rows :=
      hrows ▸ keyed_removeRow h.keyed
    refine ⟨hkeyed, ?_⟩
    change Marked lib cluster (serveNodes collate o.inner (.remove cluster host) s.1.service).2.rows s.2.reported
    rw [hrows]
    exact marked_remove h.marked (ho happlied)
  · exact h.kept ⟨not_not.1 happlied, rfl⟩

theorem keeps_add {principal : Audit.Principal} {host address role reason : String} (h : Good lib cluster s) :
    Keeps lib collate cluster seenAt (Nodes.add lib cfg principal cluster host address role reason) s := by
  refine keeps_bind (keeps_refuse h) ?_
  intro _ s h
  refine keeps_bind (keeps_lift h) ?_
  intro path s h
  refine keeps_bind (keeps_lift h) ?_
  intro entry s h
  refine wp_audited_inv assuming_mono good_writable good_write ?_ h
  intro s h
  refine keeps_bind (keeps_insert h rfl rfl) ?_
  intro r s h
  refine keeps_bind (keeps_lift h) ?_
  intro row s h
  exact keeps_bind (keeps_writeInventory h) fun _ s h => h

theorem keeps_remove {principal : Audit.Principal} {host reason : String} (h : Good lib cluster s) :
    Keeps lib collate cluster seenAt (Nodes.remove cfg principal cluster host reason) s := by
  refine keeps_bind (keeps_refuse h) ?_
  intro _ s h
  refine keeps_bind (keeps_lift h) ?_
  intro path s h
  refine keeps_bind (wp_audited_inv assuming_mono good_writable good_write ?_ h) fun _ s h => h
  intro s h
  refine keeps_bind (keeps_removal h) ?_
  intro r s h
  refine keeps_bind (keeps_lift h) ?_
  intro removed s h
  exact keeps_bind (keeps_refuse h) fun _ s h => keeps_writeInventory h

/-! ### Through a scan -/

theorem change_rows (w : NodeWorld) (rows : List NodeRow) : (w.change rows).rows = rows := rfl

/-- the additions of a plan, over a store that does not fail -/
theorem wp_addAll_rows {added : List Found} (hdistinct : (added.map (·.host)).Nodup)
    (hnew : ∀ node ∈ added, ∀ row ∈ s.1.service.rows, row.cluster = cluster → row.host ≠ node.host) :
    wp (assuming (Steady lib collate cluster seenAt) (hear collate)) (addAll cluster seenAt added)
      (fun x s' => x = .ok () ∧ s'.1.service.rows = s.1.service.rows ++ added.map (scanRow cluster seenAt) ∧ s'.2 = s.2)
      s := by
  induction added generalizing s with
  | nil => exact ⟨rfl, (List.append_nil _).symm, rfl⟩
  | cons node rest ih =>
    rw [List.map_cons, List.nodup_cons] at hdistinct
    have hinsert := @insertRow_new s.1.service.rows (scanRow cluster seenAt node) (hnew node List.mem_cons_self)
    rw [addAll_cons, wp_bind]
    intro o ho
    have hfault : o.inner.fault = .none := ho
    have hserved : serveNodes collate o.inner (.insert (scanRow cluster seenAt node)) s.1.service =
        (.ok (scanRow cluster seenAt node), s.1.service.change (s.1.service.rows ++ [scanRow cluster seenAt node])) := by
      rw [serveNodes, hfault, Fault.strike, hinsert]
    change wp _ (lift scanError (serveNodes collate o.inner (.insert (scanRow cluster seenAt node)) s.1.service).1 >>= _) _
      (⟨⟨(serveNodes collate o.inner (.insert (scanRow cluster seenAt node)) s.1.service).2, s.1.log⟩, s.2⟩ : Watched)
    rw [hserved]
    change wp _ (addAll cluster seenAt rest) _ _
    have hrest := @ih (⟨⟨s.1.service.change (s.1.service.rows ++ [scanRow cluster seenAt node]), s.1.log⟩, s.2⟩ : Watched)
      hdistinct.2 ?_
    · refine wp_mono assuming_mono ?_ hrest
      rintro x s' ⟨hx, hrows, hheard⟩
      refine ⟨hx, hrows.trans ?_, hheard⟩
      rw [change_rows, List.map_cons, List.append_assoc, List.singleton_append]
    · intro node' hnode' row hrow hcluster hhost
      rw [change_rows] at hrow
      rcases List.mem_append.1 hrow with hrow | hrow
      · exact hnew node' (List.mem_cons_of_mem node hnode') row hrow hcluster hhost
      · obtain rfl := List.mem_singleton.1 hrow
        exact hdistinct.1 (List.mem_map.2 ⟨node', hnode', hhost.symm⟩)

theorem wp_touchAll_rows {changes : List Change} :
    wp (assuming (Steady lib collate cluster seenAt) (hear collate)) (touchAll cluster seenAt changes)
      (fun x s' => x = .ok () ∧ s'.1.service.rows = s.1.service.rows.map (refreshed cluster seenAt changes) ∧ s'.2 = s.2)
      s := by
  induction changes generalizing s with
  | nil => exact ⟨rfl, (List.map_id _).symm, rfl⟩
  | cons change rest ih =>
    rw [touchAll, wp_bind]
    intro o ho
    have hfault : o.inner.fault = .none := ho
    have hserved : serveNodes collate o.inner (.touch cluster change seenAt) s.1.service =
        (.ok (), s.1.service.change (touchRow s.1.service.rows cluster change seenAt)) := by
      rw [serveNodes, hfault, Fault.strike]
    change wp _ (lift .upstreamUnavailable (serveNodes collate o.inner (.touch cluster change seenAt) s.1.service).1 >>= _) _
      (⟨⟨(serveNodes collate o.inner (.touch cluster change seenAt) s.1.service).2, s.1.log⟩, s.2⟩ : Watched)
    rw [hserved]
    change wp _ (touchAll cluster seenAt rest) _ _
    refine wp_mono assuming_mono ?_ (@ih
      (⟨⟨s.1.service.change (touchRow s.1.service.rows cluster change seenAt), s.1.log⟩, s.2⟩ : Watched))
    rintro x s' ⟨hx, hrows, hheard⟩
    refine ⟨hx, hrows.trans ?_, hheard⟩
    rw [change_rows, touchRow, List.map_map]
    rfl

theorem keyed_scanned (h : Keyed s.1.service.rows) {plan : Plan} (hdistinct : (plan.added.map (·.host)).Nodup)
    (hnew : ∀ node ∈ plan.added, ∀ row ∈ s.1.service.rows, row.cluster = cluster → row.host ≠ node.host) :
    Keyed (rowsScanned s.1.service.rows cluster seenAt plan) := by
  have hkeys : (rowsScanned s.1.service.rows cluster seenAt plan).map (fun row => (row.cluster, row.host)) =
      (s.1.service.rows ++ plan.added.map (scanRow cluster seenAt)).map fun row => (row.cluster, row.host) := by
    rw [rowsScanned, List.map_map]
    refine List.map_congr_left ?_
    intro row _
    obtain ⟨hcluster, hhost, -, -⟩ := @refreshed_spec cluster row seenAt plan.touched
    exact Prod.ext hcluster hhost
  rw [Keyed, hkeys, List.map_append, List.map_map, List.nodup_append]
  refine ⟨h, ?_, ?_⟩
  · have hsplit : plan.added.map ((fun row => (row.cluster, row.host)) ∘ scanRow cluster seenAt) =
        (plan.added.map (·.host)).map fun host => (cluster, host) := by
      rw [List.map_map]
      rfl
    rw [hsplit]
    exact hdistinct.map (Prod.mk_right_injective cluster)
  · rintro key hkey key' hkey' rfl
    obtain ⟨row, hrow, rfl⟩ := List.mem_map.1 hkey
    obtain ⟨node, hnode, heq⟩ := List.mem_map.1 hkey'
    obtain ⟨hcluster, hhost⟩ := Prod.mk.inj heq
    exact hnew node hnode row hrow hcluster.symm hhost.symm

theorem keeps_scan {principal : Audit.Principal} (h : Good lib cluster s) :
    Keeps lib collate cluster seenAt (Nodes.scan lib cfg principal cluster seenAt) s := by
  refine keeps_bind (keeps_refuse h) ?_
  intro _ s h
  refine keeps_bind (keeps_lift h) ?_
  intro path s h
  refine keeps_bind (keeps_refuse h) ?_
  intro _ s h
  rw [Keeps, wp_bind]
  intro o ho
  -- the answer, or none
  change wp _ (lift queryExn o.inner.reported >>= _) _ (⟨s.1, s.2.after o (.op (.queryNodes cluster))⟩ : Watched)
  rw [wp_bind]
  cases hreported : o.inner.reported with
  | error e =>
    have hsame : s.2.after o (.op (.queryNodes cluster)) = s.2 := by rw [Heard.after, hreported]
    rw [hsame]
    exact h
  | ok reported =>
    have hafter : s.2.after o (.op (.queryNodes cluster)) = ⟨reported, true⟩ := by rw [Heard.after, hreported]
    have hrecognised : Recognised lib collate cluster s.1.service.rows seenAt reported := ho reported hreported
    rw [hafter]
    change wp _ (lift _ (fromDiscovery lib reported cluster) >>= _) _ _
    obtain ⟨found, hfound, honce, -⟩ := hrecognised.found
    rw [hfound]
    change wp _ (rowsOf cluster >>= _) _ _
    rw [rowsOf, wp_bind, wp_bind]
    intro o' ho'
    have hfault : o'.inner.fault = .none := ho' rfl
    have hserved : serveNodes collate o'.inner (.list cluster) s.1.service =
        (.ok ⟨listed s.1.service.rows cluster collate, s.1.service.version⟩, s.1.service) := by
      rw [serveNodes, hfault, Fault.strike]
    change wp _ (lift .upstreamUnavailable (serveNodes collate o'.inner (.list cluster) s.1.service).1) _
      (⟨⟨(serveNodes collate o'.inner (.list cluster) s.1.service).2, s.1.log⟩, ⟨reported, false⟩⟩ : Watched)
    rw [hserved]
    -- the plan, and its writes
    have hhosts := @nodup_listed collate cluster s.1.service.rows h.keyed
    have hdistinct : ((planRefresh (listed s.1.service.rows cluster collate) found).added.map (·.host)).Nodup := by
      rw [added_planRefresh hhosts]
      exact honce
    have hnew : ∀ node ∈ (planRefresh (listed s.1.service.rows cluster collate) found).added, ∀ row ∈ s.1.service.rows,
        row.cluster = cluster → row.host ≠ node.host := by
      intro node hnode row hrow hcluster
      rw [added_planRefresh hhosts, List.mem_filter, decide_eq_true_eq, resolve_eq_none] at hnode
      exact (hnode.2 row (mem_listed.2 (mem_rowsIn.2 ⟨hrow, hcluster⟩))).1
    have hmarked := @marked_scanned lib collate cluster s.1.service.rows reported seenAt found h.keyed hrecognised hfound
    have hkeyed := @keyed_scanned cluster seenAt s h.keyed _ hdistinct hnew
    dsimp only [lift, onOk]
    change wp _ (addAll cluster seenAt _ >>= _) _ _
    rw [wp_bind]
    refine wp_mono assuming_mono ?_ (wp_addAll_rows hdistinct hnew)
    rintro x s₁ ⟨rfl, hrows₁, hheard₁⟩
    dsimp only [onOk]
    rw [wp_bind]
    refine wp_mono assuming_mono ?_ wp_touchAll_rows
    rintro x s₂ ⟨rfl, hrows₂, hheard₂⟩
    dsimp only [onOk]
    have hgood : Good lib cluster s₂ := by
      rw [hrows₁] at hrows₂
      rw [hheard₁] at hheard₂
      refine ⟨?_, ?_⟩
      · rw [hrows₂]
        exact hkeyed
      · rw [hrows₂, hheard₂]
        exact hmarked
    exact keeps_bind (keeps_writeInventory hgood) fun _ s h => h

/-- **One edit** that is steady keeps the marks. -/
theorem turn_good {turn : Turn} (h : Good lib cluster s) (hsteady : SteadyTurn lib cfg collate cluster s turn) :
    Good lib cluster (afterTurn lib cfg collate cluster s turn) := by
  refine wp_along (Q := fun _ s' => Good lib cluster s') hsteady ?_
  obtain ⟨edit, weather⟩ := turn
  cases edit with
  | add principal host address role reason => exact keeps_bind (keeps_add h) fun _ s h => h
  | remove principal host reason => exact keeps_bind (keeps_remove h) fun _ s h => h
  | scan principal seenAt => exact keeps_bind (keeps_scan h) fun _ s h => h

/-- **A run** of steady edits that begins with no rows keeps the marks. -/
theorem run_good {turns : List Turn} (hkeyed : Keyed s.1.service.rows)
    (hempty : ∀ row ∈ s.1.service.rows, row.cluster ≠ cluster)
    (h : Meets (afterTurn lib cfg collate cluster) (SteadyTurn lib cfg collate cluster) s turns) :
    Good lib cluster (run (afterTurn lib cfg collate cluster) s turns) := by
  have hstart : Good lib cluster s := by
    refine ⟨hkeyed, ?_⟩
    intro row hrow
    exact absurd (mem_rowsIn.1 hrow).2 (hempty row (mem_rowsIn.1 hrow).1)
  exact run_inv (Good lib cluster) (fun s turn hs hsteady => turn_good hs hsteady) h hstart

/-- **Answering means answering** after every run of steady edits that begins with no rows. -/
theorem answering_means_answering {turns : List Turn} (hkeyed : Keyed s.1.service.rows)
    (hempty : ∀ row ∈ s.1.service.rows, row.cluster ≠ cluster)
    (h : Meets (afterTurn lib cfg collate cluster) (SteadyTurn lib cfg collate cluster) s turns) :
    Answering lib collate cluster (run (afterTurn lib cfg collate cluster) s turns) :=
  answering_of_marked (run_good hkeyed hempty h).marked

/-- **Nobody need listen**: the marks of the service's own run, against the newest answer of the same run heard. -/
theorem marks_served {turns : List Turn} (hkeyed : Keyed s.1.service.rows)
    (hempty : ∀ row ∈ s.1.service.rows, row.cluster ≠ cluster)
    (h : Meets (afterTurn lib cfg collate cluster) (SteadyTurn lib cfg collate cluster) s turns) :
    ∀ d ∈ describeAll (listed (run (editSite lib cfg collate cluster) s.1 turns).service.rows cluster collate),
      d.answering = true ↔ InAnswer lib (run (afterTurn lib cfg collate cluster) s turns).2.reported d.row := by
  rw [← run_site]
  exact answering_of_marked (run_good hkeyed hempty h).marked

end Edits

/-! ## An answer that names no machine -/

section Sample

open TrinoManagement.Nodes.Sample

instance (lib : Library) (reported : List Value) (host : String) : Decidable (Reported lib reported host) :=
  inferInstanceAs (Decidable (host ≠ "" ∧ ∃ row ∈ reported, hostOf lib (row.get "http_uri") = .ok host))

instance (lib : Library) (reported : List Value) (row : NodeRow) : Decidable (InAnswer lib reported row) :=
  inferInstanceAs (Decidable (∃ host ∈ names lib row, Reported lib reported host))

def nothingYet : Watched := (⟨⟨[], 0, fun _ => none⟩, []⟩, ⟨[], false⟩)

/-- a scan with this answer -/
def scanAt (seenAt : ℤ) (reported : List Value) : Turn := ⟨.scan admin seenAt, List.replicate 8 ⟨true, ⟨.none, .ok reported⟩⟩⟩

def twoNodes : List Value := [node "http://10.0.0.1:8080" true, node "http://10.0.0.2:8080" false]

/-- typed in while it is down -/
def addW9 : Turn := ⟨.add admin "w9" "10.0.0.9" "worker" "down for a disk swap", []⟩

/-- nothing fails, the one answer comes first and has two nodes, and what is typed in is not among them -/
def Undisturbed (o : Oracle NodeWeather) : Act NodeAct → Watched → Bool
  | .op (.queryNodes _), s => s.1.service.rows.isEmpty && decide (o.inner.reported = .ok twoNodes)
  | .op (.insert row), s =>
    match row.source with
    | .discovered => o.inner.fault = .none
    | .manual => !decide (InAnswer lib s.2.reported row)
  | .op (.remove ..), _ => false
  | .op _, _ => o.inner.fault = .none
  | .writable, _ | .write _, _ => true

theorem recognised_first {rows : List NodeRow} (hrows : rows = []) (seenAt : ℤ) :
    Recognised lib collate "a" rows seenAt twoNodes := by
  subst hrows
  refine ⟨fun row hrow => absurd hrow List.not_mem_nil, .inr fun row hrow => absurd hrow List.not_mem_nil, ?_⟩
  refine ⟨[⟨"a", "10.0.0.1", "10.0.0.1", .coordinator, none, none, none⟩,
    ⟨"a", "10.0.0.2", "10.0.0.2", .worker, none, none, none⟩], by decide +kernel, by decide +kernel, ?_⟩
  intro row hrow
  exact absurd hrow List.not_mem_nil

theorem steady_of_undisturbed (seenAt : ℤ) {o : Oracle NodeWeather} {a : Act NodeAct} {s : Watched}
    (h : Undisturbed o a s = true) : Steady lib collate "a" seenAt o a s := by
  cases a with
  | writable => trivial
  | write entry => trivial
  | op e =>
    cases e with
    | queryNodes c =>
      intro reported hreported
      simp only [Undisturbed, Bool.and_eq_true, List.isEmpty_iff, decide_eq_true_eq] at h
      obtain rfl := Except.ok.inj (hreported.symm.trans h.2)
      exact recognised_first h.1 seenAt
    | list c => exact fun _ => by simpa [Undisturbed] using h
    | touch c change at' =>
      have hfault : o.inner.fault = .none := by simpa [Undisturbed] using h
      exact hfault
    | remove c host => cases h
    | writeTemporary path written => trivial
    | replace path => trivial
    | insert row =>
      simp only [Undisturbed] at h
      simp only [Steady]
      cases hsource : row.source with
      | discovered => simpa [hsource] using h
      | manual => exact fun _ _ => by simpa [hsource] using h

theorem answering_w9 :
    Answering lib collate "a" (run (afterTurn lib cfg collate "a") nothingYet [scanAt 7 twoNodes, addW9]) ∧
      (describeAll (listed (run (afterTurn lib cfg collate "a") nothingYet [scanAt 7 twoNodes, addW9]).1.service.rows "a"
        collate)).map (fun d => (d.row.host, d.answering)) = [("10.0.0.1", true), ("10.0.0.2", true), ("w9", false)] := by
  have hscan : Along (hear collate) (fun o a s => Undisturbed o a s = true) (scanAt 7 twoNodes).weather
      ((scanAt 7 twoNodes).edit.prog lib cfg "a") nothingYet := by decide +kernel
  have hadd : Along (hear collate) (fun o a s => Undisturbed o a s = true) addW9.weather (addW9.edit.prog lib cfg "a")
      (afterTurn lib cfg collate "a" nothingYet (scanAt 7 twoNodes)) := by decide +kernel
  refine ⟨answering_means_answering (s := nothingYet) List.nodup_nil (fun row hrow => absurd hrow List.not_mem_nil) ?_, ?_⟩
  · exact ⟨along_mono hscan fun _ _ _ => steady_of_undisturbed 7,
      along_mono hadd fun _ _ _ => steady_of_undisturbed addW9.seenAt, trivial⟩
  · decide +kernel

/-- **Still answering.** The second scan is answered with no machine at all. -/
theorem all_still_answering :
    (describeAll (listed (run (afterTurn lib cfg collate "a") nothingYet [scanAt 7 twoNodes, scanAt 8 []]).1.service.rows "a"
        collate)).map (fun d => (d.row.host, d.answering)) = [("10.0.0.1", true), ("10.0.0.2", true)] ∧
      ¬Answering lib collate "a" (run (afterTurn lib cfg collate "a") nothingYet [scanAt 7 twoNodes, scanAt 8 []]) := by
  refine ⟨by decide +kernel, ?_⟩
  intro h
  have hmarked := h ⟨⟨"a", "10.0.0.2", "10.0.0.2", .worker, .discovered, none, "tms-scan", none, none, some 7⟩, true, false⟩
    (by decide +kernel)
  exact absurd (hmarked.1 rfl) (by decide +kernel)

end Sample

end TrinoManagement.Marks
