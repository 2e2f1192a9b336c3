/-
Do concurrent edits of one node list leave the file that the table asks for?

An edit changes rows, reads them all back, writes them beside the file and moves that into place. Nothing keeps two edits
apart: between the read and the move of one, another may have changed the rows, read them and moved its own.

- `Turn`: what one effect of an edit can do to the table, to the files and to the edit's phase.
- `Course`: the file is of the present rows, or an edit under way still owes them to it; or an edit is bound to fail. Two
  edits share one temporary file, so of two that stand before their moves at once only one can return.
- `converge`: from any table and any files, in every interleaving in which no move puts older rows over newer ones, the
  file says what the table says once every edit has returned.
- `overtaken`: two nodes are added, and the slower edit moves its older list over the other's.
-/
import Mathlib.Tactic
import TrinoManagement.Core.Pool
import TrinoManagement.Core.Run
import TrinoManagement.Fleet.NodeService
import TrinoManagement.Scenarios.InStep

namespace TrinoManagement.Nodes

open TrinoManagement.Guard
open TrinoManagement.Run (Meets run run_inv)
open TrinoManagement.Service (Exn)

/-! ## Edits of one cluster -/

section Edits

variable (lib : Library) (cfg : NodeListConfig) (collate : String → String → Bool) (cluster : String)

/-- any number of edits of one cluster, one effect at a time -/
def editsOf : Pool.System Edit (Act NodeAct) (Answer NodeAct.Answer) Exn Unit (Oracle NodeWeather) Empty (Site NodeWorld)
    Ghost where
  program edit := edit.prog lib cfg cluster
  protocol _ := guarded (contract lib cfg cluster)
  fresh := .fresh
  handle := handle (serveNodes collate)
  spawned _ site := site
  outside _ site := site

/-- the edits, the table and the files -/
abbrev EditState :=
  Pool.State Edit (Act NodeAct) (Answer NodeAct.Answer) Exn Unit (Site NodeWorld) Ghost

/-- a table and files as the edits find them: a file that does not say what the table says is of an earlier time -/
def found (rows : List NodeRow) (files : String → Option String) : NodeWorld where
  rows := rows
  version := 1
  files path := (files path).map fun text =>
    ⟨text, if text = renderInventory cluster (listed rows cluster collate) then 1 else 0⟩

end Edits

/-- what is to be moved to `path` was not read before what is there, with a change of the table in between -/
def Newer (w : NodeWorld) (path : String) : Prop :=
  ∀ moved ∈ w.files (temporary path), ∀ inPlace ∈ w.files path, inPlace.asOf ≤ moved.asOf

instance (w : NodeWorld) (path : String) : Decidable (Newer w path) :=
  inferInstanceAs (Decidable (∀ moved ∈ w.files (temporary path), ∀ inPlace ∈ w.files path, inPlace.asOf ≤ moved.asOf))

/-- no move puts older rows over newer ones -/
def NewerOver (_ : Edit) (site : Site NodeWorld) (_ : Ghost) : Act NodeAct → Prop
  | .op (.replace path) => Newer site.service path
  | _ => True

instance (edit : Edit) (site : Site NodeWorld) (g : Ghost) : (a : Act NodeAct) → Decidable (NewerOver edit site g a)
  | .op (.replace path) => inferInstanceAs (Decidable (Newer site.service path))
  | .op (.list _) | .op (.insert _) | .op (.touch ..) | .op (.remove ..) | .op (.queryNodes _)
  | .op (.writeTemporary ..) | .writable | .write _ => isTrue trivial

/-! ## One effect -/

section Turns

variable (collate : String → String → Bool) (cluster path : String)

/-- what an effect does if it succeeds, and to which phase it brings the edit -/
inductive Turn (w : NodeWorld) (g : Ghost) : NodeWorld → Ghost → Prop
  | failed {w' : NodeWorld} {g' : Ghost} (hfailed : g'.failed = true) : Turn w g w' g'
  | kept {g' : Ghost} (hphase : g'.phase = g.phase) : Turn w g w g'
  | changed {g' : Ghost} (rows : List NodeRow) (hopen : g.phase.Open) (hphase : g'.phase = .changed) :
      Turn w g (w.change rows) g'
  | listed {g' : Ghost} (hopen : g.phase.Open) (hphase : g'.phase = .read ⟨listed w.rows cluster collate, w.version⟩) :
      Turn w g w g'
  | wrote {g' : Ghost} (listing : Listing) (hread : g.phase = .read listing) (hphase : g'.phase = .wrote listing) :
      Turn w g { w with files := Function.update w.files (temporary path) (some (listing.written cluster)) } g'
  | moved {g' : Ghost} (listing : Listing) (written : Written) (hwrote : g.phase = .wrote listing)
      (hstands : w.files (temporary path) = some written) (hnewer : Newer w path) (hphase : g'.phase = .moved) :
      Turn w g
        { w with files := Function.update (Function.update w.files path (some written)) (temporary path) none } g'

variable {lib : Library} {cfg : NodeListConfig} {collate cluster path} {w : NodeWorld} {g : Ghost}

theorem turn_serve (hpath : clusterOr404 cfg cluster = .ok path) {o : NodeWeather} {e : NodeAct}
    (hok : Permitted lib cfg cluster g e) (hnewer : ∀ p, e = .replace p → Newer w p) :
    Turn collate cluster path w g (serveNodes collate o e w).2 (g.after e (serveNodes collate o e w).1) := by
  cases e with
  | list c =>
    obtain ⟨rfl, hopen⟩ := hok
    cases hfault : o.fault with
    | none =>
      simp only [serveNodes, hfault, Fault.strike]
      exact .listed hopen rfl
    | failed m | lost m =>
      simp only [serveNodes, hfault, Fault.strike]
      exact .failed rfl
  | insert row =>
    obtain ⟨-, hopen⟩ := hok
    cases hfault : o.fault with
    | none =>
      simp only [serveNodes, hfault, Fault.strike]
      by_cases hany : w.rows.any (isRow row.cluster row.host) = true
      · rw [insertRow, if_pos hany]
        exact .failed rfl
      · rw [insertRow, if_neg hany]
        exact .changed _ hopen rfl
    | failed m | lost m =>
      simp only [serveNodes, hfault, Fault.strike]
      exact .failed rfl
  | touch c change seenAt =>
    obtain ⟨-, hopen⟩ := hok
    cases hfault : o.fault with
    | none =>
      simp only [serveNodes, hfault, Fault.strike]
      exact .changed _ hopen rfl
    | failed m | lost m =>
      simp only [serveNodes, hfault, Fault.strike]
      exact .failed rfl
  | remove c host =>
    obtain ⟨-, hopen⟩ := hok
    cases hfault : o.fault with
    | none =>
      simp only [serveNodes, hfault, Fault.strike]
      by_cases hany : w.rows.any (isRow c host) = true
      · rw [removeRow, hany]
        exact .changed _ hopen rfl
      · rw [removeRow_absent hany, change_same]
        exact .kept rfl
    | failed m | lost m =>
      simp only [serveNodes, hfault, Fault.strike]
      exact .failed rfl
  | queryNodes c =>
    simp only [serveNodes]
    cases o.reported with
    | ok rows => exact .kept rfl
    | error m => exact .failed rfl
  | writeTemporary p written =>
    obtain ⟨hp, listing, hphase, rfl⟩ := hok
    obtain rfl := Except.ok.inj (hpath.symm.trans hp)
    cases hfault : o.fault with
    | none =>
      simp only [serveNodes, hfault, Fault.strike, Ghost.after, hphase]
      exact .wrote listing hphase rfl
    | failed m | lost m =>
      simp only [serveNodes, hfault, Fault.strike]
      exact .failed rfl
  | replace p =>
    obtain ⟨hp, listing, hphase⟩ := hok
    obtain rfl := Except.ok.inj (hpath.symm.trans hp)
    cases hfault : o.fault with
    | none =>
      cases hstands : w.files (temporary path) with
      | none =>
        simp only [serveNodes, hfault, hstands]
        exact .failed rfl
      | some written =>
        simp only [serveNodes, hfault, hstands]
        exact .moved listing written hphase hstands (hnewer path rfl) rfl
    | failed m | lost m =>
      simp only [serveNodes, hfault]
      exact .failed rfl

end Turns

/-! ## Who stands before a move -/

/-- the temporary file is written and not yet moved -/
def Phase.waits : Phase → Bool
  | .wrote _ => true
  | .free | .changed | .read _ | .moved => false

theorem Phase.Open.waits {phase : Phase} (h : phase.Open) : phase.waits = false := by
  cases phase with
  | free | changed | read _ | moved => rfl
  | wrote _ => exact absurd h id

/-- how many edits stand before their move -/
def waiting (gs : List Ghost) : ℕ := gs.countP fun g => g.phase.waits

/-- how many of them the temporary file is there for -/
def standing (w : NodeWorld) (path : String) : ℕ := if (w.files (temporary path)).isSome then 1 else 0

section Lists

variable {gs : List Ghost} {i : ℕ} {g g' : Ghost}

theorem mem_set_of_ne (hi : gs[i]? = some g) {other : Ghost} (hother : other ∈ gs) (hne : other ≠ g) :
    other ∈ gs.set i g' := by
  obtain ⟨j, hj⟩ := List.mem_iff_getElem?.1 hother
  have hij : i ≠ j := by
    intro heq
    subst heq
    exact hne (Option.some.inj (hj.symm.trans hi))
  exact List.mem_iff_getElem?.2 ⟨j, by rw [List.getElem?_set_ne hij]; exact hj⟩

theorem mem_set_new (hi : gs[i]? = some g) : g' ∈ gs.set i g' :=
  List.mem_set (List.getElem?_eq_some_iff.1 hi).1 g'

theorem waiting_set (hi : gs[i]? = some g) :
    waiting (gs.set i g') + g.phase.waits.toNat = waiting gs + g'.phase.waits.toNat := by
  obtain ⟨hlt, hg⟩ := List.getElem?_eq_some_iff.1 hi
  have hpos : g.phase.waits = true → 0 < gs.countP fun g => g.phase.waits := by
    intro hwaits
    exact List.countP_pos_iff.2 ⟨g, List.mem_of_getElem? hi, hwaits⟩
  rw [waiting, waiting, List.countP_set hlt, hg]
  cases hwaits : g.phase.waits with
  | false => cases g'.phase.waits <;> simp
  | true =>
    have := hpos hwaits
    cases g'.phase.waits <;> simp <;> omega

theorem not_waits (h : waiting gs = 0) {other : Ghost} (hother : other ∈ gs) : other.phase.waits = false := by
  have hnot := List.countP_eq_zero.1 h other hother
  simpa using hnot

end Lists

/-! ## Dates -/

section Dates

variable (collate : String → String → Bool) (cluster path : String)

/-- of no later than now, and true of the present rows unless the table has changed since -/
structure Dated (P : List NodeRow → Prop) (w : NodeWorld) (asOf : ℕ) : Prop where
  le : asOf ≤ w.version
  now : asOf = w.version → P w.rows

theorem Dated.change {P : List NodeRow → Prop} {w : NodeWorld} {asOf : ℕ} (h : Dated P w asOf) (rows : List NodeRow) :
    Dated P (w.change rows) asOf := by
  by_cases hrows : rows = w.rows
  · rw [hrows, change_same]
    exact h
  · have hversion : (w.change rows).version = w.version + 1 := if_neg hrows
    have hle := h.le
    refine ⟨by omega, ?_⟩
    intro hnow
    omega

/-- the rows an edit has read -/
abbrev ListingDated (w : NodeWorld) (listing : Listing) : Prop :=
  Dated (fun rows => listing.rows = listed rows cluster collate) w listing.asOf

abbrev FileDated (w : NodeWorld) (file : Written) : Prop :=
  Dated (fun rows => file.text = renderInventory cluster (listed rows cluster collate)) w file.asOf

/-- what an edit has read is dated; what it has written stands in the temporary file -/
def Fair (w : NodeWorld) : Phase → Prop
  | .read listing => ListingDated collate cluster w listing
  | .wrote listing => ListingDated collate cluster w listing ∧ w.files (temporary path) = some (listing.written cluster)
  | .free | .changed | .moved => True

/-- an edit that returns from here has still to move the rows of the table's `version`, or later ones -/
def Phase.Owes (version : ℕ) : Phase → Prop
  | .free | .changed => True
  | .read listing | .wrote listing => listing.asOf = version
  | .moved => False

variable {collate cluster path} {w w' : NodeWorld}

theorem fileDated_written {listing : Listing} (h : ListingDated collate cluster w listing) :
    FileDated collate cluster w (listing.written cluster) := by
  refine ⟨h.le, ?_⟩
  intro hnow
  rw [Listing.written, h.now hnow]

theorem Fair.mono {phase : Phase} (h : Fair collate cluster path w phase)
    (hdated : ∀ listing, ListingDated collate cluster w listing → ListingDated collate cluster w' listing)
    (htemporary : phase.waits = true → w'.files (temporary path) = w.files (temporary path)) :
    Fair collate cluster path w' phase := by
  cases phase with
  | free | changed | moved => trivial
  | read listing => exact hdated listing h
  | wrote listing => exact ⟨hdated listing h.1, (htemporary rfl).trans h.2⟩

end Dates

/-! ## The invariant -/

section Course

variable (idle : Prop) (collate : String → String → Bool) (cluster path : String)

/-- an edit has failed, or one of those that stand before their moves will find no file to move -/
def Doomed (w : NodeWorld) (gs : List Ghost) : Prop :=
  (∃ g ∈ gs, g.failed = true) ∨ standing w path < waiting gs

/-- the file is of the present rows, or an edit has still to bring them; `idle`, where it may say anything before the first -/
structure Settling (w : NodeWorld) (gs : List Ghost) : Prop where
  room : waiting gs ≤ standing w path
  fair : ∀ g ∈ gs, Fair collate cluster path w g.phase
  file : ∀ file ∈ w.files path, FileDated collate cluster w file
  due : (idle ∧ gs = []) ∨ (∃ file ∈ w.files path, file.asOf = w.version) ∨ ∃ g ∈ gs, g.phase.Owes w.version

def Course (w : NodeWorld) (gs : List Ghost) : Prop := Doomed path w gs ∨ Settling idle collate cluster path w gs

variable {idle collate cluster path} {w w' : NodeWorld} {gs : List Ghost} {i : ℕ} {g g' : Ghost}

theorem standing_le (w : NodeWorld) (path : String) : standing w path ≤ 1 := by
  unfold standing
  split_ifs <;> omega

theorem standing_of_some {written : Written} (h : w.files (temporary path) = some written) : standing w path = 1 := by
  rw [standing, h]
  rfl

theorem standing_of_none (h : w.files (temporary path) = none) : standing w path = 0 := by
  rw [standing, h]
  rfl

/-- how the two counts go on: a write counts on both sides at most once, a move takes one from each -/
theorem Turn.counts (hi : gs[i]? = some g) (hturn : Turn collate cluster path w g w' g') : g'.failed = true ∨
    (standing w' path = standing w path ∧ waiting (gs.set i g') = waiting gs) ∨
    (standing w' path = 1 ∧ waiting (gs.set i g') = waiting gs + 1) ∨
    standing w path = 1 ∧ standing w' path = 0 ∧ waiting (gs.set i g') + 1 = waiting gs := by
  have hset : waiting (gs.set i g') + g.phase.waits.toNat = waiting gs + g'.phase.waits.toNat := waiting_set hi
  cases hturn with
  | failed hfailed => exact .inl hfailed
  | kept hphase =>
    rw [hphase] at hset
    exact .inr (.inl ⟨rfl, Nat.add_right_cancel hset⟩)
  | changed rows hopen hphase =>
    rw [hphase, hopen.waits] at hset
    exact .inr (.inl ⟨rfl, hset⟩)
  | listed hopen hphase =>
    rw [hphase, hopen.waits] at hset
    exact .inr (.inl ⟨rfl, hset⟩)
  | wrote listing hread hphase =>
    rw [hphase, hread] at hset
    exact .inr (.inr (.inl ⟨standing_of_some (Function.update_self _ _ _), hset⟩))
  | moved listing written hwrote hstands hnewer hphase =>
    rw [hphase, hwrote] at hset
    exact .inr (.inr (.inr ⟨standing_of_some hstands, standing_of_none (Function.update_self _ _ _), hset⟩))

/-- an edit that is bound to fail stays so -/
theorem Doomed.turn (h : Doomed path w gs) (hi : gs[i]? = some g) (hfailed : g.failed = false)
    (hturn : Turn collate cluster path w g w' g') : Doomed path w' (gs.set i g') := by
  rcases h with ⟨other, hother, hfail⟩ | hcount
  · have hne : other ≠ g := by
      intro heq
      rw [heq, hfailed] at hfail
      cases hfail
    exact .inl ⟨other, mem_set_of_ne hi hother hne, hfail⟩
  · have hle := standing_le w path
    rcases hturn.counts hi with hfail | hcounts | hcounts | hcounts
    · exact .inl ⟨g', mem_set_new hi, hfail⟩
    · right; omega
    · right; omega
    · right; omega

/-- the present rows are still owed, unless this edit owed them -/
theorem owes_set {version : ℕ} (hi : gs[i]? = some g) (h : ∃ g ∈ gs, g.phase.Owes version) :
    g.phase.Owes version ∨ ∃ other ∈ gs.set i g', other.phase.Owes version := by
  obtain ⟨other, hother, howes⟩ := h
  by_cases heq : other = g
  · rw [heq] at howes
    exact .inl howes
  · exact .inr ⟨other, mem_set_of_ne hi hother heq, howes⟩

/-- an edit that owes what the one before it owed -/
theorem due_set {files : String → Option Written} {version : ℕ} (hi : gs[i]? = some g)
    (howes : g.phase.Owes version → g'.phase.Owes version)
    (h : (idle ∧ gs = []) ∨ (∃ file ∈ files path, file.asOf = version) ∨ ∃ g ∈ gs, g.phase.Owes version) :
    (idle ∧ gs.set i g' = []) ∨ (∃ file ∈ files path, file.asOf = version) ∨ ∃ g ∈ gs.set i g', g.phase.Owes version := by
  rcases h with ⟨-, hnil⟩ | hfile | hdue
  · rw [hnil] at hi
    cases hi
  · exact .inr (.inl hfile)
  · right; right
    rcases owes_set hi hdue with hown | hother
    · exact ⟨g', mem_set_new hi, howes hown⟩
    · exact hother

theorem forall_set {P Q : Ghost → Prop} (h : ∀ g ∈ gs, P g) (hother : ∀ g ∈ gs, P g → Q g) (hnew : Q g') :
    ∀ g ∈ gs.set i g', Q g := by
  intro other hmem
  rcases List.mem_or_eq_of_mem_set hmem with hmem | rfl
  · exact hother other hmem (h other hmem)
  · exact hnew

/-- **One turn**: the file is brought on, or the edit has doomed itself or another. -/
theorem Settling.turn (h : Settling idle collate cluster path w gs) (hi : gs[i]? = some g)
    (hturn : Turn collate cluster path w g w' g') : Course idle collate cluster path w' (gs.set i g') := by
  have hcounts := hturn.counts hi
  have hg := h.fair g (List.mem_of_getElem? hi)
  have hroom := h.room
  by_cases hdoomed : Doomed path w' (gs.set i g')
  · exact .inl hdoomed
  have hunfailed : ¬g'.failed = true := fun hfail => hdoomed (.inl ⟨g', mem_set_new hi, hfail⟩)
  have hle : waiting (gs.set i g') ≤ standing w' path := by
    by_contra hlt
    exact hdoomed (.inr (not_le.1 hlt))
  right
  cases hturn with
  | failed hfail => exact absurd hfail hunfailed
  | kept hphase =>
    refine ⟨hle, forall_set h.fair (fun _ _ hfair => hfair) ?_, h.file, due_set hi ?_ h.due⟩
    · rw [hphase]
      exact hg
    · rw [hphase]
      exact id
  | changed rows hopen hphase =>
    refine ⟨hle, forall_set h.fair ?_ ?_, fun file hfile => (h.file file hfile).change rows, ?_⟩
    · intro other _ hfair
      exact hfair.mono (fun listing hlisting => hlisting.change rows) fun _ => rfl
    · rw [hphase]
      trivial
    · refine .inr (.inr ⟨g', mem_set_new hi, ?_⟩)
      rw [hphase]
      trivial
  | listed hopen hphase =>
    refine ⟨hle, forall_set h.fair (fun _ _ hfair => hfair) ?_, h.file, .inr (.inr ⟨g', mem_set_new hi, ?_⟩)⟩
    · rw [hphase]
      exact ⟨le_rfl, fun _ => rfl⟩
    · rw [hphase]
      rfl
  | wrote listing hread hphase =>
    rw [hread] at hg
    -- no other edit stands before its move, or one of the two would be doomed
    have hnone : waiting gs = 0 := by
      have hset : waiting (gs.set i g') + g.phase.waits.toNat = waiting gs + g'.phase.waits.toNat := waiting_set hi
      rw [hread, hphase, Phase.waits, Phase.waits, Bool.toNat_false, Bool.toNat_true] at hset
      have := standing_le { w with files := Function.update w.files (temporary path) (some (listing.written cluster)) } path
      omega
    have hfile : Function.update w.files (temporary path) (some (listing.written cluster)) path = w.files path :=
      Function.update_of_ne (temporary_ne path) _ _
    refine ⟨hle, forall_set h.fair ?_ ?_, ?_, ?_⟩
    · intro other hother hfair
      refine hfair.mono (fun _ hlisting => ⟨hlisting.le, hlisting.now⟩) ?_
      intro hwaits
      rw [not_waits hnone hother] at hwaits
      cases hwaits
    · rw [hphase]
      exact ⟨⟨hg.le, hg.now⟩, Function.update_self _ _ _⟩
    · dsimp only
      rw [hfile]
      intro file hmem
      exact ⟨(h.file file hmem).le, (h.file file hmem).now⟩
    · dsimp only
      rw [hfile]
      refine due_set hi ?_ h.due
      rw [hread, hphase]
      exact id
  | moved listing written hwrote hstands hnewer hphase =>
    rw [hwrote] at hg
    obtain ⟨hdated, htemporary⟩ := hg
    obtain rfl := Option.some.inj (hstands.symm.trans htemporary)
    have hnone : waiting (gs.set i g') = 0 := by
      have hset : waiting (gs.set i g') + g.phase.waits.toNat = waiting gs + g'.phase.waits.toNat := waiting_set hi
      rw [hwrote, hphase, Phase.waits, Phase.waits, Bool.toNat_false, Bool.toNat_true] at hset
      have := standing_le w path
      omega
    have hfile : Function.update (Function.update w.files path (some (listing.written cluster))) (temporary path) none path =
        some (listing.written cluster) := by
      rw [Function.update_of_ne (temporary_ne path), Function.update_self]
    refine ⟨hle, ?_, ?_, ?_⟩
    · intro other hother
      have hwaits := not_waits hnone hother
      rcases List.mem_or_eq_of_mem_set hother with hmem | rfl
      · refine (h.fair other hmem).mono (fun _ hlisting => ⟨hlisting.le, hlisting.now⟩) ?_
        intro hnot
        rw [hwaits] at hnot
        cases hnot
      · rw [hphase]
        trivial
    · dsimp only
      rw [hfile]
      intro file hmem
      obtain rfl := Option.some.inj hmem
      exact ⟨(fileDated_written hdated).le, (fileDated_written hdated).now⟩
    · dsimp only
      rw [hfile]
      rcases h.due with ⟨-, hnil⟩ | ⟨inPlace, hmem, hnow⟩ | hdue
      · rw [hnil] at hi
        cases hi
      · -- what is in place was of the present rows, and this is no older
        have hold := hnewer _ htemporary inPlace hmem
        refine .inr (.inl ⟨_, rfl, le_antisymm hdated.le ?_⟩)
        rw [hnow] at hold
        exact hold
      · rcases owes_set hi hdue with hown | hother
        · rw [hwrote] at hown
          exact .inr (.inl ⟨_, rfl, hown⟩)
        · exact .inr (.inr hother)

theorem Course.turn (h : Course idle collate cluster path w gs) (hi : gs[i]? = some g) (hfailed : g.failed = false)
    (hturn : Turn collate cluster path w g w' g') : Course idle collate cluster path w' (gs.set i g') := by
  rcases h with hdoomed | hsettling
  · exact .inl (hdoomed.turn hi hfailed hturn)
  · exact hsettling.turn hi hturn

/-- a new edit owes the present rows -/
theorem Course.spawn (h : Course idle collate cluster path w gs) :
    Course idle collate cluster path w (gs ++ [.fresh]) := by
  have hwaiting : waiting (gs ++ [.fresh]) = waiting gs := by
    rw [waiting, List.countP_append]
    rfl
  rcases h with (⟨g, hg, hfailed⟩ | hcount) | h
  · exact .inl (.inl ⟨g, List.mem_append_left _ hg, hfailed⟩)
  · left; right
    rw [hwaiting]
    exact hcount
  · right
    refine ⟨?_, List.forall_mem_append.2 ⟨h.fair, List.forall_mem_singleton.2 trivial⟩, h.file, ?_⟩
    · rw [hwaiting]
      exact h.room
    · exact .inr (.inr ⟨.fresh, List.mem_append_right _ (List.mem_singleton_self _), trivial⟩)

/-- **All returned**: none is doomed, and nothing is owed any more. -/
theorem Course.returned (h : Course idle collate cluster path w gs)
    (hended : ∀ g ∈ gs, g.failed = false ∧ g.phase = .moved) (hrun : ¬idle ∨ gs ≠ []) :
    (w.files path).map (·.text) = some (renderInventory cluster (listed w.rows cluster collate)) := by
  have hnone : waiting gs = 0 := by
    refine List.countP_eq_zero.2 ?_
    intro g hg
    rw [(hended g hg).2]
    exact Bool.noConfusion
  rcases h with (⟨g, hg, hfailed⟩ | hcount) | h
  · rw [(hended g hg).1] at hfailed
    cases hfailed
  · omega
  · rcases h.due with ⟨hidle, hnil⟩ | ⟨file, hfile, hnow⟩ | ⟨g, hg, howes⟩
    · rcases hrun with hnot | hne
      · exact absurd hidle hnot
      · exact absurd hnil hne
    · have hdated := h.file file hfile
      rw [Option.mem_def.1 hfile, Option.map_some, hdated.now hnow]
    · rw [(hended g hg).2] at howes
      exact absurd howes id

end Course

/-! ## Every interleaving -/

section Interleavings

variable {lib : Library} {cfg : NodeListConfig} {collate : String → String → Bool} {cluster path : String}

/-- every edit will end as it should, and together they are on course -/
structure Underway (lib : Library) (cfg : NodeListConfig) (idle : Prop) (collate : String → String → Bool)
    (cluster path : String) (p : EditState) : Prop where
  ending : Pool.Ending (editsOf lib cfg collate cluster) Ended p.threads
  course : Course idle collate cluster path p.shared.service (p.threads.map (·.typestate))

/-- the audit store is no part of it -/
theorem course_handle {idle : Prop} (hpath : clusterOr404 cfg cluster = .ok path) {edit : Edit} {o : Oracle NodeWeather}
    {a : Act NodeAct} {site : Site NodeWorld} {gs : List Ghost} {i : ℕ} {g : Ghost}
    (h : Course idle collate cluster path site.service gs) (hi : gs[i]? = some g)
    (hok : (guarded (contract lib cfg cluster)).ok g a) (hnewer : NewerOver edit site g a) :
    Course idle collate cluster path (handle (serveNodes collate) o a site).2.service
      (gs.set i ((guarded (contract lib cfg cluster)).next g a (handle (serveNodes collate) o a site).1)) := by
  have hsame : gs.set i g = gs := by
    obtain ⟨hlt, rfl⟩ := List.getElem?_eq_some_iff.1 hi
    exact List.set_getElem_self hlt
  cases a with
  | writable =>
    change Course idle collate cluster path site.service (gs.set i g)
    rw [hsame]
    exact h
  | write entry =>
    change Course idle collate cluster path _ (gs.set i g)
    rw [handle_write, hsame]
    exact h
  | op e =>
    refine h.turn hi hok.1 (turn_serve hpath hok.2 ?_)
    intro p he
    subst he
    exact hnewer

theorem underway_step {idle : Prop} (hpath : clusterOr404 cfg cluster = .ok path) {p : EditState}
    {m : Pool.Move Edit (Oracle NodeWeather) Empty} (h : Underway lib cfg idle collate cluster path p)
    (hok : Pool.Fits NewerOver p m) :
    Underway lib cfg idle collate cluster path (Pool.step (editsOf lib cfg collate cluster) p m) := by
  refine ⟨Pool.ending_step (fun edit => conforms edit) h.ending m, ?_⟩
  cases m with
  | spawn edit =>
    simp only [Pool.step, List.map_append]
    exact h.course.spawn
  | act i o =>
    simp only [Pool.Fits] at hok
    simp only [Pool.step]
    split
    · rename_i edit a k g hi
      rw [hi] at hok
      have hpermitted := (h.ending _ (List.mem_of_getElem? hi)).1
      have hghost : (p.threads.map (·.typestate))[i]? = some g := by
        rw [List.getElem?_map, hi]
        rfl
      rw [List.map_set]
      exact course_handle hpath h.course hghost hpermitted hok
    · exact h.course
  | outside l => cases l

theorem underway_start (lib : Library) (cfg : NodeListConfig) (collate : String → String → Bool) (cluster path : String)
    (rows : List NodeRow) (files : String → Option String) (log : List Drafts.AuditEntry) :
    Underway lib cfg (files path ≠ some (renderInventory cluster (listed rows cluster collate))) collate cluster path
      ⟨⟨found collate cluster rows files, log⟩, []⟩ := by
  refine ⟨List.forall_mem_nil _, .inr ⟨Nat.zero_le _, List.forall_mem_nil _, ?_, ?_⟩⟩
  · intro file hfile
    obtain ⟨text, -, rfl⟩ := Option.map_eq_some_iff.1 hfile
    by_cases htext : text = renderInventory cluster (listed rows cluster collate)
    · rw [if_pos htext]
      exact ⟨le_rfl, fun _ => htext⟩
    · rw [if_neg htext]
      exact ⟨Nat.zero_le 1, fun hnow => by cases hnow⟩
  · by_cases hstart : files path = some (renderInventory cluster (listed rows cluster collate))
    · refine .inr (.inl ⟨⟨renderInventory cluster (listed rows cluster collate), 1⟩, ?_, rfl⟩)
      change (files path).map _ = _
      rw [hstart, Option.map_some, if_pos rfl]
    · exact .inl ⟨hstart, rfl⟩

/-- **Concurrent edits converge** where no move puts older rows over newer ones: once all have returned, the file says what
the table says, if any was made or it said so before. -/
theorem converge (hpath : clusterOr404 cfg cluster = .ok path) {rows : List NodeRow} {files : String → Option String}
    {log : List Drafts.AuditEntry} {moves : List (Pool.Move Edit (Oracle NodeWeather) Empty)}
    (h : Meets (Pool.step (editsOf lib cfg collate cluster)) (Pool.Fits NewerOver)
      ⟨⟨found collate cluster rows files, log⟩, []⟩ moves)
    (hreturned : ∀ th ∈ (run (Pool.step (editsOf lib cfg collate cluster))
      ⟨⟨found collate cluster rows files, log⟩, []⟩ moves).threads, th.prog.Returned)
    (hrun : files path = some (renderInventory cluster (listed rows cluster collate)) ∨
      (run (Pool.step (editsOf lib cfg collate cluster)) ⟨⟨found collate cluster rows files, log⟩, []⟩ moves).threads ≠ []) :
    ((run (Pool.step (editsOf lib cfg collate cluster)) ⟨⟨found collate cluster rows files, log⟩, []⟩
      moves).shared.service.files path).map (·.text) = some (renderInventory cluster (listed
        (run (Pool.step (editsOf lib cfg collate cluster)) ⟨⟨found collate cluster rows files, log⟩, []⟩
          moves).shared.service.rows cluster collate)) := by
  obtain ⟨hending, hcourse⟩ := run_inv _ (fun _ _ hp hok => underway_step hpath hp hok) h
    (underway_start lib cfg collate cluster path rows files log)
  refine hcourse.returned ?_ ?_
  · intro g hg
    obtain ⟨th, hth, rfl⟩ := List.mem_map.1 hg
    have hended := hending th hth
    have hdone := hreturned th hth
    cases hprog : th.prog with
    | ret a =>
      rw [hprog] at hended
      exact hended
    | raise e =>
      rw [hprog] at hdone
      exact absurd hdone id
    | act e k =>
      rw [hprog] at hdone
      exact absurd hdone id
  · rcases hrun with hstart | hne
    · exact .inl (not_not.2 hstart)
    · right
      intro hnil
      exact hne (List.map_eq_nil_iff.1 hnil)

end Interleavings

/-! ## Two adds -/

namespace Sample

def addW8 : Edit := .add admin "w8" "10.0.0.8" "worker" "down for a disk swap"

/-- the file of the empty list -/
def files (path : String) : Option String := if path = "/inventory/a.ini" then some (renderInventory "a" []) else none

/-- two adds on the empty list; then the threads take their turns -/
def turns (threads : List ℕ) : EditState :=
  run (Pool.step (editsOf lib cfg collate "a")) ⟨⟨found collate "a" [] files, []⟩, []⟩
    (.spawn addW8 :: .spawn addW9 :: threads.map fun i => .act i calm)

/-- the second add changes the table after the first has read it, and moves its file last -/
def inTurn : List ℕ := [0, 0, 0, 1, 1, 0, 0, 0, 1, 1, 1, 1]

/-- the first reads, the second does all it does, and then the first writes what it has read -/
def slowWriter : List ℕ := [0, 0, 0, 1, 1, 1, 1, 1, 1, 0, 0, 0]

end Sample

theorem meets_inTurn : Meets (Pool.step (editsOf Sample.lib Sample.cfg Sample.collate "a")) (Pool.Fits NewerOver)
    ⟨⟨found Sample.collate "a" [] Sample.files, []⟩, []⟩
    (.spawn Sample.addW8 :: .spawn Sample.addW9 :: Sample.inTurn.map fun i => .act i Sample.calm) := by
  decide +kernel

theorem returned_inTurn : ∀ th ∈ (Sample.turns Sample.inTurn).threads, th.prog.Returned := by
  decide +kernel

theorem converge_adds : ((Sample.turns Sample.inTurn).shared.service.files "/inventory/a.ini").map (·.text) =
      some (renderInventory "a" (listed (Sample.turns Sample.inTurn).shared.service.rows "a" Sample.collate)) ∧
    (Sample.turns Sample.inTurn).shared.service.rows.map (·.host) = ["w8", "w9"] :=
  ⟨converge (by decide) meets_inTurn returned_inTurn (.inl rfl), by decide +kernel⟩

/-- **Overtaken.** Two nodes are added, both adds return, and the file lacks one of the nodes. -/
theorem overtaken : (∀ th ∈ (Sample.turns Sample.slowWriter).threads, th.prog.Returned) ∧
    (Sample.turns Sample.slowWriter).shared.service.rows.map (·.host) = ["w8", "w9"] ∧
    ((Sample.turns Sample.slowWriter).shared.service.files "/inventory/a.ini").map (·.text) = some (renderInventory "a"
      (listed ((Sample.turns Sample.slowWriter).shared.service.rows.take 1) "a" Sample.collate)) ∧
    ¬((Sample.turns Sample.slowWriter).shared.service.files "/inventory/a.ini").map (·.text) = some (renderInventory "a"
      (listed (Sample.turns Sample.slowWriter).shared.service.rows "a" Sample.collate)) := by
  decide +kernel

end TrinoManagement.Nodes
