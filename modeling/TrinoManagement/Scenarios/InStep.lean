/-
Do the node list and its file keep in step?

An edit changes rows, reads them back and then writes the file. Nothing takes the rows back when what follows fails: the
disk, the read, a lost answer, or the second of two rows that a scan adds.

- `Undisturbed`: nothing fails in an edit once it has changed a row, and no answer to a row statement is lost.
- `in_step`: in every run of undisturbed edits of any clusters, an edit that raises leaves the table and its file as they
  were, and every file says what the table says.
- `parted`: a disk that is full leaves a row that is in no file; a node that is reported twice leaves its first row.
-/
import Mathlib.Tactic
import TrinoManagement.Core.Run
import TrinoManagement.Fleet.NodeService
import TrinoManagement.Scenarios.InventoryRoundTrip

namespace TrinoManagement.Nodes

open TrinoManagement.Audit (Principal)
open TrinoManagement.Guard
open TrinoManagement.Prog (Along protocol_along)
open TrinoManagement.Run (Meets meets_split run run_inv)
open TrinoManagement.Service (Exn)
open TrinoManagement.Text

/-! ## Runs of edits -/

/-- one edit, and what is outside at each of its effects -/
structure Call extends Request where
  weather : List (Oracle NodeWeather)

section Calls

variable (lib : Library) (cfg : NodeListConfig) (collate : String → String → Bool)

/-- what a call raises, and what it leaves -/
def result (site : Site NodeWorld) (call : Call) : Except Exn Unit × Site NodeWorld :=
  Prog.run (handle (serveNodes collate)) call.weather (call.edit.prog lib cfg call.cluster) site

def afterCall (site : Site NodeWorld) (call : Call) : Site NodeWorld := (result lib cfg collate site call).2

/-- every file says what the table says -/
def InStep (w : NodeWorld) : Prop :=
  ∀ cluster path, clusterOr404 cfg cluster = .ok path →
    (w.files path).map (·.text) = some (renderInventory cluster (listed w.rows cluster collate))

/-- a call that raises has changed nothing, and every file says what the table says -/
structure Together (site : Site NodeWorld) (call : Call) : Prop where
  restored : ∀ e, (result lib cfg collate site call).1 = .error e →
    (afterCall lib cfg collate site call).service.rows = site.service.rows ∧ ∀ path, clusterOr404 cfg call.cluster = .ok path →
      (afterCall lib cfg collate site call).service.files path = site.service.files path
  inStep : InStep cfg collate (afterCall lib cfg collate site call).service

/-! ## What may go wrong -/

/-- the answer to a row statement is not lost -/
def Answered (o : NodeWeather) : NodeAct → Bool
  | .insert _ | .touch .. | .remove .. => match o.fault with
    | .lost _ => false
    | _ => true
  | _ => true

/-- the host of an added row is not listed yet -/
def Fresh (rows : List NodeRow) : NodeAct → Bool
  | .insert row => !rows.any (isRow row.cluster row.host)
  | _ => true

/-- an effect of an edit that began with the rows `before`: it does not fail once they have changed -/
def Calm (before : List NodeRow) (o : Oracle NodeWeather) : Act NodeAct → Site NodeWorld → Prop
  | .op e, site => Answered o.inner e = true ∧
      (site.service.rows ≠ before → o.inner.fault = .none ∧ Fresh site.service.rows e = true)
  | _, _ => True

instance (before : List NodeRow) (o : Oracle NodeWeather) : (a : Act NodeAct) → (site : Site NodeWorld) →
    Decidable (Calm before o a site)
  | .op e, site => inferInstanceAs (Decidable (Answered o.inner e = true ∧
      (site.service.rows ≠ before → o.inner.fault = .none ∧ Fresh site.service.rows e = true)))
  | .writable, _ | .write _, _ => isTrue trivial

/-- a cluster whose name is not another's with white space around it, and whose file is not another's -/
structure OwnList (cluster : String) : Prop where
  stripped : strip cluster = cluster ∨ strip cluster ∉ cfg.clusters
  apart : ∀ path other path', clusterOr404 cfg cluster = .ok path → other ≠ cluster → clusterOr404 cfg other = .ok path' →
    path' ≠ path ∧ path' ≠ temporary path

/-- nothing fails in a call once it has changed a row -/
structure Undisturbed (site : Site NodeWorld) (call : Call) : Prop where
  own : OwnList cfg call.cluster
  calm : Along (handle (serveNodes collate)) (Calm site.service.rows) call.weather (call.edit.prog lib cfg call.cluster) site

end Calls

/-! ## One edit -/

section Edit

variable {lib : Library} {cfg : NodeListConfig} {collate : String → String → Bool} {cluster : String} {w₀ w w' : NodeWorld}
  {g g' : Ghost}

theorem temporary_ne (path : String) : path ≠ temporary path := by
  intro heq
  have hlength := congrArg String.length heq
  rw [temporary, String.length_append] at hlength
  have : ".tmp".length = 4 := rfl
  omega

/-- an edit under way: what it left and what it found -/
structure Midway (cfg : NodeListConfig) (collate : String → String → Bool) (cluster : String) (w₀ w : NodeWorld) (g : Ghost) :
    Prop where
  rows : g.failed = true ∨ g.phase = .free → w.rows = w₀.rows
  unmoved : g.failed = true → g.phase ≠ .moved
  read : ∀ listing, g.phase = .read listing ∨ g.phase = .wrote listing → listing.rows = listed w.rows cluster collate
  wrote : ∀ listing path, g.phase = .wrote listing → g.failed = false → clusterOr404 cfg cluster = .ok path →
    w.files (temporary path) = some (listing.written cluster)
  file : ∀ path, clusterOr404 cfg cluster = .ok path → g.phase ≠ .moved → w.files path = w₀.files path
  moved : ∀ path, clusterOr404 cfg cluster = .ok path → g.phase = .moved →
    (w.files path).map (·.text) = some (renderInventory cluster (listed w.rows cluster collate))
  others : ∀ other, other ≠ cluster → listed w.rows other collate = listed w₀.rows other collate
  elsewhere : ∀ other path, other ≠ cluster → clusterOr404 cfg other = .ok path → w.files path = w₀.files path

theorem midway_fresh : Midway cfg collate cluster w₀ w₀ .fresh where
  rows _ := rfl
  unmoved h := by cases h
  read _ h := by rcases h with h | h <;> cases h
  wrote _ _ h := by cases h
  file _ _ _ := rfl
  moved _ _ h := by cases h
  others _ _ := rfl
  elsewhere _ _ _ _ := rfl

/-- a failure before any row has changed -/
theorem midway_failed (hown : OwnList cfg cluster) (h : Midway cfg collate cluster w₀ w g) (hsame : w.rows = w₀.rows)
    (hrows : w'.rows = w.rows)
    (hfiles : ∀ p, (∀ path, clusterOr404 cfg cluster = .ok path → p ≠ temporary path) → w'.files p = w.files p)
    (hfailed : g'.failed = true) (hphase : g.phase ≠ .moved) (hphase' : g'.phase ≠ .moved)
    (hread : ∀ listing, g'.phase = .read listing ∨ g'.phase = .wrote listing →
      g.phase = .read listing ∨ g.phase = .wrote listing) : Midway cfg collate cluster w₀ w' g' where
  rows _ := hrows.trans hsame
  unmoved _ := hphase'
  read listing hlisting := by rw [hrows]; exact h.read listing (hread listing hlisting)
  wrote _ _ _ hnot := by rw [hfailed] at hnot; cases hnot
  file path hpath _ := by
    refine (hfiles path ?_).trans (h.file path hpath hphase)
    intro path' hpath'
    obtain rfl := Except.ok.inj (hpath.symm.trans hpath')
    exact temporary_ne path
  moved path hpath hmoved := absurd hmoved hphase'
  others other hother := by rw [hrows]; exact h.others other hother
  elsewhere other path hother hpath := by
    refine (hfiles path ?_).trans (h.elsewhere other path hother hpath)
    intro path' hpath'
    exact (hown.apart path' other path hpath' hother hpath).2

/-- a row statement that failed -/
theorem midway_rowFailed (hown : OwnList cfg cluster) (h : Midway cfg collate cluster w₀ w g) (hsame : w.rows = w₀.rows)
    (hphase : g.phase ≠ .moved) : Midway cfg collate cluster w₀ w { g with phase := .changed, failed := true } := by
  refine midway_failed hown h hsame rfl (fun _ _ => rfl) rfl hphase Phase.noConfusion ?_
  intro _ hlisting
  rcases hlisting with hlisting | hlisting <;> cases hlisting

/-- a row statement that took effect -/
theorem midway_changed (h : Midway cfg collate cluster w₀ w g) {rows : List NodeRow} (hphase : g.phase ≠ .moved)
    (hothers : ∀ other, other ≠ cluster → listed rows other collate = listed w.rows other collate)
    (hchanged : g'.phase = .changed) (hfailed : g'.failed = false) : Midway cfg collate cluster w₀ (w.change rows) g' where
  rows hor := by rw [hchanged, hfailed] at hor; rcases hor with hor | hor <;> cases hor
  unmoved hnot := by rw [hfailed] at hnot; cases hnot
  read _ hlisting := by rw [hchanged] at hlisting; rcases hlisting with hlisting | hlisting <;> cases hlisting
  wrote _ _ hwrote := by rw [hchanged] at hwrote; cases hwrote
  file path hpath _ := h.file path hpath hphase
  moved _ _ hmoved := by rw [hchanged] at hmoved; cases hmoved
  others other hother := (hothers other hother).trans (h.others other hother)
  elsewhere := h.elsewhere

/-- an effect that leaves the rows, and every file but the temporary one -/
theorem midway_kept (h : Midway cfg collate cluster w₀ w g) (hrows : w'.rows = w.rows) (hfiles : w'.files = w.files)
    (hphase : g'.phase = g.phase) (hfailed : g'.failed = g.failed) : Midway cfg collate cluster w₀ w' g' := by
  obtain ⟨rows, version, files⟩ := w'
  obtain ⟨phase, reported, failed⟩ := g'
  dsimp only at hrows hfiles hphase hfailed
  subst hrows hfiles hphase hfailed
  exact ⟨h.rows, h.unmoved, h.read, h.wrote, h.file, h.moved, h.others, h.elsewhere⟩

theorem midway_read (h : Midway cfg collate cluster w₀ w g) (hphase : g.phase ≠ .moved) (asOf : ℕ) (hfailed : g.failed = false) :
    Midway cfg collate cluster w₀ w { g with phase := .read ⟨listed w.rows cluster collate, asOf⟩ } where
  rows hor := by
    rcases hor with hor | hor
    · rw [hfailed] at hor
      cases hor
    · cases hor
  unmoved _ := Phase.noConfusion
  read _ hlisting := by
    rcases hlisting with hlisting | hlisting
    · obtain rfl := Phase.read.inj hlisting
      rfl
    · cases hlisting
  wrote _ _ hwrote := by cases hwrote
  file path hpath _ := h.file path hpath hphase
  moved _ _ hmoved := by cases hmoved
  others := h.others
  elsewhere := h.elsewhere

/-- the temporary file, written -/
theorem midway_wrote (hown : OwnList cfg cluster) (h : Midway cfg collate cluster w₀ w g) {path : String} {listing : Listing}
    (hpath : clusterOr404 cfg cluster = .ok path) (hphase : g.phase ≠ .moved)
    (hlisting : listing.rows = listed w.rows cluster collate) (hrows : w'.rows = w.rows)
    (hfiles : ∀ p, (∀ path, clusterOr404 cfg cluster = .ok path → p ≠ temporary path) → w'.files p = w.files p)
    (htemporary : w'.files (temporary path) = some (listing.written cluster)) (hwrote : g'.phase = .wrote listing)
    (hfailed : g'.failed = false) : Midway cfg collate cluster w₀ w' g' where
  rows hor := by rw [hwrote, hfailed] at hor; rcases hor with hor | hor <;> cases hor
  unmoved hnot := by rw [hfailed] at hnot; cases hnot
  read listing' hlisting' := by
    rw [hwrote] at hlisting'
    rcases hlisting' with hlisting' | hlisting'
    · cases hlisting'
    · obtain rfl := Phase.wrote.inj hlisting'
      rw [hrows]
      exact hlisting
  wrote listing' path' hlisting' _ hpath' := by
    rw [hwrote] at hlisting'
    obtain rfl := Phase.wrote.inj hlisting'
    obtain rfl := Except.ok.inj (hpath.symm.trans hpath')
    exact htemporary
  file path' hpath' _ := by
    refine (hfiles path' ?_).trans (h.file path' hpath' hphase)
    intro path'' hpath''
    obtain rfl := Except.ok.inj (hpath'.symm.trans hpath'')
    exact temporary_ne path'
  moved _ _ hmoved := by rw [hwrote] at hmoved; cases hmoved
  others other hother := by rw [hrows]; exact h.others other hother
  elsewhere other path' hother hpath' := by
    refine (hfiles path' ?_).trans (h.elsewhere other path' hother hpath')
    intro path'' hpath''
    exact (hown.apart path'' other path' hpath'' hother hpath').2

/-- the file in its place -/
theorem midway_moved (hown : OwnList cfg cluster) (h : Midway cfg collate cluster w₀ w g) {path : String} {listing : Listing}
    (hpath : clusterOr404 cfg cluster = .ok path) (hlisting : listing.rows = listed w.rows cluster collate)
    (hmoved : g'.phase = .moved) (hfailed : g'.failed = false) : Midway cfg collate cluster w₀
      { w with files := Function.update (Function.update w.files path (some (listing.written cluster))) (temporary path) none }
      g' where
  rows hor := by rw [hmoved, hfailed] at hor; rcases hor with hor | hor <;> cases hor
  unmoved hnot := by rw [hfailed] at hnot; cases hnot
  read _ hread := by rw [hmoved] at hread; rcases hread with hread | hread <;> cases hread
  wrote _ _ hwrote := by rw [hmoved] at hwrote; cases hwrote
  file _ _ hnot := absurd hmoved hnot
  moved path' hpath' _ := by
    obtain rfl := Except.ok.inj (hpath.symm.trans hpath')
    dsimp only
    rw [Function.update_of_ne (temporary_ne path), Function.update_self, Option.map_some, Listing.written, hlisting]
  others := h.others
  elsewhere other path' hother hpath' := by
    obtain ⟨hne, htemporary⟩ := hown.apart path other path' hpath hother hpath'
    dsimp only
    rw [Function.update_of_ne htemporary, Function.update_of_ne hne]
    exact h.elsewhere other path' hother hpath'

theorem open_ne_moved {phase : Phase} (h : phase.Open) : phase ≠ .moved := by
  intro heq
  rw [heq] at h
  exact h

/-- **One effect**: what an edit knows goes on, if the effect does not fail on changed rows. -/
theorem midway_serve (hown : OwnList cfg cluster) (h : Midway cfg collate cluster w₀ w g) {o : NodeWeather} {e : NodeAct}
    (hanswered : Answered o e = true) (hquiet : w.rows ≠ w₀.rows → o.fault = .none ∧ Fresh w.rows e = true)
    (hfailed : g.failed = false) (hok : Permitted lib cfg cluster g e) :
    Midway cfg collate cluster w₀ (serveNodes collate o e w).2 (g.after e (serveNodes collate o e w).1) := by
  have hsame : ∀ fault, o.fault = fault → fault ≠ .none → w.rows = w₀.rows := by
    intro fault hfault hstruck
    by_contra hne
    exact hstruck (hfault.symm.trans (hquiet hne).1)
  cases e with
  | list c =>
    obtain ⟨rfl, hopen⟩ := hok
    have hphase := open_ne_moved hopen
    cases hfault : o.fault with
    | none =>
      simp only [serveNodes, hfault, Fault.strike]
      exact midway_read h hphase w.version hfailed
    | failed m | lost m =>
      simp only [serveNodes, hfault, Fault.strike]
      exact midway_failed hown h (hsame _ hfault Fault.noConfusion) rfl (fun _ _ => rfl) rfl hphase hphase
        fun _ hlisting => hlisting
  | insert row =>
    obtain ⟨hrow, hopen⟩ := hok
    have hphase := open_ne_moved hopen
    have hcluster : row.cluster = cluster := by
      rcases hrow.cluster with hcluster | ⟨hcluster, hknown⟩
      · exact hcluster
      · rw [hcluster]
        exact hown.stripped.resolve_right (not_not.2 hknown)
    cases hfault : o.fault with
    | none =>
      simp only [serveNodes, hfault, Fault.strike]
      by_cases hany : w.rows.any (isRow row.cluster row.host) = true
      · have hsame : w.rows = w₀.rows := by
          by_contra hne
          have hfresh := (hquiet hne).2
          rw [Fresh, hany] at hfresh
          cases hfresh
        rw [insertRow, if_pos hany]
        exact midway_failed hown h hsame rfl (fun _ _ => rfl) rfl hphase hphase fun _ hlisting => hlisting
      · have hothers : ∀ other, other ≠ cluster → listed (insertRow w.rows row).2 other collate = listed w.rows other collate :=
          fun other hother => listed_insertRow (by rw [hcluster]; exact hother.symm)
        rw [insertRow, if_neg hany] at hothers ⊢
        exact midway_changed h hphase hothers rfl hfailed
    | failed m =>
      simp only [serveNodes, hfault, Fault.strike]
      exact midway_rowFailed hown h (hsame _ hfault Fault.noConfusion) hphase
    | lost m =>
      rw [Answered, hfault] at hanswered
      cases hanswered
  | touch c change seenAt =>
    obtain ⟨rfl, hopen⟩ := hok
    have hphase := open_ne_moved hopen
    cases hfault : o.fault with
    | none =>
      simp only [serveNodes, hfault, Fault.strike]
      exact midway_changed h hphase (fun other hother => listed_touchRow hother.symm change seenAt) rfl hfailed
    | failed m =>
      simp only [serveNodes, hfault, Fault.strike]
      exact midway_rowFailed hown h (hsame _ hfault Fault.noConfusion) hphase
    | lost m =>
      rw [Answered, hfault] at hanswered
      cases hanswered
  | remove c host =>
    obtain ⟨rfl, hopen⟩ := hok
    have hphase := open_ne_moved hopen
    cases hfault : o.fault with
    | none =>
      simp only [serveNodes, hfault, Fault.strike]
      by_cases hany : w.rows.any (isRow c host) = true
      · have hothers : ∀ other, other ≠ c → listed (removeRow w.rows c host).2 other collate = listed w.rows other collate :=
          fun other hother => listed_removeRow hother.symm
        rw [removeRow] at hothers ⊢
        rw [hany]
        exact midway_changed h hphase hothers rfl hfailed
      · rw [removeRow_absent hany]
        exact midway_kept h rfl rfl rfl rfl
    | failed m =>
      simp only [serveNodes, hfault, Fault.strike]
      exact midway_rowFailed hown h (hsame _ hfault Fault.noConfusion) hphase
    | lost m =>
      rw [Answered, hfault] at hanswered
      cases hanswered
  | queryNodes c =>
    obtain ⟨rfl, hfree⟩ := hok
    simp only [serveNodes]
    cases o.reported with
    | ok rows => exact midway_kept h rfl rfl rfl rfl
    | error m =>
      have hphase : g.phase ≠ .moved := by
        rw [hfree]
        exact Phase.noConfusion
      exact midway_failed hown h (h.rows (.inr hfree)) rfl (fun _ _ => rfl) rfl hphase hphase fun _ hlisting => hlisting
  | writeTemporary path written =>
    obtain ⟨hpath, listing, hphase, rfl⟩ := hok
    have hmoved : g.phase ≠ .moved := by
      rw [hphase]
      exact Phase.noConfusion
    have hrows := h.read listing (.inl hphase)
    have hother : ∀ p, (∀ path, clusterOr404 cfg cluster = .ok path → p ≠ temporary path) →
        Function.update w.files (temporary path) (some (listing.written cluster)) p = w.files p :=
      fun p hp => Function.update_of_ne (hp path hpath) _ _
    -- what is known as written by now was read before
    have hread : ∀ listing', Phase.wrote listing = .read listing' ∨ Phase.wrote listing = .wrote listing' →
        g.phase = .read listing' ∨ g.phase = .wrote listing' := by
      intro listing' hlisting
      rcases hlisting with hlisting | hlisting
      · cases hlisting
      · obtain rfl := Phase.wrote.inj hlisting
        exact .inl hphase
    cases hfault : o.fault with
    | none =>
      simp only [serveNodes, hfault, Fault.strike, Ghost.after, hphase]
      exact midway_wrote hown h hpath hmoved hrows rfl hother (Function.update_self _ _ _) rfl rfl
    | failed m =>
      simp only [serveNodes, hfault, Fault.strike, Ghost.after, hphase]
      exact midway_failed hown h (hsame _ hfault Fault.noConfusion) rfl (fun _ _ => rfl) rfl hmoved Phase.noConfusion hread
    | lost m =>
      simp only [serveNodes, hfault, Fault.strike, Ghost.after, hphase]
      exact midway_failed hown h (hsame _ hfault Fault.noConfusion) rfl hother rfl hmoved Phase.noConfusion hread
  | replace path =>
    obtain ⟨hpath, listing, hphase⟩ := hok
    have hmoved : g.phase ≠ .moved := by
      rw [hphase]
      exact Phase.noConfusion
    have hwrote := h.wrote listing path hphase hfailed hpath
    have hrows := h.read listing (.inr hphase)
    cases hfault : o.fault with
    | none =>
      simp only [serveNodes, hfault, hwrote]
      exact midway_moved hown h hpath hrows rfl hfailed
    | failed m | lost m =>
      simp only [serveNodes, hfault]
      exact midway_failed hown h (hsame _ hfault Fault.noConfusion) rfl (fun _ _ => rfl) rfl hmoved hmoved
        fun _ hlisting => hlisting

end Edit

/-! ## Every run -/

section Run

variable {lib : Library} {cfg : NodeListConfig} {collate : String → String → Bool}

/-- an undisturbed call that finds the files in step leaves them so, and restores what it raises over -/
theorem together_of_undisturbed {site : Site NodeWorld} {call : Call} (h : Undisturbed lib cfg collate site call)
    (hin : InStep cfg collate site.service) : Together lib cfg collate site call := by
  have hstep : ∀ (o : Oracle NodeWeather) (a : Act NodeAct) (site' : Site NodeWorld) (g : Ghost),
      Calm site.service.rows o a site' → Midway cfg collate call.cluster site.service site'.service g →
      (guarded (contract lib cfg call.cluster)).ok g a → Midway cfg collate call.cluster site.service
        (handle (serveNodes collate) o a site').2.service
        ((guarded (contract lib cfg call.cluster)).next g a (handle (serveNodes collate) o a site').1) := by
    intro o a site' g hcalm hg hok
    cases a with
    | writable => exact hg
    | write entry =>
      rw [handle_write]
      exact hg
    | op e => exact midway_serve h.own hg hcalm.1 hcalm.2 hok.1 hok.2
  obtain ⟨g, hmidway, hended⟩ := protocol_along
    (J := fun site' g => Midway cfg collate call.cluster site.service site'.service g) hstep h.calm (conforms call.edit)
    midway_fresh
  change Midway _ _ _ _ (afterCall lib cfg collate site call).service g at hmidway
  change Ended (result lib cfg collate site call).1 g at hended
  have hrestored : ∀ e, (result lib cfg collate site call).1 = .error e →
      (afterCall lib cfg collate site call).service.rows = site.service.rows ∧ ∀ path,
        clusterOr404 cfg call.cluster = .ok path →
          (afterCall lib cfg collate site call).service.files path = site.service.files path := by
    intro e he
    rw [he] at hended
    have hunmoved : g.phase ≠ .moved := by
      rcases hended with hfailed | hfree
      · exact hmidway.unmoved hfailed
      · rw [hfree]
        exact Phase.noConfusion
    exact ⟨hmidway.rows hended, fun path hpath => hmidway.file path hpath hunmoved⟩
  refine ⟨hrestored, ?_⟩
  intro other path hpath
  by_cases hother : other = call.cluster
  · subst hother
    cases hresult : (result lib cfg collate site call).1 with
    | ok _ =>
      rw [hresult] at hended
      exact hmidway.moved path hpath hended.2
    | error e =>
      obtain ⟨hrows, hfile⟩ := hrestored e hresult
      rw [hrows, hfile path hpath]
      exact hin _ path hpath
  · rw [hmidway.elsewhere other path hother hpath, hmidway.others other hother]
    exact hin other path hpath

/-- **Never parted.** -/
theorem in_step {site : Site NodeWorld} {calls : List Call} {call : Call}
    (h : Meets (afterCall lib cfg collate) (Undisturbed lib cfg collate) site (calls ++ [call]))
    (hin : InStep cfg collate site.service) :
    Together lib cfg collate (run (afterCall lib cfg collate) site calls) call := by
  obtain ⟨hcalls, hcall⟩ := meets_split h
  refine together_of_undisturbed hcall ?_
  exact run_inv (fun site => InStep cfg collate site.service)
    (fun site call hsite hcall => (together_of_undisturbed hcall hsite).inStep) hcalls hin

end Run

/-! ## A full disk -/

namespace Sample

/-- an empty list, and its file -/
def start : Site NodeWorld :=
  ⟨⟨[], 0, fun path => if path = "/inventory/a.ini" then some ⟨renderInventory "a" [], 0⟩ else none⟩, []⟩

def calm : Oracle NodeWeather := ⟨true, ⟨.none, .ok cluster⟩⟩

def scanCall : Call := ⟨⟨"a", .scan admin 7⟩, List.replicate 8 calm⟩

def addW9 : Edit := .add admin "w9" "10.0.0.9" "worker" "down for a disk swap"

def addCall : Call := ⟨⟨"a", addW9⟩, []⟩

/-- the disk is full when the file is to be written -/
def fullDisk : Call := ⟨⟨"a", addW9⟩, [calm, calm, calm, ⟨true, ⟨.failed "disk full", .ok []⟩⟩]⟩

/-- the coordinator reports a node twice -/
def reportedTwice : Call :=
  ⟨⟨"a", .scan admin 7⟩, [⟨true, ⟨.none, .ok [node "http://10.0.0.2:8080" false, node "http://10.0.0.2:8081" false]⟩⟩]⟩

end Sample

theorem clusterOr404_sample {cluster path : String} (h : clusterOr404 Sample.cfg cluster = .ok path) :
    cluster = "a" ∧ path = "/inventory/a.ini" := by
  by_cases hcluster : cluster = "a"
  · subst hcluster
    have hpath : clusterOr404 Sample.cfg "a" = .ok "/inventory/a.ini" := by decide
    exact ⟨rfl, Except.ok.inj (h.symm.trans hpath)⟩
  · have hnot : cluster ∉ Sample.cfg.clusters := by
      intro hmem
      exact hcluster (List.mem_singleton.1 hmem)
    rw [clusterOr404, if_pos hnot] at h
    cases h

theorem ownList_sample : OwnList Sample.cfg "a" := by
  refine ⟨.inl (by decide), ?_⟩
  intro path other path' _ hother hpath'
  exact absurd (clusterOr404_sample hpath').1 hother

theorem inStep_start : InStep Sample.cfg Sample.collate Sample.start.service := by
  intro cluster path hpath
  obtain ⟨rfl, rfl⟩ := clusterOr404_sample hpath
  rfl

theorem meets_undisturbed : Meets (afterCall Sample.lib Sample.cfg Sample.collate)
    (Undisturbed Sample.lib Sample.cfg Sample.collate) Sample.start ([Sample.scanCall] ++ [Sample.addCall]) :=
  ⟨⟨ownList_sample, by decide +kernel⟩, ⟨ownList_sample, by decide +kernel⟩, trivial⟩

theorem in_step_w9 : Together Sample.lib Sample.cfg Sample.collate
      (run (afterCall Sample.lib Sample.cfg Sample.collate) Sample.start [Sample.scanCall]) Sample.addCall ∧
    (run (afterCall Sample.lib Sample.cfg Sample.collate) Sample.start [Sample.scanCall, Sample.addCall]).service.rows.map
      (·.host) = ["10.0.0.2", "10.0.0.1", "w9"] :=
  ⟨in_step meets_undisturbed inStep_start, by decide +kernel⟩

/-- **Parted.** An edit raises, and its row stays: the disk was full, or the second of two rows was one too many. -/
theorem parted : ¬Together Sample.lib Sample.cfg Sample.collate Sample.start Sample.fullDisk ∧
    ((result Sample.lib Sample.cfg Sample.collate Sample.start Sample.fullDisk).1 = .error (.upstreamUnavailable
        "The node list could not be written to /inventory/a.ini: disk full") ∧
      (afterCall Sample.lib Sample.cfg Sample.collate Sample.start Sample.fullDisk).service.rows.map (·.host) = ["w9"]) ∧
    (result Sample.lib Sample.cfg Sample.collate Sample.start Sample.reportedTwice).1 = .error (.client "DuplicateNode"
        "that host is already listed for this cluster") ∧
      (afterCall Sample.lib Sample.cfg Sample.collate Sample.start Sample.reportedTwice).service.rows.map (·.host) =
        ["10.0.0.2"] := by
  have hraised : (result Sample.lib Sample.cfg Sample.collate Sample.start Sample.fullDisk).1 = .error (.upstreamUnavailable
      "The node list could not be written to /inventory/a.ini: disk full") := by decide +kernel
  have hrows : (afterCall Sample.lib Sample.cfg Sample.collate Sample.start Sample.fullDisk).service.rows.map (·.host) =
      ["w9"] := by decide +kernel
  refine ⟨?_, ⟨hraised, hrows⟩, by decide +kernel, by decide +kernel⟩
  intro htogether
  rw [(htogether.restored _ hraised).1] at hrows
  cases hrows

end TrinoManagement.Nodes
