/-
Missing nodes: what the fleet screen may say about a node that the coordinator does not list.

"A caller that got half a node list would draw the wrong conclusion from it." The comparison is made against the rows of all
pages or not at all, so a node is called missing only if no page of a complete answer has a row for it.
- `Judged`: what `identify` may end with, and what the exchange was like then. Only a `TrinoClientError` is caught: where
  anything else is raised (by a page whose data is no list, a URI that cannot be split), there is no look-up.
- `missing_nodes`: the property, for every inventory, cluster, time limit and weather.
-/
import Mathlib.Tactic
import TrinoManagement.Fleet.Identify
import TrinoManagement.Scenarios.WhoJoined
import TrinoManagement.Scenarios.WholeAnswer

namespace TrinoManagement.Discovery

open TrinoManagement.Clients (Client)
open TrinoManagement.Prog (demonic demonic_mono onOk_ok wp wp_bind wp_mono wp_pure wp_throw wp_tryCatch)
open TrinoManagement.Sql (Blamed Delivered Ended Failure InOrder World execute query rounds serve wp_execute)

section Missing

variable (sql : Sql.Library) (lib : Nodes.Library) (timeout : ℚ) (inventory : List Value)

/-- the inventory held against all rows of a complete answer -/
structure Compared (w : World) (d : Discovered) : Prop where
  answer : ∃ pages result, Delivered sql w.log pages result ∧
    (∀ node, node ∈ d.unjoined ↔ node ∈ inventory ∧ ∀ row ∈ result.rows, accountsFor lib node (asValue row) = false) ∧
    (∀ row ∈ d.unexpected, ∃ cells ∈ result.rows, row = asValue cells) ∧ d.inventoryCount = inventory.length

/-- how a look-up ends -/
inductive Judged (w : World) : Except Failure LookUp → Prop where
  | available {d : Discovered} (hd : Compared sql lib inventory w d) : Judged w (.ok (.available d))
  /-- the message is of the failure that the exchange ended with -/
  | unavailable {e : Failure} {text : String} {began : ℚ} (hblamed : Blamed sql timeout began w e)
    (htext : clientMessage e = some text) : Judged w (.ok (.unavailable text (adviceFor text)))
  /-- what is no `TrinoClientError` goes through, and nothing is said of any node -/
  | raised {e : Failure} (hother : clientMessage e = none) : Judged w (.error e)

variable {sql lib timeout inventory} {client : Client} {addressFirst : String → String → Bool} {net : Clients.World}

/-- the comparison, once all rows are there -/
theorem compared {w : World} {pages : List Value} {result : Sql.Result} {d : Discovered}
    (hdelivered : Delivered sql w.log pages result)
    (hcompare : compare lib addressFirst inventory (result.rows.map asValue) = .ok d) : Compared sql lib inventory w d := by
  have hreadable : Readable lib inventory (result.rows.map asValue) := compare_returns.1 ⟨d, hcompare⟩
  obtain rfl : lined lib addressFirst inventory (result.rows.map asValue) = d :=
    Except.ok.inj ((compare_eq_ok hreadable).symm.trans hcompare)
  have hunjoined := @unjoined_eq lib addressFirst inventory (result.rows.map asValue) hreadable
  refine ⟨pages, result, hdelivered, ?_, ?_, ?_⟩
  · intro node
    rw [lined, hunjoined, List.mem_filter, Bool.not_eq_true', List.any_eq_false, List.forall_mem_map]
    simp only [Bool.not_eq_true]
  · intro row hrow
    obtain ⟨host, hmem, -⟩ := mem_lined.1 hrow
    obtain ⟨cells, hcells, rfl⟩ := List.mem_map.1 (mem_joined hmem).1
    exact ⟨cells, hcells, rfl⟩
  · change (inventory.map _).length = _
    rw [List.length_map]

theorem wp_fetchNodes {Q : Except Failure (Except String (List (List (Value × Value)))) → World → Prop}
    (hok : ∀ w pages result, Delivered sql w.log pages result → Q (.ok (.ok result.rows)) w)
    (hcaught : ∀ w e text began, Blamed sql timeout began w e → clientMessage e = some text → Q (.ok (.error text)) w)
    (hother : ∀ w e, clientMessage e = none → Q (.error e) w) :
    wp (demonic (fun _ => True) (serve client)) (fetchNodes sql timeout) Q ⟨net, []⟩ := by
  rw [fetchNodes, wp_tryCatch, wp_bind, query, wp_bind]
  refine wp_mono demonic_mono ?_ (wp_execute sql client timeout nodesQuery net)
  intro x w hended
  obtain ⟨began, -, -, hresult⟩ := hended
  cases x with
  | ok result =>
    obtain ⟨pages, hdelivered⟩ := hresult
    exact hok w pages result hdelivered
  | error e =>
    change wp (demonic (fun _ => True) (serve client)) (caught e) Q w
    unfold caught
    cases hmessage : clientMessage e with
    | some text => exact hcaught w e text began hresult hmessage
    | none => exact hother w e hmessage

end Missing

/-- **A missing node is missing.** A look-up that is available compares with every row of a complete answer; an exchange that
breaks off with a `TrinoClientError` makes it unavailable, with nothing in its lists; any other exception goes through, and
there is no look-up. -/
theorem missing_nodes (sql : Sql.Library) (lib : Nodes.Library) (addressFirst : String → String → Bool) (client : Client)
    (timeout : ℚ) (inventory : List Value) (os : List Sql.Weather) (net : Clients.World) :
    Judged sql lib timeout inventory (Prog.run (serve client) os (identify sql lib addressFirst timeout inventory) ⟨net, []⟩).2
      (Prog.run (serve client) os (identify sql lib addressFirst timeout inventory) ⟨net, []⟩).1 := by
  have hwp : wp (demonic (fun _ => True) (serve client)) (identify sql lib addressFirst timeout inventory)
      (fun x w => Judged sql lib timeout inventory w x) ⟨net, []⟩ := by
    rw [identify, wp_bind]
    refine wp_fetchNodes ?_ ?_ ?_
    · intro w pages result hdelivered
      rw [onOk_ok]
      dsimp only
      cases hcompare : compare lib addressFirst inventory (result.rows.map asValue) with
      | ok d => exact .available (compared hdelivered hcompare)
      | error message => exact .raised rfl
    · intro w e text began hblamed htext
      exact .unavailable hblamed htext
    · intro w e hother
      exact .raised hother
  exact Prog.wp_run trivial (fun _ _ => trivial) hwp

end TrinoManagement.Discovery
