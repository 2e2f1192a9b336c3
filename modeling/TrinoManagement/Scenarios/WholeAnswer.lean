/-
Whole answers: what one statement brings back of the cluster, over every way the coordinator may page, delay, fail or
garble it.

`execute` "never returns partial results". The rows it returns are those of all pages, in their order; the statement is
submitted once, and each later request is for the page that the one before it names.
- `Asked`: the requests of an exchange, one by one. `Delivered`: a result that has all of it.
- `Blamed`: what a failure tells about the exchange; nothing else makes it fail.
- `run_events`, `single_request`: a call without retries asks the transport once at most.
- `whole_answer`: the property, for every library, client, time limit and weather.
-/
import Mathlib.Tactic
import TrinoManagement.Clients.Sql
import TrinoManagement.Core.Run

namespace TrinoManagement.Sql

open TrinoManagement.Clients (Client Event HttpResponse Raised call_ended)
open TrinoManagement.Prog (Ends Yields demonic demonic_mono onOk_ok wp wp_bind wp_frame wp_ite wp_mono wp_perform wp_pure wp_throw
  yields_bind)
open TrinoManagement.Run (Each each_nil each_snoc)

/-! ## Requests -/

section Requests

variable {client : Client} {os : List Clients.Oracle} {args : Client.Args} {α : Type} {p : Clients.CallM α} {w : Clients.World}

/-- what was noted before a call only stands before what is noted in it -/
theorem run_events : Prog.run Clients.serve os p w =
    ((Prog.run Clients.serve os p { w with events := [] }).1,
      { (Prog.run Clients.serve os p { w with events := [] }).2 with
        events := w.events ++ (Prog.run Clients.serve os p { w with events := [] }).2.events }) := by
  have herase := @Prog.run_erase _ _ _ _ Clients.Oracle Clients.World _ Clients.serve p os Clients.World Clients.serve
    (fun v => { v with events := w.events ++ v.events }) ?_ { w with events := [] }
  · simp only [List.append_nil] at herase
    exact Prod.ext herase.1.symm herase.2.symm
  · intro o e v
    cases e with
    | recordFailure isTransient => exact ⟨rfl, congrArg _ (List.append_assoc _ _ _).symm⟩
    | request r => exact ⟨rfl, congrArg _ (List.append_assoc _ _ _).symm⟩
    | state => exact ⟨rfl, rfl⟩
    | clock => exact ⟨rfl, rfl⟩
    | recordSuccess => exact ⟨rfl, rfl⟩
    | sleep seconds => exact ⟨rfl, rfl⟩

theorem run_now : w.now ≤ (Prog.run Clients.serve os p w).2.now := by
  have hact : ∀ e (K : Clients.CallAct.Answer e → Clients.World → Prop) (v : Clients.World),
      (∀ r v', v.now ≤ v'.now → K r v') → demonic (fun _ => True) Clients.serve e K v := by
    intro e K v hK o _
    apply hK
    cases e <;> exact Clients.le_pass v o.elapsed
  have hwp : wp (demonic (fun _ => True) Clients.serve) p (fun _ w' => w.now ≤ w'.now) w :=
    @wp_frame _ _ _ _ _ _ w p (fun v v' => v.now ≤ v'.now) (fun _ => le_rfl) (fun _ _ _ h h' => h.trans h') hact
  exact Prog.wp_run trivial (fun _ _ => trivial) hwp

/-- **No retry.** The transport gets one request of such a call at most. -/
theorem single_request (hretries : args.retries = 0) :
    sentSince w.events.length (Prog.run Clients.serve os (client.trinoCall args true) w).2.events ≤ 1 := by
  rw [run_events, sentSince]
  dsimp only
  rw [List.drop_left, Client.trinoCall]
  have hended := @call_ended w.breaker w.now client args
    ((if true = true then [client.basicAuth] else []) ++
      if args.body.isSome then [("Content-Type", "application/json")] else []) os
  rw [hretries] at hended
  generalize Prog.run Clients.serve os _ _ = r at hended
  obtain ⟨x, v⟩ := r
  dsimp only at hended ⊢
  generalize Clients.ending x = e at hended
  cases hended with
  | refused _ _ _ _ => exact Nat.zero_le _
  | @admitted e t now sent _ _ _ _ _ hlength =>
    have hnoted : (w.breaker.noted e now).countP isRequest = 0 := by
      unfold Clients.CircuitBreaker.noted
      split_ifs <;> rfl
    dsimp only
    rw [List.countP_append, hnoted, Nat.add_zero]
    refine List.countP_le_length.trans ?_
    rw [List.length_map]
    exact hlength

end Requests

/-! ## An exchange -/

section Spec

variable (lib : Library)

/-- the page that a call brought -/
def Brings (x : Exchange) (page : Value) : Prop := ∃ response, x.answer = .ok response ∧ readPayload lib response x.args.path = .ok page

/-- the pages of an exchange, one of each call -/
abbrev Pages (log : List Exchange) (pages : List Value) : Prop := List.Forall₂ (Brings lib) log pages

/-- what is asked for: first the statement, then what the last page names; a page with an error names nothing -/
def Asked (statement : String) (before : List Exchange) (x : Exchange) : Prop :=
  match before.getLast? with
  | none => x.args = postArgs statement
  | some last => ∃ page path, Brings lib last page ∧ (page.get "error").truthy = false ∧ (page.get "nextUri").truthy = true ∧
      pathOf lib (page.get "nextUri") = .ok path ∧ x.args = getArgs path

/-- every call asks for what comes next, with one request at most -/
def InOrder (statement : String) (log : List Exchange) : Prop :=
  Each (fun before x => Asked lib statement before x ∧ x.requests ≤ 1) log

/-- the rows on a page -/
def dataOf (page : Value) : List Value := ((listed (page.get "data")).toOption).getD []

/-- the names of the columns on a page -/
def namesOf (page : Value) : List Value := ((columnNames page).toOption).getD []

/-- the names on the first page that has some -/
def columnsOf (pages : List Value) : List Value := ((pages.map namesOf).find? (· ≠ [])).getD []

/-- the stats on the last page that has some -/
def statsOf (pages : List Value) : Value := ((pages.map (Value.get · "stats")).filter Value.truthy).getLastD (.dict [])

/-- a result that has the whole answer: the pages up to one without a `nextUri`, and no error on any of them -/
structure Delivered (log : List Exchange) (pages : List Value) (result : Result) : Prop where
  brought : Pages lib log pages
  errors : ∀ page ∈ pages, (page.get "error").truthy = false
  last : ∃ page, pages.getLast? = some page ∧ (page.get "nextUri").truthy = false
  rows : (pages.flatMap dataOf).mapM (rowDict (columnsOf pages)) = .ok result.rows
  queryId : pages.head?.map (Value.get · "id") = some result.queryId
  stats : result.stats = statsOf pages

/-- what the code can read of the pages -/
structure Readable (pages : List Value) : Prop where
  columns : ∀ page ∈ pages, ∃ names, columnNames page = .ok names
  data : ∀ page ∈ pages, ∃ rows, listed (page.get "data") = .ok rows
  next : ∀ page ∈ pages, (page.get "nextUri").truthy = true → ∃ path, pathOf lib (page.get "nextUri") = .ok path
  errors : ∀ page ∈ pages, (page.get "error").truthy = true → (page.get "error").isDict = true
  rows : ∃ rows, (pages.flatMap dataOf).mapM (rowDict (columnsOf pages)) = .ok rows

/-- what a failure says about the exchange, which began at some time -/
inductive Blamed (timeout began : ℚ) (w : World) : Failure → Prop where
  /-- the last call failed -/
  | call {x : Exchange} {r : Raised} (hlast : w.log.getLast? = some x) (hanswer : x.answer = .error r) :
    Blamed timeout began w (.raised r)
  /-- it was answered with something that is no page -/
  | garbled {x : Exchange} {response : HttpResponse} {message : String} (hlast : w.log.getLast? = some x)
    (hanswer : x.answer = .ok response) (hpage : readPayload lib response x.args.path = .error (.protocol message)) :
    Blamed timeout began w (.protocol message)
  /-- the last page has an error -/
  | failed {pages : List Value} {page queryId : Value} {message : String} {ms : ℤ} (hpages : Pages lib w.log pages)
    (hlast : pages.getLast? = some page) (herror : (page.get "error").truthy = true)
    (hmessage : errorText lib (page.get "error") = .ok message)
    (hid : pages.head?.map (Value.get · "id") = some queryId) : Blamed timeout began w (.queryFailed message queryId ms)
  /-- there is more, and the time is up -/
  | late {pages : List Value} {page : Value} (hpages : Pages lib w.log pages) (hlast : pages.getLast? = some page)
    (hnext : (page.get "nextUri").truthy = true) (hlate : began + timeout < w.net.now) :
    Blamed timeout began w (.timedOut (lateMessage lib timeout))
  /-- something on the pages cannot be read -/
  | malformed {pages : List Value} {className : String} (hpages : Pages lib w.log pages) (hbad : ¬ Readable lib pages) :
    Blamed timeout began w (.python className)

/-- an exchange that ended: in order, and with the whole answer or a failure that it explains -/
structure Ended (statement : String) (timeout began : ℚ) (x : Except Failure Result) (w : World) : Prop where
  inOrder : InOrder lib statement w.log
  result : match x with
    | .ok result => ∃ pages, Delivered lib w.log pages result
    | .error e => Blamed lib timeout began w e

end Spec

/-! ## What can be read -/

section Reads

variable {lib : Library} {α β : Type}

/-- only Python's own exceptions come out of it -/
def Plain (x : Except Failure α) : Prop := ∀ e, x = .error e → ∃ className, e = .python className

theorem plain_bind {x : Except Failure α} {f : α → Except Failure β} (hx : Plain x) (hf : ∀ a, Plain (f a)) : Plain (x >>= f) := by
  intro e he
  cases x with
  | error e' => exact hx e (congrArg Except.error (Except.error.inj he))
  | ok a => exact hf a e he

theorem plain_mapM {f : α → Except Failure β} (hf : ∀ a, Plain (f a)) (l : List α) : Plain (l.mapM f) := by
  induction l with
  | nil => exact nofun
  | cons a l ih =>
    rw [List.mapM_cons]
    exact plain_bind (hf a) fun b => plain_bind ih fun bs => nofun

theorem plain_foldlM {f : β → α → Except Failure β} (hf : ∀ b a, Plain (f b a)) (l : List α) (b : β) : Plain (l.foldlM f b) := by
  induction l generalizing b with
  | nil => exact nofun
  | cons a l ih =>
    rw [List.foldlM_cons]
    exact plain_bind (hf b a) fun b' => ih b'

theorem plain_iterate (v : Value) : Plain (iterate v) := by
  intro e he
  unfold iterate at he
  split at he
  · cases he
  · cases he
  · cases he
  · exact ⟨_, (Except.error.inj he).symm⟩

theorem plain_listed (v : Value) : Plain (listed v) := by
  unfold listed
  split_ifs
  · exact plain_iterate v
  · exact nofun

theorem plain_columnName (v : Value) : Plain (columnName v) := by
  intro e he
  unfold columnName at he
  split_ifs at he
  exact ⟨_, (Except.error.inj he).symm⟩

theorem plain_rowDict (columns : List Value) (row : Value) : Plain (rowDict columns row) := by
  refine plain_bind (plain_iterate row) fun cells => plain_foldlM (fun d p => ?_) _ _
  split_ifs
  · exact nofun
  · exact fun e he => ⟨_, (Except.error.inj he).symm⟩

theorem plain_columnNames (page : Value) : Plain (columnNames page) :=
  plain_bind (plain_listed _) fun columns => plain_mapM plain_columnName columns

theorem plain_errorText (error : Value) : Plain (errorText lib error) := by
  intro e he
  unfold errorText at he
  split_ifs at he
  exact ⟨_, (Except.error.inj he).symm⟩

theorem plain_pathOf (uri : Value) : Plain (pathOf lib uri) := by
  intro e he
  unfold pathOf at he
  split at he
  · split at he
    · exact ⟨_, (Except.error.inj he).symm⟩
    · cases he
  · exact ⟨_, (Except.error.inj he).symm⟩

theorem toOption_ok {x : Except Failure (List α)} {l : List α} (h : x = .ok l) : x.toOption.getD [] = l := by
  rw [h]
  rfl

/-- the pages looked at so far, and what they come to -/
structure Gathers (pages : List Value) (c : Collected) : Prop where
  columns : c.columns = columnsOf pages
  rows : c.rows = pages.flatMap dataOf
  stats : c.stats = statsOf pages

theorem gathers_nil : Gathers [] ⟨[], [], .dict []⟩ := ⟨rfl, rfl, rfl⟩

theorem columnsOf_append (pages : List Value) (page : Value) :
    columnsOf (pages ++ [page]) = if columnsOf pages ≠ [] then columnsOf pages else namesOf page := by
  unfold columnsOf
  rw [List.map_append, List.find?_append]
  cases hfound : (pages.map namesOf).find? (· ≠ []) with
  | some names =>
    have hne : names ≠ [] := by simpa using List.find?_some hfound
    simp [hne]
  | none =>
    by_cases hnames : namesOf page = []
    · simp [hnames]
    · simp [hnames]

theorem statsOf_append (pages : List Value) (page : Value) :
    statsOf (pages ++ [page]) = if (page.get "stats").truthy then page.get "stats" else statsOf pages := by
  unfold statsOf
  rw [List.map_append, List.filter_append]
  by_cases hstats : (page.get "stats").truthy = true
  · simp [hstats, List.getLastD_eq_getLast?]
  · simp [hstats]

/-- **One page.** It is added to what the pages before it come to, or part of it cannot be read. -/
theorem absorb_cases {pages : List Value} {c : Collected} (h : Gathers pages c) (page : Value) :
    (∃ c', absorb c page = .ok c' ∧ Gathers (pages ++ [page]) c') ∨
    ∃ className, absorb c page = .error (.python className) ∧
      ((∀ names, columnNames page ≠ .ok names) ∨
        ∀ rows, listed (page.get "data") ≠ .ok rows) := by
  have hplain : Plain (absorb c page) := by
    refine plain_bind ?_ fun columns => plain_bind (plain_listed _) fun rows => ?_
    · split_ifs
      · exact nofun
      · exact plain_columnNames page
    · exact nofun
  cases habsorb : absorb c page with
  | ok c' =>
    refine .inl ⟨c', rfl, ?_⟩
    obtain ⟨columns, hcolumns, habsorb⟩ := bind_eq_ok.1 habsorb
    obtain ⟨rows, hrows, habsorb⟩ := bind_eq_ok.1 habsorb
    obtain rfl := Except.ok.inj habsorb
    have hdata : dataOf page = rows := toOption_ok hrows
    refine ⟨?_, ?_, ?_⟩
    · rw [columnsOf_append, ← h.columns]
      split_ifs at hcolumns with hfound
      · rw [if_pos hfound]
        exact (Except.ok.inj hcolumns).symm
      · rw [if_neg hfound]
        exact (toOption_ok hcolumns).symm
    · rw [List.flatMap_append, ← h.rows, List.flatMap_singleton, hdata]
    · rw [statsOf_append, ← h.stats]
  | error e =>
    obtain ⟨className, rfl⟩ := hplain e habsorb
    refine .inr ⟨className, rfl, ?_⟩
    by_contra hboth
    push Not at hboth
    obtain ⟨⟨names, hnames⟩, rows, hrows⟩ := hboth
    unfold absorb at habsorb
    rw [hrows, hnames] at habsorb
    by_cases hfound : c.columns ≠ []
    · rw [if_pos hfound] at habsorb
      cases habsorb
    · rw [if_neg hfound] at habsorb
      cases habsorb

end Reads

/-! ## Effect by effect -/

section Effects

variable {lib : Library} {client : Client} {α : Type} {Q : Except Failure α → World → Prop} {w : World}

/-- the same exchange, at another time -/
def World.at (w : World) (t : ℚ) : World := { w with net := { w.net with now := t } }

theorem wp_clock {f : ℚ → SqlM α} (h : ∀ t, w.net.now ≤ t → wp (demonic (fun _ => True) (serve client)) (f t) Q (w.at t)) :
    wp (demonic (fun _ => True) (serve client)) (perform .monotonic >>= f) Q w := by
  rw [wp_bind]
  intro o _
  exact h _ (Clients.le_pass w.net o.elapsed)

theorem wp_sleep {seconds : ℚ} {f : Unit → SqlM α}
    (h : ∀ t, w.net.now + seconds ≤ t → wp (demonic (fun _ => True) (serve client)) (f ()) Q (w.at t)) :
    wp (demonic (fun _ => True) (serve client)) (perform (.sleep seconds) >>= f) Q w := by
  rw [wp_bind]
  intro o _
  exact h _ (le_add_of_nonneg_right o.elapsed.2)

theorem wp_ofExcept {β : Type} {x : Except Failure β} {f : β → SqlM α}
    (hok : ∀ b, x = .ok b → wp (demonic (fun _ => True) (serve client)) (f b) Q w) (herror : ∀ e, x = .error e → Q (.error e) w) :
    wp (demonic (fun _ => True) (serve client)) (ofExcept x >>= f) Q w := by
  cases x with
  | ok b => exact hok b rfl
  | error e => exact herror e rfl

/-- a call: one more exchange, and a page or a failure -/
theorem wp_ask {args : Client.Args} {Q : Except Failure Value → World → Prop} (hretries : args.retries = 0)
    (hpage : ∀ v x page, w.net.now ≤ v.net.now → v.log = w.log ++ [x] → x.args = args → x.requests ≤ 1 → Brings lib x page →
      Q (.ok page) v)
    (hfailed : ∀ v x e, v.log = w.log ++ [x] → x.args = args → x.requests ≤ 1 → x.answer = .error e → Q (.error (.raised e)) v)
    (hgarbled : ∀ v x response message, v.log = w.log ++ [x] → x.args = args → x.requests ≤ 1 → x.answer = .ok response →
      readPayload lib response x.args.path = .error (.protocol message) → Q (.error (.protocol message)) v) :
    wp (demonic (fun _ => True) (serve client)) (ask lib args) Q w := by
  rw [ask, wp_bind]
  intro o _
  have hnow := @run_now o.attempts _ (client.trinoCall args true) w.net
  have hsent := @single_request client o.attempts args w.net hretries
  dsimp only [serve]
  generalize Prog.run Clients.serve o.attempts (client.trinoCall args true) w.net = r at hnow hsent
  obtain ⟨answer, net⟩ := r
  cases answer with
  | error e => exact hfailed _ _ e rfl rfl hsent rfl
  | ok response =>
    change wp _ (ofExcept (readPayload lib response args.path)) _ _
    cases hread : readPayload lib response args.path with
    | ok page => exact hpage _ _ page hnow rfl rfl hsent ⟨response, rfl, hread⟩
    | error e =>
      have hprotocol : ∃ message, e = .protocol message := by
        unfold readPayload at hread
        dsimp only at hread
        split at hread
        · exact ⟨_, (Except.error.inj hread).symm⟩
        · split_ifs at hread
          exact ⟨_, (Except.error.inj hread).symm⟩
      obtain ⟨message, rfl⟩ := hprotocol
      exact hgarbled _ _ response message rfl rfl hsent rfl hread

end Effects

/-! ## The loop -/

section Loop

variable {lib : Library} {client : Client} {statement : String} {timeout began : ℚ}

/-- where the loop begins a round: the last page is still to be looked at, `earlier` have been -/
structure Reading (lib : Library) (statement : String) (timeout began : ℚ) (earlier : List Value) (c : Collected) (page queryId : Value)
    (w : World) : Prop where
  inOrder : InOrder lib statement w.log
  pages : Pages lib w.log (earlier ++ [page])
  gathers : Gathers earlier c
  errors : ∀ p ∈ earlier, (p.get "error").truthy = false
  queryId : (earlier ++ [page]).head?.map (Value.get · "id") = some queryId
  /-- every page but the first one came after a pause -/
  clock : began + earlier.length * pollInterval ≤ w.net.now
  /-- and each of these pauses began in time -/
  inTime : earlier ≠ [] → (earlier.length - 1) * pollInterval ≤ timeout

theorem Reading.at {earlier : List Value} {c : Collected} {page queryId : Value} {w : World} {t : ℚ}
    (h : Reading lib statement timeout began earlier c page queryId w) (ht : w.net.now ≤ t) :
    Reading lib statement timeout began earlier c page queryId (w.at t) :=
  ⟨h.inOrder, h.pages, h.gathers, h.errors, h.queryId, h.clock.trans ht, h.inTime⟩

variable {earlier : List Value} {c : Collected} {page queryId : Value} {w : World}

theorem Reading.last (h : Reading lib statement timeout began earlier c page queryId w) :
    ∃ x, w.log.getLast? = some x ∧ Brings lib x page := by
  have hreverse := List.forall₂_reverse_iff.2 h.pages
  rw [List.reverse_append, List.reverse_singleton, List.singleton_append] at hreverse
  obtain ⟨x, before, hx, -, hlog⟩ := List.forall₂_cons_right_iff.1 hreverse
  exact ⟨x, by rw [← List.head?_reverse, hlog]; rfl, hx⟩

/-- a failure that a page explains -/
theorem Reading.malformed {e : Failure} (h : Reading lib statement timeout began earlier c page queryId w)
    (hplain : ∃ className, e = .python className) (hbad : ¬ Readable lib (earlier ++ [page])) :
    Ended lib statement timeout began (.error e) w := by
  obtain ⟨className, rfl⟩ := hplain
  exact ⟨h.inOrder, .malformed h.pages hbad⟩

/-- **One more page.** Asked for because the last one names it, and after a pause that began in time. -/
theorem Reading.next {path : String} {c' : Collected} {next : Value} {x : Exchange} {t : ℚ} {v : World}
    (h : Reading lib statement timeout began earlier c page queryId w) (hgathers : Gathers (earlier ++ [page]) c')
    (herror : (page.get "error").truthy = false) (hnext : (page.get "nextUri").truthy = true)
    (hpath : pathOf lib (page.get "nextUri") = .ok path) (hclock : w.net.now ≤ t) (ht : t ≤ began + timeout)
    (hv : t + pollInterval ≤ v.net.now) (hlog : v.log = w.log ++ [x]) (hargs : x.args = getArgs path) (hrequests : x.requests ≤ 1)
    (hbrings : Brings lib x next) : Reading lib statement timeout began (earlier ++ [page]) c' next queryId v := by
  obtain ⟨last, hlast, hlastBrings⟩ := h.last
  have hlength : ((earlier ++ [page]).length : ℚ) = earlier.length + 1 := by simp
  have hclock' := h.clock
  refine ⟨?_, ?_, hgathers, ?_, ?_, ?_, ?_⟩
  · rw [InOrder, hlog, each_snoc]
    refine ⟨h.inOrder, ?_, hrequests⟩
    rw [Asked, hlast]
    exact ⟨page, path, hlastBrings, herror, hnext, hpath, hargs⟩
  · rw [hlog]
    exact List.rel_append h.pages (.cons hbrings .nil)
  · intro p hp
    rcases List.mem_append.1 hp with hp | hp
    · exact h.errors p hp
    · rw [List.mem_singleton.1 hp]
      exact herror
  · rw [List.append_assoc, List.head?_append, ← h.queryId, List.head?_append]
    cases earlier <;> rfl
  · rw [hlength, add_mul]
    linarith
  · intro _
    rw [hlength]
    linarith

/-- no more pages: what they come to is the answer -/
theorem Reading.delivered {c' : Collected} {result : Result} (h : Reading lib statement timeout began earlier c page queryId w)
    (hgathers : Gathers (earlier ++ [page]) c') (herror : (page.get "error").truthy = false)
    (hnext : (page.get "nextUri").truthy = false) (hrows : c'.rows.mapM (rowDict c'.columns) = .ok result.rows)
    (hid : result.queryId = queryId) (hstats : result.stats = c'.stats) :
    Ended lib statement timeout began (.ok result) w := by
  refine ⟨h.inOrder, earlier ++ [page], h.pages, ?_, ⟨page, by simp, hnext⟩, ?_, ?_, ?_⟩
  · intro p hp
    rcases List.mem_append.1 hp with hp | hp
    · exact h.errors p hp
    · rw [List.mem_singleton.1 hp]
      exact herror
  · rw [← hgathers.rows, ← hgathers.columns]
    exact hrows
  · rw [hid]
    exact h.queryId
  · rw [hstats]
    exact hgathers.stats

/-- the call for the next page brought none -/
theorem Reading.refused {path : String} {x : Exchange} {e : Failure} {v : World}
    (h : Reading lib statement timeout began earlier c page queryId w) (herror : (page.get "error").truthy = false)
    (hnext : (page.get "nextUri").truthy = true) (hpath : pathOf lib (page.get "nextUri") = .ok path)
    (hlog : v.log = w.log ++ [x]) (hargs : x.args = getArgs path) (hrequests : x.requests ≤ 1)
    (hblamed : Blamed lib timeout began v e) : Ended lib statement timeout began (.error e) v := by
  obtain ⟨last, hlast, hlastBrings⟩ := h.last
  refine ⟨?_, hblamed⟩
  rw [InOrder, hlog, each_snoc]
  refine ⟨h.inOrder, ?_, hrequests⟩
  rw [Asked, hlast]
  exact ⟨page, path, hlastBrings, herror, hnext, hpath, hargs⟩

/-- there is time for fewer pauses than the rounds are -/
theorem Reading.rounds_lt (h : Reading lib statement timeout began earlier c page queryId w) : earlier.length < rounds timeout := by
  by_contra hle
  have hlength : ((⌊timeout / pollInterval⌋₊ + 2 : ℕ) : ℚ) ≤ earlier.length := by exact_mod_cast not_lt.1 hle
  push_cast at hlength
  have hne : earlier ≠ [] := by
    rintro rfl
    rw [List.length_nil, Nat.cast_zero] at hlength
    have hfloor : (0 : ℚ) ≤ (⌊timeout / pollInterval⌋₊ : ℚ) := Nat.cast_nonneg _
    linarith
  have hpause : (0 : ℚ) < pollInterval := by norm_num [pollInterval]
  have hfloor := Nat.lt_floor_add_one (timeout / pollInterval)
  rw [div_lt_iff₀ hpause] at hfloor
  have hpauses : ((⌊timeout / pollInterval⌋₊ : ℚ) + 1) * pollInterval ≤ (earlier.length - 1) * pollInterval :=
    mul_le_mul_of_nonneg_right (by linarith) hpause.le
  exact absurd (h.inTime hne) (not_le.2 (hfloor.trans_le hpauses))

/-- a round, and all that follow it -/
theorem wp_follow {started : ℚ} {n : ℕ} (hn : rounds timeout ≤ earlier.length + n)
    (h : Reading lib statement timeout began earlier c page queryId w) :
    wp (demonic (fun _ => True) (serve client)) (follow lib timeout started (began + timeout) queryId n c page)
      (Ended lib statement timeout began) w := by
  induction n generalizing earlier c page w with
  | zero => exact absurd h.rounds_lt (not_lt.2 hn)
  | succ n ih =>
    have hmem : page ∈ earlier ++ [page] := by simp
    have hlast : (earlier ++ [page]).getLast? = some page := by simp
    rw [follow, wp_ite]
    by_cases herror : (page.get "error").truthy = true
    · rw [if_pos herror]
      refine wp_ofExcept (fun text htext => wp_clock fun t ht => ?_) fun e he => ?_
      · exact ⟨h.inOrder, .failed h.pages hlast herror htext h.queryId⟩
      · refine h.malformed (plain_errorText _ e he) fun hreadable => ?_
        rw [errorText, if_pos (hreadable.errors page hmem herror)] at he
        cases he
    rw [if_neg herror]
    have herror : (page.get "error").truthy = false := by simpa using herror
    rcases absorb_cases h.gathers page with ⟨c', habsorb, hgathers⟩ | ⟨className, habsorb, hbad⟩
    · rw [habsorb]
      refine wp_ofExcept (fun c'' hc => ?_) nofun
      obtain rfl := Except.ok.inj hc
      rw [wp_ite]
      split_ifs with hnext
      · refine wp_clock fun t ht => ?_
        rw [wp_ite]
        split_ifs with hlate
        · exact ⟨h.inOrder, .late h.pages hlast hnext hlate⟩
        refine wp_sleep fun t' ht' => ?_
        have hslept : w.net.now ≤ t' := by
          have hpause : (0 : ℚ) < pollInterval := by norm_num [pollInterval]
          have ht'' : t + pollInterval ≤ t' := ht'
          linarith
        have h' : Reading lib statement timeout began earlier c page queryId ((w.at t).at t') := h.at hslept
        rw [get, wp_bind, wp_bind]
        cases hpath : pathOf lib (page.get "nextUri") with
        | error e =>
          refine h'.malformed (plain_pathOf _ e hpath) fun hreadable => ?_
          obtain ⟨path, hread⟩ := hreadable.next page hmem hnext
          cases hpath.symm.trans hread
        | ok path =>
          refine wp_ask rfl ?_ ?_ ?_
          · intro v x next hv hlog hargs hrequests hbrings
            refine ih ?_ (h.next hgathers herror hnext hpath ht (not_lt.1 hlate) (ht'.trans hv) hlog hargs hrequests hbrings)
            rw [List.length_append, List.length_singleton]
            omega
          · intro v x e hlog hargs hrequests hanswer
            refine h'.refused herror hnext hpath hlog hargs hrequests (.call ?_ hanswer)
            rw [hlog, List.getLast?_concat]
          · intro v x response message hlog hargs hrequests hanswer hread
            refine h'.refused herror hnext hpath hlog hargs hrequests (.garbled ?_ hanswer hread)
            rw [hlog, List.getLast?_concat]
      · have hnext : (page.get "nextUri").truthy = false := by simpa using hnext
        refine wp_ofExcept (fun rows hrows => wp_clock fun t ht => ?_) fun e he => ?_
        · exact (h.at ht).delivered hgathers herror hnext hrows rfl rfl
        · refine h.malformed (plain_mapM (plain_rowDict _) _ e he) fun hreadable => ?_
          obtain ⟨rows, hrows⟩ := hreadable.rows
          rw [hgathers.rows, hgathers.columns] at he
          cases he.symm.trans hrows
    · rw [habsorb]
      refine wp_ofExcept nofun fun e he => h.malformed ⟨className, (Except.error.inj he).symm⟩ fun hreadable => ?_
      rcases hbad with hbad | hbad
      · obtain ⟨names, hnames⟩ := hreadable.columns page hmem
        exact hbad names hnames
      · obtain ⟨rows, hrows⟩ := hreadable.data page hmem
        exact hbad rows hrows

theorem wp_execute (lib : Library) (client : Client) (timeout : ℚ) (statement : String) (net : Clients.World) :
    wp (demonic (fun _ => True) (serve client)) (execute lib timeout statement (rounds timeout))
      (fun x w' => ∃ began, net.now ≤ began ∧ Ended lib statement timeout began x w') ⟨net, []⟩ := by
  refine wp_clock fun began hbegan => wp_clock fun started hstarted => ?_
  rw [wp_bind]
  refine wp_ask rfl ?_ ?_ ?_
  · intro v x page hv hlog hargs hrequests hbrings
    refine wp_mono demonic_mono (fun x w' hended => ⟨began, hbegan, hended⟩) 
      (@wp_follow lib client statement timeout began [] _ page _ v started _ ?_ ?_)
    · simp
    · refine ⟨?_, ?_, gathers_nil, by simp, rfl, ?_, by simp⟩
      · rw [hlog]
        exact each_snoc.2 ⟨each_nil, hargs, hrequests⟩
      · rw [hlog]
        exact .cons hbrings .nil
      · have hstart : began ≤ started := hstarted
        have hv' : started ≤ v.net.now := hv
        simpa using hstart.trans hv'
  · intro v x e hlog hargs hrequests hanswer
    refine ⟨began, hbegan, ?_, .call ?_ hanswer⟩
    · rw [hlog]
      exact each_snoc.2 ⟨each_nil, hargs, hrequests⟩
    · rw [hlog]
      rfl
  · intro v x response message hlog hargs hrequests hanswer hread
    refine ⟨began, hbegan, ?_, .garbled ?_ hanswer hread⟩
    · rw [hlog]
      exact each_snoc.2 ⟨each_nil, hargs, hrequests⟩
    · rw [hlog]
      rfl

end Loop

/-- **Whole answers.** However the coordinator pages, delays, fails or garbles its answers: every call asks for what comes
next, with one request at most; what is returned are the rows of all pages, and what is raised says what went wrong. -/
theorem whole_answer (lib : Library) (client : Client) (timeout : ℚ) (statement : String) (os : List Weather)
    (net : Clients.World) :
    ∃ began, net.now ≤ began ∧ Ended lib statement timeout began
      (Prog.run (serve client) os (execute lib timeout statement (rounds timeout)) ⟨net, []⟩).1
      (Prog.run (serve client) os (execute lib timeout statement (rounds timeout)) ⟨net, []⟩).2 :=
  Prog.wp_run trivial (fun _ _ => trivial) (wp_execute lib client timeout statement net)

end TrinoManagement.Sql
