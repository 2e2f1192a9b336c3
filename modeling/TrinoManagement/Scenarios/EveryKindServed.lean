/-
Whether a tick serves every kind that is due, whatever the coordinator replies.

A failed request becomes a snapshot with a collection error. A reply that was decoded may still be of a shape that one of the polls
does not expect; what that raises is not caught before the worker's loop, and the kinds behind it are not polled.
- `poll_ok`: the replies that one poll gets through.
- `serveAll_served`: polls that return have each produced a snapshot and been rescheduled.
- `servesAll_iff`: a tick serves every due kind exactly when the replies to the due polls are servable.
- `text_for_stats`: a query with a text for its statistics ends the tick.
-/
import Mathlib.Tactic
import TrinoManagement.Collector.Ticks

namespace TrinoManagement.Ticks

open TrinoManagement.Collector (PollClocks Poller PollerConfig SnapshotKind jmxMbeans queryManagerMbean)

/-! ## One poll -/

section Polls

variable (str : Json → String) (cfg : PollerConfig) (r : Round)

/-- the entries of a query list, and the list itself -/
structure ListServable (reply : Except Failure (Json × ℕ)) : Prop where
  decoded : ∀ e, reply ≠ .error (.raises e)
  queries : ∀ entries bytes, reply = .ok (.list entries, bytes) → ∀ raw ∈ entries, raw.isDict = true →
    QuerySummarisable str cfg raw

/-- the stored number of running queries, if it is recent, is neither NaN nor infinite -/
def Comparable (atHand : Option (ℚ × Json)) : Prop :=
  ∀ collectedAt value, atHand = some (collectedAt, value) → r.wall - collectedAt ≤ cfg.crossCheckMaxAge → value.Finite

/-- what the stored JMX snapshot says of it -/
def stored (jmx : Option JmxSnapshot) : Option (ℚ × Json) := jmx.map fun s => (s.collectedAt, runningQueries s.payload)

/-- what each poll needs of the replies and the store -/
def PollServable (jmx : Option JmxSnapshot) : SnapshotKind → Prop
  | .info => ∀ e, r.info ≠ .error (.raises e)
  | .jmx => ∀ name ∈ jmxMbeans, Readable (r.mbean name)
  | .resourceGroups => GroupsServable str r.registry r.groupMbean
  | .queries => r.loadRaises = none ∧ Comparable cfg r (stored jmx) ∧ ListServable str cfg r.queries

variable {str cfg r} {clocks : PollClocks} {p : Poller} {jmx : Option JmxSnapshot}

theorem pollInfo_ok {reply : Reply} : Ok (pollInfo cfg clocks p reply) ↔ ∀ e, reply ≠ .error (.raises e) := by
  unfold pollInfo getServerInfo
  cases reply with
  | error failure => cases failure <;> simp [Ok]
  | ok info => cases h : info.isDict <;> simp [Ok, h, protocolError]

theorem readMbean_ok {replies : String → Reply} {name : String} :
    Ok (readMbean str replies name) ↔ Readable (replies name) := by
  rw [← @getMbean_ok str name, readMbean]
  cases getMbean str name (replies name) with
  | error failure => cases failure <;> simp [Ok]
  | ok attributes => simp [Ok]

theorem pollJmx_ok {replies : String → Reply} :
    Ok (pollJmx str cfg clocks p replies) ↔ ∀ name ∈ jmxMbeans, Readable (replies name) := by
  unfold pollJmx
  rw [ok_bind (ok_mapM (fun _ => readMbean_ok) _) (Q := True), and_true]
  intro reads
  dsimp only
  split
  · exact ok_pure _
  · exact ok_pure _

theorem lastJmxRunningQueries_ok : Ok (lastJmxRunningQueries cfg r.wall jmx) ↔ Comparable cfg r (stored jmx) := by
  unfold lastJmxRunningQueries Comparable stored
  cases jmx with
  | none => simp [Ok]
  | some s =>
    have hstale : s.isStale r.wall cfg.crossCheckMaxAge = true ↔ ¬ r.wall - s.collectedAt ≤ cfg.crossCheckMaxAge := by
      rw [Collector.Snapshot.isStale, decide_eq_true_iff, not_le]
    by_cases h : s.isStale r.wall cfg.crossCheckMaxAge = true
    · dsimp only
      rw [if_pos h]
      refine ⟨fun _ collectedAt value heq hle => ?_, fun _ => ⟨_, rfl⟩⟩
      cases heq
      exact absurd hle (hstale.1 h)
    · have hfresh : r.wall - s.collectedAt ≤ cfg.crossCheckMaxAge := not_not.1 fun hnot => h (hstale.2 hnot)
      dsimp only
      rw [if_neg h]
      have hfinite : (∀ collectedAt value, some (s.collectedAt, runningQueries s.payload) = some (collectedAt, value) →
          r.wall - collectedAt ≤ cfg.crossCheckMaxAge → value.Finite) ↔ (runningQueries s.payload).Finite := by
        refine ⟨fun hall => hall _ _ rfl hfresh, fun hfin collectedAt value heq _ => ?_⟩
        cases heq
        exact hfin
      rw [Option.map_some, hfinite]
      cases runningQueries s.payload with
      | float x => exact ok_map.trans ok_toInt
      | _ => simp [Ok, Json.Finite]

theorem pollQueries_ok {running : Option ℤ} {reply : Except Failure (Json × ℕ)} :
    Ok (pollQueries str cfg clocks p running reply) ↔ ListServable str cfg reply := by
  unfold pollQueries
  cases hlist : listQueries reply with
  | error failure =>
    have hnone : ∀ entries bytes, reply ≠ .ok (.list entries, bytes) := by
      rintro entries bytes rfl
      cases hlist
    cases failure with
    | client e =>
      refine ⟨fun _ => ⟨?_, fun entries bytes h => absurd h (hnone entries bytes)⟩, fun _ => ⟨_, rfl⟩⟩
      rintro e' rfl
      cases hlist
    | raises e =>
      constructor
      · rintro ⟨_, h⟩
        cases h
      · exact fun h => absurd (listQueries_raises.1 hlist) (h.decoded e)
  | ok result =>
    obtain ⟨raws, bytes⟩ := result
    obtain ⟨entries, rfl, rfl⟩ := listQueries_eq_ok.1 hlist
    dsimp only
    rw [ok_bind (ok_mapM (fun _ => summariseQuery_ok) _) fun _ => ok_pure _, and_true]
    simp only [List.mem_filter, and_imp]
    constructor
    · refine fun h => ⟨by simp, fun entries' bytes' heq => ?_⟩
      cases heq
      exact h
    · exact fun h => h.queries entries bytes rfl

/-- **One poll** returns exactly when its replies and the store are as it needs them. -/
theorem poll_ok {kind : SnapshotKind} : Ok (poll str cfg r p jmx kind) ↔ PollServable str cfg r jmx kind := by
  cases kind with
  | info => exact (ok_bind pollInfo_ok fun _ => ok_pure _).trans (and_iff_left trivial)
  | jmx => exact (ok_bind pollJmx_ok fun _ => ok_pure _).trans (and_iff_left trivial)
  | resourceGroups =>
    refine (ok_bind (P := GroupsServable str r.registry r.groupMbean) ?_ fun _ => ok_pure _).trans (and_iff_left trivial)
    exact (ok_bind collect_ok fun _ => ok_pure _).trans (and_iff_left trivial)
  | queries =>
    unfold poll PollServable
    cases r.loadRaises with
    | some e => simp [Ok]
    | none =>
      dsimp only
      rw [ok_bind lastJmxRunningQueries_ok fun _ => ok_bind pollQueries_ok fun _ => ok_pure _]
      simp

end Polls

/-! ## The reading that the query list is held against -/

section Reading

variable (str : Json → String)

/-- the last attribute of the name in an MBean's reply -/
def reported (reply : Reply) (name : String) : Json :=
  match reply with
  | .ok payload =>
    match payload.get "attributes" with
    | .list items =>
      ((items.reverse.find? fun item => decide (nameOf str item = some (PyText.ofString name))).map (·.get "value")).getD .null
    | _ => .null
  | .error _ => .null

variable {str} {cfg : PollerConfig} {clocks : PollClocks} {p p' : Poller} {s : JmxSnapshot} {replies : String → Reply}

theorem attributesOf_nameless {items : List Json} (h : ∀ item ∈ items, item.isDict = false) :
    attributesOf str items = [] := by
  unfold attributesOf
  induction items with
  | nil => rfl
  | cons item items ih =>
    obtain ⟨hitem, hitems⟩ := List.forall_mem_cons.1 h
    have hname : nameOf str item = none := by rw [nameOf, Json.get_eq_null hitem]
    rw [List.foldl_cons, hname]
    exact ih hitems

theorem reported_list {payload : Json} {items : List Json} {name : String} (h : payload.get "attributes" = .list items) :
    reported str (.ok payload) name = ((attributesOf str items).lookup (PyText.ofString name)).getD .null := by
  unfold reported
  dsimp only
  rw [h, lookup_attributesOf]

theorem reported_other {reply : Reply} {name : String}
    (h : ∀ payload items, reply = .ok payload → payload.get "attributes" ≠ .list items) : reported str reply name = .null := by
  unfold reported
  split
  · next payload =>
    split
    · next items hitems => exact absurd hitems (h payload items rfl)
    · rfl
  · rfl

/-- the attribute of what was read, or nothing -/
theorem get_getMbean {name key : String} {reply : Reply} :
    (((getMbean str name reply).toOption.map Json.dict).getD .null).get key = reported str reply key := by
  by_cases hlist : ∃ payload items, reply = .ok payload ∧ payload.get "attributes" = .list items
  · obtain ⟨payload, items, rfl, hitems⟩ := hlist
    have hdict : payload.isDict = true := by
      by_contra hnot
      rw [Json.get_eq_null (by simpa using hnot)] at hitems
      cases hitems
    have hread : getMbean str name (.ok payload) = .ok (attributesOf str items) :=
      getMbean_eq_ok.2 ⟨payload, items, rfl, hdict, by rw [hitems, Json.items_list], rfl⟩
    rw [hread, reported_list hitems]
    rfl
  · have hother : ∀ payload items, reply = .ok payload → payload.get "attributes" ≠ .list items :=
      fun payload items hreply hitems => hlist ⟨payload, items, hreply, hitems⟩
    rw [reported_other hother]
    cases hread : getMbean str name reply with
    | error e => rfl
    | ok attributes =>
      obtain ⟨payload, items, hreply, -, hitems, rfl⟩ := getMbean_eq_ok.1 hread
      rw [attributesOf_nameless (Json.isDict_of_items (fun items' => hother payload items' hreply) hitems)]
      rfl

theorem readMbean_eq_ok {name : String} {x : String × Except Collector.ClientError Attributes}
    (h : readMbean str replies name = .ok x) : x.1 = name ∧ x.2.toOption = (getMbean str name (replies name)).toOption := by
  unfold readMbean at h
  cases hread : getMbean str name (replies name) with
  | error failure =>
    rw [hread] at h
    cases failure with
    | client e =>
      cases h
      exact ⟨rfl, rfl⟩
    | raises e => cases h
  | ok attributes =>
    rw [hread] at h
    cases h
    exact ⟨rfl, rfl⟩

/-- each MBean that was read is there under its name -/
theorem lookup_mbeansAmong {names : List String} {reads : List (String × Except Collector.ClientError Attributes)}
    (h : names.mapM (readMbean str replies) = .ok reads) (name : String) :
    (mbeansAmong reads).lookup name = if name ∈ names then (getMbean str name (replies name)).toOption else none := by
  induction names generalizing reads with
  | nil =>
    cases h
    rfl
  | cons n names ih =>
    rw [List.mapM_cons] at h
    obtain ⟨x, hx, h⟩ := bind_eq_ok.1 h
    obtain ⟨reads', hreads, h⟩ := bind_eq_ok.1 h
    cases h
    obtain ⟨hname, hread⟩ := readMbean_eq_ok hx
    rw [mbeansAmong, List.filterMap_cons, hname, hread]
    have hrest := ih hreads
    rw [mbeansAmong] at hrest
    by_cases hn : name = n
    · subst hn
      cases hmbean : (getMbean str name (replies name)).toOption with
      | none => simpa [hmbean] using hrest
      | some attributes => simp
    · cases (getMbean str n (replies n)).toOption with
      | none => simpa [hn] using hrest
      | some attributes => simpa [hn, List.lookup_cons, beq_eq_false_iff_ne.2 hn] using hrest

theorem lookup_ofString {α : Type} {f : α → Json} (l : List (String × α)) (key : String) :
    (l.map fun x => (PyText.ofString x.1, f x.2)).lookup (PyText.ofString key) = (l.lookup key).map f := by
  induction l with
  | nil => rfl
  | cons x l ih =>
    obtain ⟨k, v⟩ := x
    rw [List.map_cons, List.lookup_cons, List.lookup_cons, ih]
    by_cases hkey : key = k
    · simp [hkey]
    · have htext : PyText.ofString key ≠ PyText.ofString k := fun h => hkey (PyText.ofString_injective h)
      rw [beq_eq_false_iff_ne.2 hkey, beq_eq_false_iff_ne.2 htext]

/-- **A JMX poll** stores the number of running queries as it was reported. -/
theorem runningQueries_pollJmx (h : pollJmx str cfg clocks p replies = .ok (s, p')) :
    s.collectedAt = clocks.collectedAt ∧
      runningQueries s.payload = reported str (replies queryManagerMbean) "RunningQueries" := by
  obtain ⟨reads, hreads, h⟩ := bind_eq_ok.1 h
  have hlookup : ((mbeansAmong reads).map fun x => (PyText.ofString x.1, Json.dict x.2)).lookup
      (PyText.ofString queryManagerMbean) =
        (getMbean str queryManagerMbean (replies queryManagerMbean)).toOption.map Json.dict := by
    rw [lookup_ofString, lookup_mbeansAmong hreads, if_pos (by decide)]
  rw [← @get_getMbean str queryManagerMbean, ← hlookup]
  dsimp only at h
  split at h
  · next hempty =>
    cases h
    rw [List.isEmpty_iff.1 hempty]
    exact ⟨rfl, rfl⟩
  · cases h
    exact ⟨rfl, rfl⟩

end Reading

/-! ## The polls of a tick -/

section Served

variable {str : Json → String} {cfg : PollerConfig} {r : Round} {p p' : Poller} {jmx : Option JmxSnapshot} {s : Produced}
  {kind : SnapshotKind} {kinds : List SnapshotKind} {t : Ticked}

theorem nextDue_adaptInterval (p : Poller) (responseBytes : ℕ) : (p.adaptInterval cfg responseBytes).nextDue = p.nextDue := by
  unfold Poller.adaptInterval
  split_ifs <;> rfl

/-- a poll leaves the schedule to the tick, and the interval to the queries poll -/
structure Polled (kind : SnapshotKind) (p : Poller) (s : Produced) (p' : Poller) : Prop where
  produced : s.kind = kind
  nextDue : p'.nextDue = p.nextDue
  queryInterval : kind ≠ .queries → p'.queryInterval = p.queryInterval

theorem poll_polled (h : poll str cfg r p jmx kind = .ok (s, p')) : Polled kind p s p' := by
  cases kind with
  | info =>
    obtain ⟨⟨snapshot, p₁⟩, hpoll, h⟩ := bind_eq_ok.1 h
    cases h
    unfold pollInfo at hpoll
    split at hpoll <;> cases hpoll <;> exact ⟨rfl, rfl, fun _ => rfl⟩
  | jmx =>
    obtain ⟨⟨snapshot, p₁⟩, hpoll, h⟩ := bind_eq_ok.1 h
    cases h
    obtain ⟨reads, -, hpoll⟩ := bind_eq_ok.1 hpoll
    dsimp only at hpoll
    split at hpoll <;> cases hpoll <;> exact ⟨rfl, rfl, fun _ => rfl⟩
  | resourceGroups =>
    obtain ⟨⟨snapshot, p₁⟩, hpoll, h⟩ := bind_eq_ok.1 h
    cases h
    obtain ⟨collection, -, hpoll⟩ := bind_eq_ok.1 hpoll
    cases hpoll
    refine ⟨rfl, ?_, fun _ => ?_⟩
    · split_ifs <;> rfl
    · split_ifs <;> rfl
  | queries =>
    unfold poll at h
    dsimp only at h
    split at h
    · cases h
    · obtain ⟨running, -, h⟩ := bind_eq_ok.1 h
      obtain ⟨⟨snapshot, p₁⟩, hpoll, h⟩ := bind_eq_ok.1 h
      cases h
      refine ⟨rfl, ?_, fun hne => absurd rfl hne⟩
      unfold pollQueries at hpoll
      split at hpoll
      · cases hpoll
        rfl
      · cases hpoll
      · obtain ⟨rows, -, hpoll⟩ := bind_eq_ok.1 hpoll
        cases hpoll
        dsimp only
        split_ifs <;> exact nextDue_adaptInterval ..

/-- only a JMX poll stores a JMX snapshot -/
theorem jmx_deliver (hs : s.kind ≠ .jmx) : (t.deliver cfg r kind s p).jmx = t.jmx := by
  cases s with
  | jmx j => exact absurd rfl hs
  | _ => cases hsave : r.saves kind <;> simp [Ticked.deliver, hsave]

/-- polls that have returned -/
structure ServedFrom (cfg : PollerConfig) (r : Round) (kinds : List SnapshotKind) (t t' : Ticked) : Prop where
  produced : t'.produced.map Produced.kind = t.produced.map Produced.kind ++ kinds
  rescheduled : ∀ kind ∈ kinds, t'.poller.nextDue kind = some ((r.clocks kind).rescheduled + t'.poller.interval cfg kind)
  others : ∀ kind ∉ kinds, t'.poller.nextDue kind = t.poller.nextDue kind
  interval : SnapshotKind.queries ∉ kinds → t'.poller.queryInterval = t.poller.queryInterval

/-- **Polls that return** have each produced a snapshot and been rescheduled. -/
theorem serveAll_served (hnodup : kinds.Nodup) (h : (serveAll str cfg r kinds t).2 = none) :
    ServedFrom cfg r kinds t (serveAll str cfg r kinds t).1 := by
  induction kinds generalizing t with
  | nil => exact ⟨(List.append_nil _).symm, fun _ hkind => absurd hkind List.not_mem_nil, fun _ _ => rfl, fun _ => rfl⟩
  | cons kind kinds ih =>
    obtain ⟨hfresh, hrest⟩ := List.nodup_cons.1 hnodup
    rw [serveAll] at h ⊢
    cases hpoll : poll str cfg r t.poller t.jmx kind with
    | error e =>
      rw [hpoll] at h
      cases h
    | ok x =>
      obtain ⟨s, p⟩ := x
      rw [hpoll] at h
      have hp := poll_polled hpoll
      have hserved := ih hrest h
      dsimp only
      refine ⟨?_, ?_, ?_, ?_⟩
      · have hproduced : (t.deliver cfg r kind s p).produced = t.produced ++ [s] := rfl
        rw [hserved.produced, hproduced, List.map_append, List.map_singleton, hp.produced, List.append_assoc]
        rfl
      · rw [List.forall_mem_cons]
        refine ⟨?_, hserved.rescheduled⟩
        rw [hserved.others kind hfresh]
        -- the polls after this one leave the interval it was rescheduled by
        have hinterval : (serveAll str cfg r kinds (t.deliver cfg r kind s p)).1.poller.interval cfg kind = p.interval cfg kind := by
          cases kind with
          | queries => exact hserved.interval hfresh
          | _ => rfl
        rw [hinterval]
        exact Function.update_self ..
      · intro other hother
        obtain ⟨hne, hnot⟩ := not_or.1 (List.mem_cons.not.1 hother)
        rw [hserved.others other hnot, ← hp.nextDue]
        exact Function.update_of_ne hne ..
      · intro hqueries
        obtain ⟨hne, hnot⟩ := not_or.1 (List.mem_cons.not.1 hqueries)
        rw [hserved.interval hnot]
        exact hp.queryInterval (Ne.symm hne)

/-- without a JMX poll among them, the polls meet the snapshot stored before -/
theorem serveAll_returns (hjmx : SnapshotKind.jmx ∉ kinds) :
    (serveAll str cfg r kinds t).2 = none ↔ ∀ kind ∈ kinds, PollServable str cfg r t.jmx kind := by
  induction kinds generalizing t with
  | nil => exact iff_of_true rfl fun _ hkind => absurd hkind List.not_mem_nil
  | cons kind kinds ih =>
    obtain ⟨hne, hnot⟩ := not_or.1 (List.mem_cons.not.1 hjmx)
    rw [List.forall_mem_cons, ← @poll_ok str cfg r t.poller, serveAll]
    cases hpoll : poll str cfg r t.poller t.jmx kind with
    | error e => simp [Ok]
    | ok x =>
      obtain ⟨s, p⟩ := x
      have hjmx' : (t.deliver cfg r kind s p).jmx = t.jmx := jmx_deliver (by rw [(poll_polled hpoll).produced]; exact Ne.symm hne)
      dsimp only
      rw [ih hnot, hjmx']
      exact (and_iff_right ⟨_, rfl⟩).symm

end Served

/-! ## The tick -/

section Ticks

variable (str : Json → String) (cfg : PollerConfig) (r : Round) (p : Poller) (earlier : Option JmxSnapshot)

/-- the number of running queries that the cross-check meets, and when it was collected: of this tick's reply if that was stored,
and of the snapshot stored earlier otherwise -/
def atHand : Option (ℚ × Json) :=
  if p.isDue r.now .jmx && r.saves .jmx then
    some ((r.clocks .jmx).collectedAt, reported str (r.mbean queryManagerMbean) "RunningQueries")
  else stored earlier

/-- what the due polls need of the replies and the store -/
structure Servable : Prop where
  jmx : p.isDue r.now .jmx = true → ∀ name ∈ jmxMbeans, Readable (r.mbean name)
  load : p.isDue r.now .queries = true → r.loadRaises = none
  comparable : p.isDue r.now .queries = true → Comparable cfg r (atHand str r p earlier)
  queries : p.isDue r.now .queries = true → ListServable str cfg r.queries
  info : p.isDue r.now .info = true → ∀ e, r.info ≠ .error (.raises e)
  resourceGroups : p.isDue r.now .resourceGroups = true → GroupsServable str r.registry r.groupMbean

/-- it returns, with one snapshot of each due kind, and each of them rescheduled -/
structure ServesAll : Prop where
  returns : (tick str cfg r p earlier).2 = none
  produced : (tick str cfg r p earlier).1.produced.map Produced.kind = p.dueKinds r.now
  rescheduled : ∀ kind ∈ p.dueKinds r.now, (tick str cfg r p earlier).1.poller.nextDue kind =
    some ((r.clocks kind).rescheduled + (tick str cfg r p earlier).1.poller.interval cfg kind)

variable {str cfg r p earlier}

/-- the kinds after JMX that are due -/
def dueAfterJmx (r : Round) (p : Poller) : List SnapshotKind :=
  [SnapshotKind.queries, .info, .resourceGroups].filter (p.isDue r.now)

theorem jmx_dueAfterJmx : SnapshotKind.jmx ∉ dueAfterJmx r p :=
  fun hmem => absurd (List.mem_filter.1 hmem).1 (by decide)

theorem servable_iff {jmx : Option JmxSnapshot} (h : stored jmx = atHand str r p earlier) : Servable str cfg r p earlier ↔
    (p.isDue r.now .jmx = true → ∀ name ∈ jmxMbeans, Readable (r.mbean name)) ∧
      ∀ kind ∈ dueAfterJmx r p, PollServable str cfg r jmx kind := by
  constructor
  · intro hs
    refine ⟨hs.jmx, fun kind hkind => ?_⟩
    obtain ⟨hmem, hdue⟩ := List.mem_filter.1 hkind
    simp only [List.mem_cons, List.not_mem_nil, or_false] at hmem
    rcases hmem with rfl | rfl | rfl
    · exact ⟨hs.load hdue, h ▸ hs.comparable hdue, hs.queries hdue⟩
    · exact hs.info hdue
    · exact hs.resourceGroups hdue
  · rintro ⟨hjmx, hrest⟩
    have hpoll : ∀ kind ∈ [SnapshotKind.queries, .info, .resourceGroups], p.isDue r.now kind = true →
        PollServable str cfg r jmx kind := fun kind hmem hdue => hrest kind (List.mem_filter.2 ⟨hmem, hdue⟩)
    have hqueries := hpoll .queries (by decide)
    exact ⟨hjmx, fun hdue => (hqueries hdue).1, fun hdue => h ▸ (hqueries hdue).2.1, fun hdue => (hqueries hdue).2.2,
      hpoll .info (by decide), hpoll .resourceGroups (by decide)⟩

/-- **A tick returns** exactly when the replies to the due polls are servable. -/
theorem returns_iff : (tick str cfg r p earlier).2 = none ↔ Servable str cfg r p earlier := by
  unfold tick
  by_cases hdue : p.isDue r.now .jmx = true
  · have hkinds : p.dueKinds r.now = .jmx :: dueAfterJmx r p := List.filter_cons_of_pos hdue
    rw [hkinds, serveAll]
    cases hpoll : poll str cfg r p earlier .jmx with
    | error e =>
      refine ⟨nofun, fun h => ?_⟩
      obtain ⟨x, hx⟩ := (@poll_ok str cfg r p earlier .jmx).2 (h.jmx hdue)
      rw [hpoll] at hx
      cases hx
    | ok x =>
      obtain ⟨s, p'⟩ := x
      have hreadable := (@poll_ok str cfg r p earlier .jmx).1 ⟨_, hpoll⟩
      have hstored : stored ((⟨p, earlier, []⟩ : Ticked).deliver cfg r .jmx s p').jmx = atHand str r p earlier := by
        obtain ⟨⟨snapshot, p₁⟩, hjmx, h⟩ := bind_eq_ok.1 hpoll
        cases h
        obtain ⟨hat, hrunning⟩ := runningQueries_pollJmx hjmx
        unfold atHand
        cases hsaves : r.saves .jmx with
        | false => simp [Ticked.deliver, hsaves]
        | true => simp [Ticked.deliver, hsaves, hdue, stored, hat, hrunning]
      dsimp only
      rw [serveAll_returns jmx_dueAfterJmx, servable_iff hstored]
      exact (and_iff_right fun _ => hreadable).symm
  · have hkinds : p.dueKinds r.now = dueAfterJmx r p := List.filter_cons_of_neg hdue
    have hstored : stored earlier = atHand str r p earlier := by simp [atHand, hdue]
    rw [hkinds, serveAll_returns jmx_dueAfterJmx, servable_iff hstored]
    exact (and_iff_right fun h => absurd h hdue).symm

/-- **A tick serves every due kind** exactly when the replies to the due polls are servable. -/
theorem servesAll_iff (str : Json → String) (cfg : PollerConfig) (r : Round) (p : Poller) (earlier : Option JmxSnapshot) :
    ServesAll str cfg r p earlier ↔ Servable str cfg r p earlier := by
  rw [← returns_iff]
  refine ⟨fun h => h.returns, fun h => ?_⟩
  have hnodup : (p.dueKinds r.now).Nodup := List.Nodup.filter _ (by decide)
  have hserved := serveAll_served hnodup h
  exact ⟨h, hserved.produced, hserved.rescheduled⟩

end Ticks

/-- the defaults, with resource groups -/
def plainConfig : PollerConfig :=
  ⟨"prod-a", 5, 15, 30, 4096, 300, 5000000, 10, none, 2, some 30, fun _ => ""⟩

/-- one query, with a text for its statistics -/
def textForStats : Json :=
  .list [.dict [(PyText.ofString "queryId", .str (PyText.ofString "q1")), (PyText.ofString "queryStats", .str (PyText.ofString "n/a"))]]

/-- a first round of replies: empty objects and lists, and the one query -/
def firstRound : Round where
  now := 0
  wall := 0
  clocks := fun _ => ⟨0, 0, 0⟩
  info := .ok (.dict [])
  mbean := fun _ => .ok (.dict [])
  queries := .ok (textForStats, 60)
  registry := .ok (.list [])
  groupMbean := fun _ => .ok (.dict [])
  loadRaises := none
  saves := fun _ => true

/-- all four kinds are due, and only the first is served -/
theorem text_for_stats : plainConfig.init.dueKinds firstRound.now = [.jmx, .queries, .info, .resourceGroups] ∧
    (tick (fun _ => "") plainConfig firstRound plainConfig.init none).2 = some .attributeError ∧
    (tick (fun _ => "") plainConfig firstRound plainConfig.init none).1.produced.map Produced.kind = [.jmx] ∧
    ¬ ServesAll (fun _ => "") plainConfig firstRound plainConfig.init none := by
  have hraises : (tick (fun _ => "") plainConfig firstRound plainConfig.init none).2 = some .attributeError := by
    decide +kernel
  refine ⟨by decide +kernel, hraises, by decide +kernel, fun h => ?_⟩
  rw [h.returns] at hraises
  cases hraises

end TrinoManagement.Ticks
