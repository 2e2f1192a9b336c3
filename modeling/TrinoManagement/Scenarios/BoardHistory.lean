/-
Is the history of a work item a chain? An update reads the status, writes the new one and inserts the event, and each of the
three commits by itself.

- `board`: calls of the repository side by side, one statement at a time. `watched`: the same, with the events that are owed
  kept beside the tables, oldest first.
- `History`: what is claimed of an item. `InTurn`: what a statement must not do to it.
- `histories_chain`: every interleaving whose statements are in turn. `memory_chains`: the repository in memory, always.
- `moved_twice`: two updates that read the same status.
-/
import Mathlib.Tactic
import TrinoManagement.Work.Board

namespace TrinoManagement.Board

open TrinoManagement.Pool (Ending Suits beside ending_step owed owed_eq_zero pool_owed run_beside)
open TrinoManagement.Prog (protocol protocol_mono wp wp_mono)
open TrinoManagement.Run (Meets meets_of_forall run run_inv)

/-! ## Calls side by side -/

def board : Pool.System Call Act Act.Answer BoardError Unit Weather Empty Tables Progress where
  program := Call.prog
  protocol _ := recording
  fresh := ⟨none, none⟩
  handle := serve
  spawned _ t := t
  outside l _ := nomatch l

abbrev Moves := List (Pool.Move Call Weather Empty)

/-- its next statement is the insert of an event -/
def Recording (p : BoardM Unit) : Prop :=
  match p with
  | .act (.insertEvent ..) _ => True
  | _ => False

instance : DecidablePred Recording
  | .ret _ | .raise _ => isFalse id
  | .act (.insertEvent ..) _ => isTrue trivial
  | .act .cursor _ | .act (.selectItem _) _ | .act (.selectComments _) _ | .act (.selectEvents _) _
  | .act (.selectStatus _) _ | .act (.selectId _) _ | .act (.update ..) _ | .act (.insertComment ..) _
  | .act (.insertItem _) _ => isFalse id

/-- no update has yet to record the change it has made -/
def Settled (threads : List (Pool.Thread Call Act Act.Answer BoardError Unit Progress)) : Prop :=
  ∀ th ∈ threads, ¬Recording th.prog

instance (threads : List (Pool.Thread Call Act Act.Answer BoardError Unit Progress)) : Decidable (Settled threads) :=
  inferInstanceAs (Decidable (∀ th ∈ threads, ¬Recording th.prog))

/-! ## The claim -/

def passages (events : List Event) (id : ℕ) : List (String × String) :=
  (events.filter (·.itemId = id)).map fun e => (e.fromStatus, e.toStatus)

/-- the status events of an item are a chain that ends at its status -/
def History (events : List Event) (item : Item) : Prop := Chained (passages events item.id) item.status

instance (events : List Event) (item : Item) : Decidable (History events item) :=
  inferInstanceAs (Decidable (Chained (passages events item.id) item.status))

/-! ## The condition -/

/-- the changes of an item that are yet to be recorded -/
def outstanding (queue : List Owed) (id : ℕ) : List Owed := queue.filter (·.itemId = id)

/-- the change between two states of the tables to the status of the item with this key -/
def moved (key : String) (t t' : Tables) : List Owed :=
  match t.item? key, t'.item? key with
  | some before, some after => if after.status = before.status then [] else [⟨before.id, before.status, after.status⟩]
  | _, _ => []

/-- the queue after a statement: the change an UPDATE makes is put at its end, and one that is recorded leaves it -/
def note (o : Weather) (e : Act) (t : Tables) (queue : List Owed) : List Owed :=
  match e with
  | .update key _ => queue ++ moved key t (serve o e t).2
  | .insertEvent id _ fromStatus toStatus =>
    if (serve o e t).2.events = t.events then queue else queue.erase ⟨id, fromStatus, toStatus⟩
  | _ => queue

def watched := beside board note

/-- an UPDATE of a status that goes through finds the status its call has read, and one that is reported as failed changes
none; an event is stored, and changes made before it have been recorded -/
def InTurn (_ : Call) (s : Tables × List Owed) (g : Progress) (o : Weather) : Act → Prop
  | .update key fields => fields.status.isSome →
    if (serve o (.update key fields) s.1).1 = .ok () then g.read = (s.1.item? key).map fun item => (item.id, item.status)
    else ((serve o (.update key fields) s.1).2.item? key).map (·.status) = (s.1.item? key).map (·.status)
  | .insertEvent id actor fromStatus toStatus =>
    (serve o (.insertEvent id actor fromStatus toStatus) s.1).2.events ≠ s.1.events ∧
      (outstanding s.2 id).head? = some ⟨id, fromStatus, toStatus⟩
  | _ => True

instance (call : Call) (s : Tables × List Owed) (g : Progress) (o : Weather) : (e : Act) → Decidable (InTurn call s g o e)
  | .update key fields => inferInstanceAs (Decidable (fields.status.isSome = true →
      if (serve o (.update key fields) s.1).1 = .ok () then g.read = (s.1.item? key).map fun item => (item.id, item.status)
      else ((serve o (.update key fields) s.1).2.item? key).map (·.status) = (s.1.item? key).map (·.status)))
  | .insertEvent id actor fromStatus toStatus => inferInstanceAs (Decidable
      ((serve o (.insertEvent id actor fromStatus toStatus) s.1).2.events ≠ s.1.events ∧
        (outstanding s.2 id).head? = some ⟨id, fromStatus, toStatus⟩))
  | .cursor | .selectItem _ | .selectComments _ | .selectEvents _ | .selectStatus _ | .selectId _ | .insertComment ..
  | .insertItem _ => isTrue trivial

/-! ## One statement -/

def Owed.passage (w : Owed) : String × String := (w.fromStatus, w.toStatus)

/-- what is stored of an item and what is yet to be stored, one after the other, is a chain -/
structure Inv (s : Tables × List Owed) : Prop where
  chain : ∀ item ∈ s.1.items,
    Chained (passages s.1.events item.id ++ (outstanding s.2 item.id).map Owed.passage) item.status
  known : ∀ w ∈ s.2, w.itemId ∈ s.1.items.map (·.id) ∧ IsStatus w.fromStatus ∧ IsStatus w.toStatus

section Statements

variable {t : Tables} {queue : List Owed} {o : Weather} {key : String} {fields : Fields} {item : Item}

theorem serve_cases (o : Weather) (e : Act) (t : Tables) :
    (serve o e t).2 = t ∨ (serve o e t).2 = (apply o.now e t).2 := by
  rcases Guard.strike_cases o.fault .operational t (apply o.now e t) with hserved | ⟨m, -, hsame | happlied⟩
  · exact .inr (congrArg Prod.snd hserved)
  · exact .inl hsame
  · exact .inr happlied

/-- an answer is that of the tables -/
theorem serve_ok {e : Act} {a : e.Result} (h : (serve o e t).1 = .ok a) : serve o e t = apply o.now e t := by
  rcases Guard.strike_cases o.fault .operational t (apply o.now e t) with hserved | ⟨m, herror, -⟩
  · exact hserved
  · cases h.symm.trans herror

theorem mem_of_item? (h : t.item? key = some item) : item ∈ t.items ∧ item.key = key :=
  ⟨List.mem_of_find?_eq_some h, by simpa using List.find?_some h⟩

theorem item?_patch (patch : Patch) (now : ℤ) :
    (t.patch key patch now).item? key = (t.item? key).map (patched patch now key) := by
  change (t.items.map (patched patch now key)).find? _ = (t.items.find? _).map _
  rw [List.find?_map]
  congr 1
  refine List.find?_congr ?_
  intro item _
  simp [patched_key]

/-- what an UPDATE may leave -/
theorem update_cases (t : Tables) (key : String) (fields : Fields) (now : ℤ) :
    (t.update key fields now).2 = t ∧ ((t.update key fields now).1 = .ok () → t.item? key = none) ∨
      ∃ patch before, fields.cast = .ok patch ∧ t.item? key = some before ∧
        (t.update key fields now) = (.ok (), t.patch key patch now) := by
  unfold Tables.update
  split_ifs with hfound
  · obtain ⟨before, hbefore⟩ := Option.isSome_iff_exists.1 hfound
    cases hcast : fields.cast with
    | error e => exact .inl ⟨rfl, fun h => by cases h⟩
    | ok patch => exact .inr ⟨patch, before, rfl, hbefore, rfl⟩
  · exact .inl ⟨rfl, fun _ => by simpa using hfound⟩

theorem moved_same : moved key t t = [] := by
  unfold moved
  cases t.item? key with
  | none => rfl
  | some item => exact if_pos rfl

theorem patched_of_key {patch : Patch} {now : ℤ} (h : item.key = key) : patched patch now key item = patch.fields.on now item :=
  if_pos h

/-- the status that a patch leaves -/
theorem patch_status {patch : Patch} {now : ℤ} {before : Item} (h : t.item? key = some before) :
    moved key t (t.patch key patch now) =
      if patch.fields.status.getD before.status = before.status then []
      else [⟨before.id, before.status, patch.fields.status.getD before.status⟩] := by
  unfold moved
  rw [item?_patch, h, Option.map_some, patched_of_key (mem_of_item? h).2]
  rfl

theorem Inv.same {s s' : Tables × List Owed} (h : Inv s) (hitems : s'.1.items = s.1.items) (hevents : s'.1.events = s.1.events)
    (hqueue : s'.2 = s.2) : Inv s' := by
  constructor
  · rw [hitems, hevents, hqueue]
    exact h.chain
  · rw [hitems, hqueue]
    exact h.known

theorem outstanding_append (queue : List Owed) (w : Owed) (id : ℕ) :
    outstanding (queue ++ [w]) id = if w.itemId = id then outstanding queue id ++ [w] else outstanding queue id := by
  unfold outstanding
  rw [List.filter_append]
  split_ifs with h
  · rw [List.filter_cons_of_pos (by simpa using h), List.filter_nil]
  · rw [List.filter_cons_of_neg (by simpa using h), List.filter_nil, List.append_nil]

/-- an UPDATE adds the change it makes to the end of what is outstanding -/
theorem inv_patch {patch : Patch} {now : ℤ} {before : Item} (h : Inv (t, queue)) (hbefore : t.item? key = some before) :
    Inv (t.patch key patch now, queue ++ moved key t (t.patch key patch now)) := by
  obtain ⟨hmem, hkey⟩ := mem_of_item? hbefore
  rw [patch_status hbefore]
  constructor
  · intro item' hitem'
    obtain ⟨item, hitem, rfl⟩ := List.mem_map.1 hitem'
    rw [patched_id]
    by_cases hsame : item.key = key
    · obtain rfl : item = before := List.inj_on_of_nodup_map t.keys hitem hmem (hsame.trans hkey.symm)
      rw [patched_of_key hsame]
      change Chained _ (patch.fields.status.getD item.status)
      split_ifs with hstatus
      · rw [List.append_nil, hstatus]
        exact h.chain item hitem
      · rw [outstanding_append, if_pos rfl, List.map_append, ← List.append_assoc]
        exact chained_append (h.chain item hitem)
    · have hother : before.id ≠ item.id := by
        intro hid
        obtain rfl := List.inj_on_of_nodup_map t.ids hmem hitem hid
        exact hsame hkey
      rw [patched, if_neg hsame]
      split_ifs
      · rw [List.append_nil]
        exact h.chain item hitem
      · rw [outstanding_append, if_neg hother]
        exact h.chain item hitem
  · intro w hw
    change w.itemId ∈ (t.items.map (patched patch now key)).map (·.id) ∧ _
    rw [map_patched_id]
    rcases List.mem_append.1 hw with hw | hw
    · exact h.known w hw
    · split_ifs at hw
      · cases hw
      · obtain rfl := List.mem_singleton.1 hw
        refine ⟨List.mem_map_of_mem hmem, t.status before hmem, ?_⟩
        have hstatus := @patched_status patch now key before (t.status before hmem)
        rw [patched_of_key hkey] at hstatus
        exact hstatus

/-- an event that is the oldest outstanding one of its item -/
theorem inv_event {t' : Tables} {event : Event} (h : Inv (t, queue)) (hitems : t'.items = t.items)
    (hevents : t'.events = t.events ++ [event])
    (holdest : (outstanding queue event.itemId).head? = some ⟨event.itemId, event.fromStatus, event.toStatus⟩) :
    Inv (t', queue.erase ⟨event.itemId, event.fromStatus, event.toStatus⟩) := by
  constructor
  · intro item hitem
    rw [hitems] at hitem
    have hchain := h.chain item hitem
    change Chained (passages t'.events item.id ++ ((queue.erase _).filter _).map _) _
    rw [← List.erase_filter, hevents, passages, List.filter_append, List.map_append]
    by_cases hid : event.itemId = item.id
    · rw [hid] at holdest ⊢
      obtain ⟨rest, hrest⟩ := List.head?_eq_some_iff.1 holdest
      change Chained (passages t.events item.id ++ (outstanding queue item.id).map _) _ at hchain
      change Chained (passages t.events item.id ++ _ ++ ((outstanding queue item.id).erase _).map _) _
      rw [hrest, List.map_cons] at hchain
      rw [hrest, List.erase_cons_head, List.filter_cons_of_pos (by simpa using hid), List.filter_nil, List.append_assoc]
      exact hchain
    · have hnot : (⟨event.itemId, event.fromStatus, event.toStatus⟩ : Owed) ∉ queue.filter (·.itemId = item.id) := by
        simp [hid]
      rw [List.erase_of_not_mem hnot, List.filter_cons_of_neg (by simpa using hid), List.filter_nil, List.map_nil,
        List.append_nil]
      exact hchain
  · intro w hw
    change w.itemId ∈ t'.items.map (·.id) ∧ _
    rw [hitems]
    exact h.known w (List.mem_of_mem_erase hw)

/-- a new item has no history -/
theorem inv_item {t' : Tables} (h : Inv (t, queue)) (hid : item.id = t.nextId) (hitems : t'.items = t.items ++ [item])
    (hevents : t'.events = t.events) : Inv (t', queue) := by
  have hnew : t.nextId ∉ t.items.map (·.id) := by
    intro hmem
    obtain ⟨other, hother, hsame⟩ := List.mem_map.1 hmem
    exact absurd (t.drawn other hother) (by omega)
  constructor
  · intro other hother
    rw [hitems] at hother
    change Chained (passages t'.events other.id ++ _) _
    rw [hevents]
    rcases List.mem_append.1 hother with hother | hother
    · exact h.chain other hother
    · obtain rfl := List.mem_singleton.1 hother
      have hpast : passages t.events other.id = [] := by
        refine List.map_eq_nil_iff.2 (List.filter_eq_nil_iff.2 ?_)
        intro e he hsame
        rw [decide_eq_true_eq, hid] at hsame
        exact hnew (hsame ▸ t.owned e he)
      have hqueue : outstanding queue other.id = [] := by
        refine List.filter_eq_nil_iff.2 ?_
        intro w hw hsame
        rw [decide_eq_true_eq, hid] at hsame
        exact hnew (hsame ▸ (h.known w hw).1)
      rw [hpast, hqueue]
      exact chained_nil
  · intro w hw
    obtain ⟨hmem, hstatus⟩ := h.known w hw
    change w.itemId ∈ t'.items.map (·.id) ∧ _
    rw [hitems, List.map_append]
    exact ⟨List.mem_append_left _ hmem, hstatus⟩

/-- what a call owes -/
def debt (g : Progress) : Multiset Owed := ↑g.owes.toList

variable {call : Call} {g : Progress} {s : Tables × List Owed}

theorem owed_of_status_none (hstatus : fields.status = none) (row : ℕ × String) : fields.owed row = none := by
  unfold Fields.owed Fields.after
  rw [hstatus]
  exact if_pos rfl

/-- an UPDATE that sets a status that its column holds -/
theorem owed_of_cast {patch : Patch} {st : String} (hcast : fields.cast = .ok patch) (hstatus : fields.status = some st)
    (row : ℕ × String) : fields.owed row = if st = row.2 then none else some ⟨row.1, row.2, st⟩ := by
  have hvalid : IsStatus st := patch.status st ((cast_status hcast).trans hstatus)
  have hne : st ≠ "" := by
    rintro rfl
    exact absurd hvalid (by decide)
  unfold Fields.owed Fields.after
  simp only [hstatus, if_neg hne]

/-- the change an UPDATE makes is what its call then owes -/
theorem moved_update (hpermitted : g.Permits (.update key fields)) (hturn : InTurn call (t, queue) g o (.update key fields)) :
    moved key t (serve o (.update key fields) t).2 =
      (g.after (.update key fields) (serve o (.update key fields) t).1).owes.toList := by
  obtain ⟨howes, hread⟩ := hpermitted
  have hnothing : ∀ e, (g.after (.update key fields) (.error e)).owes.toList = [] := fun e => by
    change g.owes.toList = []
    rw [howes, Option.toList_none]
  rcases update_cases t key fields o.now with ⟨hsame, hmissing⟩ | ⟨patch, before, hcast, hbefore, hserved⟩
  · -- values that are refused, or no such item
    have hleft : (serve o (.update key fields) t).2 = t := (serve_cases o _ t).elim id fun h => h.trans hsame
    rw [hleft, moved_same]
    cases hanswer : (serve o (.update key fields) t).1 with
    | error e => exact (hnothing e).symm
    | ok a =>
      have hnone : t.item? key = none := hmissing ((congrArg Prod.fst (serve_ok hanswer)).symm.trans hanswer)
      change [] = (g.read.bind fields.owed).toList
      cases hstatus : fields.status with
      | none => simp [Option.bind_eq_none_iff.2 fun row _ => owed_of_status_none hstatus row]
      | some st =>
        have hturn := hturn (by rw [hstatus]; rfl)
        rw [if_pos hanswer] at hturn
        change g.read = (t.item? key).map _ at hturn
        rw [hturn, hnone] at hread
        cases hread
  · have hmoved := @patch_status t key patch o.now before hbefore
    rw [cast_status hcast] at hmoved
    rcases Guard.strike_cases o.fault .operational t (apply o.now (.update key fields) t) with hall | ⟨m, herror, hleft⟩
    · -- it goes through
      change serve o (.update key fields) t = t.update key fields o.now at hall
      rw [hserved] at hall
      rw [hall]
      change moved key t (t.patch key patch o.now) = (g.read.bind fields.owed).toList
      rw [hmoved]
      cases hstatus : fields.status with
      | none =>
        rw [Option.bind_eq_none_iff.2 fun row _ => owed_of_status_none hstatus row]
        exact if_pos rfl
      | some st =>
        have hturn := hturn (by rw [hstatus]; rfl)
        rw [if_pos (congrArg Prod.fst hall)] at hturn
        change g.read = (t.item? key).map _ at hturn
        rw [hturn, hbefore, Option.map_some, Option.bind_some, owed_of_cast hcast hstatus, Option.getD_some]
        split_ifs <;> rfl
    · -- it is reported as failed
      change (serve o (.update key fields) t).1 = _ at herror
      rw [herror, hnothing]
      rcases hleft with hleft | hleft
      · change (serve o (.update key fields) t).2 = t at hleft
        rw [hleft, moved_same]
      · change (serve o (.update key fields) t).2 = (t.update key fields o.now).2 at hleft
        rw [hserved] at hleft
        rw [hleft]
        cases hstatus : fields.status with
        | none =>
          rw [hmoved, hstatus]
          exact if_pos rfl
        | some st =>
          have hturn := hturn (by rw [hstatus]; rfl)
          rw [if_neg fun hok => by cases herror.symm.trans hok] at hturn
          change ((serve o (.update key fields) t).2.item? key).map _ = (t.item? key).map _ at hturn
          rw [hleft, item?_patch, hbefore, Option.map_some, patched_of_key (mem_of_item? hbefore).2] at hturn
          have hkept : patch.fields.status.getD before.status = before.status := Option.some.inj hturn
          rw [cast_status hcast] at hkept
          rw [hmoved, if_pos hkept]

/-- an UPDATE, whatever comes of it -/
theorem inv_update (h : Inv (t, queue)) :
    Inv ((serve o (.update key fields) t).2, queue ++ moved key t (serve o (.update key fields) t).2) := by
  have hsame : ∀ t', t' = t → Inv (t', queue ++ moved key t t') := by
    rintro t' rfl
    rw [moved_same, List.append_nil]
    exact h
  rcases serve_cases o (.update key fields) t with hserved | hserved
  · exact hsame _ hserved
  · change _ = (t.update key fields o.now).2 at hserved
    rcases update_cases t key fields o.now with ⟨hleft, -⟩ | ⟨patch, before, -, hbefore, hleft⟩
    · exact hsame _ (hserved.trans hleft)
    · rw [hserved, hleft]
      exact inv_patch h hbefore

/-- what an INSERT of an event may leave -/
theorem insertEvent_cases (t : Tables) (id : ℕ) (actor fromStatus toStatus : String) (now : ℤ) :
    (t.insertEvent id actor fromStatus toStatus now).2 = t ∨
      ∃ event, eventRow id actor fromStatus toStatus now = .ok event ∧
        (t.insertEvent id actor fromStatus toStatus now).2.items = t.items ∧
        (t.insertEvent id actor fromStatus toStatus now).2.events = t.events ++ [event] := by
  unfold Tables.insertEvent
  cases hrow : eventRow id actor fromStatus toStatus now with
  | error e => exact .inl rfl
  | ok event =>
    dsimp only
    split_ifs
    · exact .inr ⟨event, rfl, rfl, rfl⟩
    · exact .inl rfl

/-- an event between two statuses is stored as it is -/
theorem eventRow_spec {id : ℕ} {actor fromStatus toStatus : String} {now : ℤ} {event : Event}
    (h : eventRow id actor fromStatus toStatus now = .ok event) (hfrom : IsStatus fromStatus) (hto : IsStatus toStatus) :
    event.itemId = id ∧ event.fromStatus = fromStatus ∧ event.toStatus = toStatus := by
  unfold eventRow at h
  rw [varchar_of_isStatus hfrom, varchar_of_isStatus hto] at h
  obtain ⟨actor', -, h⟩ := bind_eq_ok.1 h
  obtain rfl := Except.ok.inj h
  exact ⟨rfl, rfl, rfl⟩

/-- what an INSERT of an item may leave -/
theorem insertItem_cases (t : Tables) (new : NewItem) (now : ℤ) :
    ((t.insertItem new now).2.items = t.items ∧ (t.insertItem new now).2.events = t.events) ∨
      ∃ item, item.id = t.nextId ∧ (t.insertItem new now).2.items = t.items ++ [item] ∧
        (t.insertItem new now).2.events = t.events := by
  unfold Tables.insertItem
  rcases new.row t.nextId now with e | ⟨item, hid, hstatus⟩
  · exact .inl ⟨rfl, rfl⟩
  · dsimp only
    split_ifs
    · exact .inl ⟨rfl, rfl⟩
    · exact .inr ⟨item, hid, rfl, rfl⟩

theorem insertComment_same (t : Tables) (itemId : ℕ) (author body : String) (now : ℤ) :
    (t.insertComment itemId author body now).2.items = t.items ∧
      (t.insertComment itemId author body now).2.events = t.events := by
  unfold Tables.insertComment
  cases varchar 128 author with
  | error e => exact ⟨rfl, rfl⟩
  | ok author =>
    dsimp only
    split_ifs <;> exact ⟨rfl, rfl⟩

/-- an event is stored: the oldest outstanding one of its item, and what its call owed -/
theorem inv_insertEvent {id : ℕ} {actor fromStatus toStatus : String} (h : Inv s)
    (hturn : InTurn call s g o (.insertEvent id actor fromStatus toStatus)) :
    Inv (watched.handle o (.insertEvent id actor fromStatus toStatus) s).2 ∧
      (watched.handle o (.insertEvent id actor fromStatus toStatus) s).2.2 = s.2.erase ⟨id, fromStatus, toStatus⟩ ∧
      (⟨id, fromStatus, toStatus⟩ : Owed) ∈ s.2 := by
  obtain ⟨t, queue⟩ := s
  obtain ⟨hstored, holdest⟩ := hturn
  have hmem : (⟨id, fromStatus, toStatus⟩ : Owed) ∈ queue := (List.mem_filter.1 (List.mem_of_head? holdest)).1
  obtain ⟨-, hfrom, hto⟩ := h.known _ hmem
  have hnoted : note o (.insertEvent id actor fromStatus toStatus) t queue = queue.erase ⟨id, fromStatus, toStatus⟩ :=
    if_neg hstored
  have happlied := (serve_cases o (.insertEvent id actor fromStatus toStatus) t).resolve_left fun hsame =>
    hstored (congrArg Tables.events hsame)
  change _ = (t.insertEvent id actor fromStatus toStatus o.now).2 at happlied
  rcases insertEvent_cases t id actor fromStatus toStatus o.now with hsame | ⟨event, hrow, hitems, hevents⟩
  · exact absurd (congrArg Tables.events (happlied.trans hsame)) hstored
  · obtain ⟨rfl, rfl, rfl⟩ := eventRow_spec hrow hfrom hto
    refine ⟨?_, hnoted, hmem⟩
    change Inv ((serve o _ t).2, note o _ t queue)
    rw [hnoted, happlied]
    exact inv_event h hitems hevents holdest

/-- a statement that leaves items, events and what is owed -/
theorem Inv.passive {e : Act} (h : Inv s) (hitems : (apply o.now e s.1).2.items = s.1.items)
    (hevents : (apply o.now e s.1).2.events = s.1.events) (hnote : ∀ t, note o e t s.2 = s.2) :
    Inv (watched.handle o e s).2 := by
  rcases serve_cases o e s.1 with hserved | hserved
  · exact h.same (congrArg Tables.items hserved) (congrArg Tables.events hserved) (hnote _)
  · exact h.same ((congrArg Tables.items hserved).trans hitems) ((congrArg Tables.events hserved).trans hevents) (hnote _)

/-- **One statement** in turn keeps the chains, and the queue is what is owed. -/
theorem inv_handle {e : Act} (h : Inv s) (hpermitted : g.Permits e) (hturn : InTurn call s g o e) :
    Inv (watched.handle o e s).2 ∧
      ((watched.handle o e s).2.2 : Multiset Owed) + debt g = (s.2 : Multiset Owed) +
        debt (g.after e (watched.handle o e s).1) := by
  have hidle : ∀ {e : Act}, (∀ t, note o e t s.2 = s.2) → (∀ r, (g.after e r).owes = g.owes) →
      ((watched.handle o e s).2.2 : Multiset Owed) + debt g = (s.2 : Multiset Owed) +
        debt (g.after e (watched.handle o e s).1) := by
    intro e hnote hafter
    rw [debt, debt, hafter]
    exact congrArg (fun queue : List Owed => (queue : Multiset Owed) + (g.owes.toList : Multiset Owed)) (hnote _)
  cases e with
  | cursor => exact ⟨h.passive rfl rfl fun _ => rfl, hidle (fun _ => rfl) fun r => rfl⟩
  | selectItem key => exact ⟨h.passive rfl rfl fun _ => rfl, hidle (fun _ => rfl) fun r => rfl⟩
  | selectComments id => exact ⟨h.passive rfl rfl fun _ => rfl, hidle (fun _ => rfl) fun r => rfl⟩
  | selectEvents id => exact ⟨h.passive rfl rfl fun _ => rfl, hidle (fun _ => rfl) fun r => rfl⟩
  | selectId key => exact ⟨h.passive rfl rfl fun _ => rfl, hidle (fun _ => rfl) fun r => rfl⟩
  | selectStatus key =>
    refine ⟨h.passive rfl rfl fun _ => rfl, hidle (fun _ => rfl) ?_⟩
    intro r
    cases r <;> rfl
  | insertComment id author body =>
    obtain ⟨hitems, hevents⟩ := insertComment_same s.1 id author body o.now
    exact ⟨h.passive hitems hevents fun _ => rfl, hidle (fun _ => rfl) fun r => rfl⟩
  | insertItem new =>
    refine ⟨?_, hidle (fun _ => rfl) fun r => rfl⟩
    rcases insertItem_cases s.1 new o.now with ⟨hitems, hevents⟩ | ⟨item, hid, hitems, hevents⟩
    · exact h.passive hitems hevents fun _ => rfl
    · rcases serve_cases o (.insertItem new) s.1 with hserved | hserved
      · exact h.same (congrArg Tables.items hserved) (congrArg Tables.events hserved) rfl
      · exact inv_item h hid ((congrArg Tables.items hserved).trans hitems) ((congrArg Tables.events hserved).trans hevents)
  | update key fields =>
    obtain ⟨t, queue⟩ := s
    refine ⟨inv_update h, ?_⟩
    have hmoved := moved_update hpermitted hturn
    have howes : debt g = 0 := by rw [debt, hpermitted.1, Option.toList_none, Multiset.coe_nil]
    change ((queue ++ moved key t (serve o (.update key fields) t).2 : List Owed) : Multiset Owed) + debt g = _
    rw [hmoved, howes, add_zero, ← Multiset.coe_add]
    rfl
  | insertEvent id actor fromStatus toStatus =>
    obtain ⟨hinv, hqueue, hmem⟩ := inv_insertEvent h hturn
    refine ⟨hinv, ?_⟩
    have howes : debt g = {⟨id, fromStatus, toStatus⟩} := by rw [debt, hpermitted]; rfl
    rw [hqueue, howes, ← Multiset.coe_erase, add_comm, Multiset.singleton_add, Multiset.cons_erase hmem]
    exact (add_zero _).symm

end Statements

/-! ## Every interleaving -/

/-- a call that owes an event inserts it next -/
theorem recording_of_owes {p : BoardM Unit} {g : Progress} (h : Settles p g) (howes : g.owes ≠ none) : Recording p := by
  cases p with
  | ret a => exact absurd h howes
  | raise e => exact absurd h howes
  | act e k =>
    have hpermitted : g.Permits e := h.1
    cases e with
    | insertEvent id actor fromStatus toStatus => trivial
    | update key fields => exact absurd hpermitted.1 howes
    | _ => exact absurd hpermitted howes

theorem history_of_inv {t : Tables} (h : Inv (t, [])) : ∀ item ∈ t.items, History t.events item := by
  intro item hitem
  have hchain := h.chain item hitem
  rwa [outstanding, List.filter_nil, List.map_nil, List.append_nil] at hchain

theorem inv_of_history {t : Tables} (h : ∀ item ∈ t.items, History t.events item) : Inv (t, []) := by
  refine ⟨?_, fun w hw => absurd hw List.not_mem_nil⟩
  intro item hitem
  change Chained (_ ++ []) _
  rw [List.append_nil]
  exact h item hitem

/-- **The history of every item is a chain** after every interleaving of calls whose statements are in turn, whenever no
update has yet to record its change. -/
theorem histories_chain {t : Tables} {moves : Moves} (hstart : ∀ item ∈ t.items, History t.events item)
    (h : Meets (Pool.step watched) (Suits InTurn) ⟨(t, []), []⟩ moves)
    (hsettled : Settled (run (Pool.step board) ⟨t, []⟩ moves).threads) :
    ∀ item ∈ (run (Pool.step board) ⟨t, []⟩ moves).shared.items,
      History (run (Pool.step board) ⟨t, []⟩ moves).shared.events item := by
  have hprog : ∀ call, wp (protocol (watched.protocol call)) (watched.program call) (fun _ g => g.owes = none)
      watched.fresh := settles_prog
  have hconforms : ∀ call, wp (protocol (watched.protocol call)) (watched.program call) (fun _ _ => True)
      watched.fresh := fun call => wp_mono protocol_mono (fun _ _ _ => trivial) (hprog call)
  obtain ⟨hinv, hledger⟩ := pool_owed watched Inv (fun _ _ _ => True) (fun _ _ => True) debt (fun s => (s.2 : Multiset Owed))
    hconforms (fun _ _ _ _ _ _ => trivial) (fun call s hs => ⟨trivial, hs, trivial, (add_zero _).symm⟩)
    (fun l _ _ => nomatch l)
    (fun call o e s g hs _ hpermitted hturn => ⟨trivial, (inv_handle hs hpermitted hturn).1, trivial,
      (inv_handle hs hpermitted hturn).2⟩)
    h (fun _ hth => absurd hth List.not_mem_nil) (fun _ hth => absurd hth List.not_mem_nil) (inv_of_history hstart) rfl
  have hending := run_inv (fun p => Ending watched (fun _ g => g.owes = none) p.threads)
    (fun p m hp _ => ending_step hprog hp m) h fun _ hth => absurd hth List.not_mem_nil
  have herased := @run_beside _ _ _ _ _ _ _ _ _ board _ note ⟨(t, []), []⟩ moves
  change Pool.State.map Prod.fst (run (Pool.step watched) ⟨(t, []), []⟩ moves) = run (Pool.step board) ⟨t, []⟩ moves at herased
  rw [← herased] at hsettled ⊢
  generalize run (Pool.step watched) ⟨(t, []), []⟩ moves = p at *
  -- nobody owes anything, so nothing is outstanding
  have hnothing : owed debt p.threads = 0 := by
    refine owed_eq_zero ?_
    intro th hth
    have howes : th.typestate.owes = none := by
      by_contra howes
      exact hsettled th hth (recording_of_owes (hending th hth) howes)
    rw [debt, howes, Option.toList_none, Multiset.coe_nil]
  rw [hnothing, Multiset.coe_eq_zero] at hledger
  obtain ⟨⟨t', queue⟩, threads⟩ := p
  change queue = [] at hledger
  subst hledger
  exact history_of_inv hinv

/-! ## Two updates -/

section Sample

def planned : Tables := (Tables.empty.insertItem ⟨"REQ-1", "request", "Rolling restarts", "planned", "ada", "", none, none, none⟩ 0).2

def moveTo (actor status : String) : Call := .update "REQ-1" actor { Fields.empty with status := some status }

/-- the next `n` statements of the call at `i` -/
def statements (i n : ℕ) : Moves := List.replicate n (.act i ⟨.none, 1⟩)

/-- one update reads the status that the other has written, and stores its event after it -/
def oneAfterTheOther : Moves :=
  [.spawn (moveTo "ada" "in_progress"), .spawn (moveTo "bob" "done")] ++ statements 0 3 ++ statements 1 3 ++
    statements 0 5 ++ statements 1 5

/-- both read the status before either writes it -/
def bothAtOnce : Moves :=
  [.spawn (moveTo "ada" "in_progress"), .spawn (moveTo "bob" "done")] ++ statements 0 2 ++ statements 1 2 ++
    statements 0 6 ++ statements 1 6

theorem histories_chain_in_turn :
    passages (run (Pool.step board) ⟨planned, []⟩ oneAfterTheOther).shared.events 1 =
        [("planned", "in_progress"), ("in_progress", "done")] ∧
      ∀ item ∈ (run (Pool.step board) ⟨planned, []⟩ oneAfterTheOther).shared.items,
        History (run (Pool.step board) ⟨planned, []⟩ oneAfterTheOther).shared.events item :=
  ⟨by decide +kernel, histories_chain (by decide +kernel) (by decide +kernel) (by decide +kernel)⟩

/-- **No chain.** Both calls are over, and both of their events start from the same status. -/
theorem moved_twice :
    Settled (run (Pool.step board) ⟨planned, []⟩ bothAtOnce).threads ∧
      (run (Pool.step board) ⟨planned, []⟩ bothAtOnce).shared.items.map (·.status) = ["done"] ∧
      passages (run (Pool.step board) ⟨planned, []⟩ bothAtOnce).shared.events 1 =
        [("planned", "in_progress"), ("planned", "done")] ∧
      ¬∀ item ∈ (run (Pool.step board) ⟨planned, []⟩ bothAtOnce).shared.items,
        History (run (Pool.step board) ⟨planned, []⟩ bothAtOnce).shared.events item := by
  decide +kernel

end Sample

/-! ## In memory -/

/-- an update of the repository in memory -/
structure Edit where
  key : String
  actor : String
  fields : Fields
  now : ℤ

def edited (m : Memory) (edit : Edit) : Memory := (m.update edit.key edit.actor edit.fields edit.now).2

/-- items have ids of their own, and each has its chain -/
structure MemoryInv (m : Memory) : Prop where
  ids : (m.items.map (·.id)).Nodup
  chains : ∀ item ∈ m.items, History m.events item

theorem memory_update (m : Memory) (edit : Edit) (h : MemoryInv m) : MemoryInv (edited m edit) := by
  obtain ⟨key, actor, fields, now⟩ := edit
  unfold edited Memory.update
  cases hfound : m.items.find? (·.key = key) with
  | none => exact h
  | some item =>
    have hmem := List.mem_of_find?_eq_some hfound
    constructor
    · have hids : (m.items.map fun other => if other.id = item.id then fields.on now item else other).map (·.id) =
          m.items.map (·.id) := by
        rw [List.map_map]
        refine List.map_congr_left ?_
        intro other _
        change (if other.id = item.id then fields.on now item else other).id = other.id
        split_ifs with hsame
        · exact hsame.symm
        · rfl
      exact hids.symm ▸ h.ids
    · intro other' hother'
      obtain ⟨other, hother, rfl⟩ := List.mem_map.1 hother'
      have hchain := h.chains other hother
      dsimp only
      by_cases hsame : other.id = item.id
      · obtain rfl := List.inj_on_of_nodup_map h.ids hother hmem hsame
        rw [if_pos rfl]
        change Chained (passages _ other.id) (fields.on now other).status
        split_ifs with hstatus
        · rw [hstatus]
          exact hchain
        · rw [passages, List.filter_append, List.map_append, List.filter_cons_of_pos (by simp), List.filter_nil]
          exact chained_append hchain
      · rw [if_neg hsame]
        change Chained (passages _ other.id) other.status
        split_ifs
        · exact hchain
        · rw [passages, List.filter_append, List.filter_cons_of_neg (by simpa using Ne.symm hsame), List.filter_nil,
            List.append_nil]
          exact hchain

/-- **In memory** the history of every item is a chain after every run of updates. -/
theorem memory_chains {m : Memory} (edits : List Edit) (h : MemoryInv m) :
    ∀ item ∈ (run edited m edits).items, History (run edited m edits).events item := by
  have hfree : Meets edited (fun _ _ => True) m edits := meets_of_forall (p := fun _ => True) fun _ _ => trivial
  exact (run_inv MemoryInv (fun m edit hm _ => memory_update m edit hm) hfree h).chains

end TrinoManagement.Board
