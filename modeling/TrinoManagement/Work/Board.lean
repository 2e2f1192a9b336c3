/-
The work board, `tms/work/store.py`: items that change, comments and status events that do not.

- `Tables`: the three tables, with what their constraints keep. `serve`: one statement; it commits by itself.
- `get`, `create`, `update`, `addComment`: `PostgresBoardRepository`, one statement after another.
- `Memory.update`: `InMemoryBoardRepository`, the event in the same step as the change.
- `Chained`: each passage starts where the one before it ended. `chained_append`: another one.
- `recording`: what a call owes once it has moved an item. `settles_prog`: no call is over before it has inserted it.
-/
import Mathlib.Tactic
import TrinoManagement.Api.Guard
import TrinoManagement.Core.Pool
import TrinoManagement.Core.Value

namespace TrinoManagement.Board

open TrinoManagement.Guard (Fault)
open TrinoManagement.Prog (Protocol perform protocol protocol_mono wp wp_bind wp_bind_inv)

/-! ## Vocabulary, `tms/work/items.py` -/

inductive Status where
  | needsDecision | blocked | inProgress | planned | done | dropped
deriving DecidableEq, Repr

def Status.value : Status → String
  | .needsDecision => "needs_decision"
  | .blocked => "blocked"
  | .inProgress => "in_progress"
  | .planned => "planned"
  | .done => "done"
  | .dropped => "dropped"

def statusOrder : List Status := [.needsDecision, .blocked, .inProgress, .planned, .done, .dropped]

inductive Kind where
  | decision | requirement | request | task
deriving DecidableEq, Repr

def Kind.value : Kind → String
  | .decision => "decision"
  | .requirement => "requirement"
  | .request => "request"
  | .task => "task"

def kinds : List Kind := [.decision, .requirement, .request, .task]

/-- `work_item_status_valid` -/
def IsStatus (s : String) : Prop := s ∈ statusOrder.map Status.value

/-- `work_item_kind_valid` -/
def IsKind (s : String) : Prop := s ∈ kinds.map Kind.value

/-- `btrim(s) = ''` -/
def blank (s : String) : Bool := s.toList.all (· = ' ')

instance (s : String) : Decidable (IsStatus s) := inferInstanceAs (Decidable (s ∈ _))
instance (s : String) : Decidable (IsKind s) := inferInstanceAs (Decidable (s ∈ _))

/-! ## Chains -/

/-- each passage starts where the one before it ended, and the last one ended at `a` -/
structure Chained {α : Type} (passages : List (α × α)) (a : α) : Prop where
  linked : passages.IsChain fun before after => after.1 = before.2
  ends : ∀ last ∈ passages.getLast?, last.2 = a

section Chains

variable {α : Type} {passages : List (α × α)} {a b : α}

instance [DecidableEq α] (passages : List (α × α)) (a : α) : Decidable (Chained passages a) :=
  decidable_of_iff (passages.IsChain (fun before after => after.1 = before.2) ∧ ∀ last ∈ passages.getLast?, last.2 = a)
    ⟨fun h => ⟨h.1, h.2⟩, fun h => ⟨h.linked, h.ends⟩⟩

theorem chained_nil : Chained [] a := ⟨.nil, fun _ h => by cases h⟩

/-- one more passage, from where the chain ended -/
theorem chained_append (h : Chained passages a) : Chained (passages ++ [(a, b)]) b := by
  constructor
  · refine h.linked.append (.singleton _) ?_
    intro last hlast first hfirst
    obtain rfl := Option.mem_some.1 hfirst
    exact (h.ends last hlast).symm
  · intro last hlast
    rw [List.getLast?_concat] at hlast
    obtain rfl := Option.mem_some.1 hlast
    rfl

end Chains

/-! ## Tables, `migrations/014_work_board.sql` -/

structure Item where
  id : ℕ
  key : String
  kind : String
  title : String
  status : String
  release : Option String
  blockedBy : Option String
  sourceDoc : Option String
  body : Option String
  createdBy : String
  createdAt : ℤ
  updatedAt : ℤ
deriving DecidableEq, Repr

structure Comment where
  itemId : ℕ
  author : String
  body : String
  createdAt : ℤ
deriving DecidableEq, Repr

structure Event where
  itemId : ℕ
  actor : String
  fromStatus : String
  toStatus : String
  occurredAt : ℤ
deriving DecidableEq, Repr

/-- what an error of the database says, by its class -/
inductive SqlError where
  | uniqueViolation
  | foreignKeyViolation
  | checkViolation (constraint : String)
  | stringDataRightTruncation (width : ℕ)
  | operational (message : String)
deriving DecidableEq, Repr

/-- the columns `update` may set; what is none is left as it is -/
structure Fields where
  title : Option String
  status : Option String
  release : Option String
  blockedBy : Option String
  body : Option String
deriving DecidableEq, Repr

def Fields.empty : Fields := ⟨none, none, none, none, none⟩

/-- the values of a request, on an item -/
def Fields.on (fields : Fields) (now : ℤ) (item : Item) : Item :=
  { item with title := fields.title.getD item.title
              status := fields.status.getD item.status
              release := fields.release <|> item.release
              blockedBy := fields.blockedBy <|> item.blockedBy
              body := fields.body <|> item.body
              updatedAt := now }

/-- a value for a `VARCHAR(n)`: spaces beyond the width are cut off, anything else beyond it is an error -/
def varchar (n : ℕ) (s : String) : Except SqlError String :=
  if s.length ≤ n then .ok s
  else if (s.toList.drop n).all (· = ' ') then .ok (String.ofList (s.toList.take n))
  else .error (.stringDataRightTruncation n)

/-- a value that may be NULL -/
def nullable (column : String → Except SqlError String) : Option String → Except SqlError (Option String)
  | none => .ok none
  | some s => (column s).map some

/-- values that the columns hold and the constraints let through -/
structure Patch where
  fields : Fields
  status : ∀ s ∈ fields.status, IsStatus s

/-- what an UPDATE sets, once the values are cast to their columns and checked -/
def Fields.cast (fields : Fields) : Except SqlError Patch := do
  let status ← nullable (varchar 16) fields.status
  let release ← nullable (varchar 8) fields.release
  let cast : Fields := { fields with status := status, release := release }
  if hstatus : ∀ s ∈ cast.status, IsStatus s then
    if ∃ title ∈ fields.title, blank title then .error (.checkViolation "work_item_title_not_blank")
    else .ok ⟨cast, hstatus⟩
  else .error (.checkViolation "work_item_status_valid")

/-- the three tables; comments and events in the order of their ids -/
structure Tables where
  items : List Item
  comments : List Comment
  events : List Event
  /-- the next value of `work_item_id_seq` -/
  nextId : ℕ
  keys : (items.map (·.key)).Nodup
  ids : (items.map (·.id)).Nodup
  drawn : ∀ item ∈ items, item.id < nextId
  status : ∀ item ∈ items, IsStatus item.status
  owned : ∀ e ∈ events, e.itemId ∈ items.map (·.id)

def Tables.empty : Tables :=
  ⟨[], [], [], 1, List.nodup_nil, List.nodup_nil, fun _ h => absurd h List.not_mem_nil, fun _ h => absurd h List.not_mem_nil,
    fun _ h => absurd h List.not_mem_nil⟩

def Tables.item? (t : Tables) (key : String) : Option Item := t.items.find? (·.key = key)

/-- an UPDATE of the item with this key -/
def patched (patch : Patch) (now : ℤ) (key : String) (item : Item) : Item :=
  if item.key = key then patch.fields.on now item else item

theorem patched_id (patch : Patch) (now : ℤ) (key : String) (item : Item) : (patched patch now key item).id = item.id := by
  unfold patched
  split_ifs <;> rfl

theorem patched_key (patch : Patch) (now : ℤ) (key : String) (item : Item) : (patched patch now key item).key = item.key := by
  unfold patched
  split_ifs <;> rfl

theorem map_patched_id (patch : Patch) (now : ℤ) (key : String) (items : List Item) :
    (items.map (patched patch now key)).map (·.id) = items.map (·.id) := by
  rw [List.map_map]
  exact List.map_congr_left fun item _ => patched_id patch now key item

theorem map_patched_key (patch : Patch) (now : ℤ) (key : String) (items : List Item) :
    (items.map (patched patch now key)).map (·.key) = items.map (·.key) := by
  rw [List.map_map]
  exact List.map_congr_left fun item _ => patched_key patch now key item

theorem patched_status {patch : Patch} {now : ℤ} {key : String} {item : Item} (h : IsStatus item.status) :
    IsStatus (patched patch now key item).status := by
  unfold patched
  split_ifs
  · change IsStatus (patch.fields.status.getD item.status)
    cases hs : patch.fields.status with
    | none => exact h
    | some s => exact patch.status s hs
  · exact h

def Tables.patch (t : Tables) (key : String) (patch : Patch) (now : ℤ) : Tables where
  items := t.items.map (patched patch now key)
  comments := t.comments
  events := t.events
  nextId := t.nextId
  keys := by
    rw [map_patched_key]
    exact t.keys
  ids := by
    rw [map_patched_id]
    exact t.ids
  drawn := by
    intro item hitem
    obtain ⟨before, hbefore, rfl⟩ := List.mem_map.1 hitem
    rw [patched_id]
    exact t.drawn before hbefore
  status := by
    intro item hitem
    obtain ⟨before, hbefore, rfl⟩ := List.mem_map.1 hitem
    exact patched_status (t.status before hbefore)
  owned := by
    rw [map_patched_id]
    exact t.owned

def Tables.update (t : Tables) (key : String) (fields : Fields) (now : ℤ) : Except SqlError Unit × Tables :=
  if (t.item? key).isSome then
    match fields.cast with
    | .ok patch => (.ok (), t.patch key patch now)
    | .error e => (.error e, t)
  else (.ok (), t)

theorem length_of_isStatus {s : String} (h : IsStatus s) : s.length < 16 := by
  obtain ⟨st, -, rfl⟩ := List.mem_map.1 h
  cases st <;> decide

theorem varchar_of_isStatus {s : String} (h : IsStatus s) : varchar 16 s = .ok s :=
  if_pos (length_of_isStatus h).le

/-- a status is not a longer text that was cut off -/
theorem eq_of_varchar {s cut : String} (h : varchar 16 s = .ok cut) (hcut : IsStatus cut) : cut = s := by
  unfold varchar at h
  split_ifs at h with hshort
  · exact (Except.ok.inj h).symm
  · obtain rfl := Except.ok.inj h
    have hlength := length_of_isStatus hcut
    rw [String.length_ofList, List.length_take, String.length_toList] at hlength
    omega

/-- an UPDATE that goes through sets the status it was given -/
theorem cast_status {fields : Fields} {patch : Patch} (h : fields.cast = .ok patch) :
    patch.fields.status = fields.status := by
  obtain ⟨cast, hstatus⟩ := patch
  unfold Fields.cast at h
  obtain ⟨status, hcast, h⟩ := bind_eq_ok.1 h
  obtain ⟨release, -, h⟩ := bind_eq_ok.1 h
  dsimp only at h
  split_ifs at h with hvalid
  obtain ⟨rfl⟩ := Patch.mk.inj (Except.ok.inj h)
  cases hfields : fields.status with
  | none =>
    rw [hfields] at hcast
    exact (Except.ok.inj hcast).symm
  | some s =>
    rw [hfields] at hcast
    obtain ⟨s', hs', hsome⟩ := map_eq_ok.1 hcast
    subst hsome
    exact congrArg some (eq_of_varchar hs' (hvalid s' rfl))

/-- an event as its columns hold it -/
def eventRow (itemId : ℕ) (actor fromStatus toStatus : String) (now : ℤ) : Except SqlError Event := do
  pure ⟨itemId, ← varchar 128 actor, ← varchar 16 fromStatus, ← varchar 16 toStatus, now⟩

def Tables.insertEvent (t : Tables) (itemId : ℕ) (actor fromStatus toStatus : String) (now : ℤ) :
    Except SqlError Unit × Tables :=
  match eventRow itemId actor fromStatus toStatus now with
  | .error e => (.error e, t)
  | .ok event =>
    if h : event.itemId ∈ t.items.map (·.id) then
      (.ok (), { t with events := t.events ++ [event]
                        owned := by
                          intro e he
                          rcases List.mem_append.1 he with he | he
                          · exact t.owned e he
                          · obtain rfl := List.mem_singleton.1 he
                            exact h })
    else (.error .foreignKeyViolation, t)

def Tables.insertComment (t : Tables) (itemId : ℕ) (author body : String) (now : ℤ) : Except SqlError ℤ × Tables :=
  match varchar 128 author with
  | .error e => (.error e, t)
  | .ok author =>
    if itemId ∉ t.items.map (·.id) then (.error .foreignKeyViolation, t)
    else if blank body then (.error (.checkViolation "work_item_comment_body_not_blank"), t)
    else (.ok now, { t with comments := t.comments ++ [⟨itemId, author, body, now⟩] })

/-- what `create` is given -/
structure NewItem where
  key : String
  kind : String
  title : String
  status : String
  createdBy : String
  body : String
  release : Option String
  blockedBy : Option String
  sourceDoc : Option String
deriving DecidableEq, Repr

/-- an item as its columns hold it -/
def NewItem.row (new : NewItem) (id : ℕ) (now : ℤ) : Except SqlError { item : Item // item.id = id ∧ IsStatus item.status } := do
  let key ← varchar 32 new.key
  let kind ← varchar 16 new.kind
  let status ← varchar 16 new.status
  let release ← nullable (varchar 8) new.release
  let sourceDoc ← nullable (varchar 256) new.sourceDoc
  let createdBy ← varchar 128 new.createdBy
  if IsKind kind then
    if hstatus : IsStatus status then
      if blank new.title then .error (.checkViolation "work_item_title_not_blank")
      else .ok ⟨⟨id, key, kind, new.title, status, release, new.blockedBy, sourceDoc, some new.body, createdBy, now, now⟩,
        rfl, hstatus⟩
    else .error (.checkViolation "work_item_status_valid")
  else .error (.checkViolation "work_item_kind_valid")

/-- the sequence is drawn from even where the row is refused -/
def Tables.draw (t : Tables) : Tables :=
  { t with nextId := t.nextId + 1
           drawn := fun item h => Nat.lt_succ_of_lt (t.drawn item h) }

def Tables.insertItem (t : Tables) (new : NewItem) (now : ℤ) : Except SqlError Item × Tables :=
  match new.row t.nextId now with
  | .error e => (.error e, t.draw)
  | .ok ⟨item, hid, hstatus⟩ =>
    if hkey : item.key ∈ t.items.map (·.key) then (.error .uniqueViolation, t.draw)
    else
      (.ok item,
        { items := t.items ++ [item]
          comments := t.comments
          events := t.events
          nextId := t.nextId + 1
          keys := by
            rw [List.map_append, List.map_singleton, List.nodup_append_comm]
            exact List.nodup_cons.2 ⟨hkey, t.keys⟩
          ids := by
            rw [List.map_append, List.map_singleton, List.nodup_append_comm]
            refine List.nodup_cons.2 ⟨?_, t.ids⟩
            intro hmem
            obtain ⟨other, hother, hsame⟩ := List.mem_map.1 hmem
            exact absurd (t.drawn other hother) (by omega)
          drawn := by
            intro other hother
            rcases List.mem_append.1 hother with hother | hother
            · exact Nat.lt_succ_of_lt (t.drawn other hother)
            · obtain rfl := List.mem_singleton.1 hother
              omega
          status := by
            intro other hother
            rcases List.mem_append.1 hother with hother | hother
            · exact t.status other hother
            · obtain rfl := List.mem_singleton.1 hother
              exact hstatus
          owned := by
            intro e he
            rw [List.map_append]
            exact List.mem_append_left _ (t.owned e he) })

/-! ## Statements -/

inductive Act where
  /-- `_cursor()`, which connects if it has to -/
  | cursor
  | selectItem (key : String)
  | selectComments (itemId : ℕ)
  | selectEvents (itemId : ℕ)
  | selectStatus (key : String)
  | selectId (key : String)
  | update (key : String) (fields : Fields)
  | insertEvent (itemId : ℕ) (actor fromStatus toStatus : String)
  | insertComment (itemId : ℕ) (author body : String)
  | insertItem (new : NewItem)
deriving DecidableEq, Repr

@[reducible] def Act.Result : Act → Type
  | .cursor => Unit
  | .selectItem _ => Option Item
  | .selectComments _ => List Comment
  | .selectEvents _ => List Event
  | .selectStatus _ => Option (ℕ × String)
  | .selectId _ => Option ℕ
  | .update .. => Unit
  | .insertEvent .. => Unit
  | .insertComment .. => ℤ
  | .insertItem _ => Item

@[reducible] def Act.Answer (e : Act) : Type := Except SqlError e.Result

/-- what is outside at one statement -/
structure Weather where
  fault : Fault
  now : ℤ

instance : Inhabited Weather := ⟨⟨.none, 0⟩⟩

/-- one statement on tables that nothing happens to -/
def apply (now : ℤ) : (e : Act) → Tables → e.Answer × Tables
  | .cursor, t => (.ok (), t)
  | .selectItem key, t => (.ok (t.item? key), t)
  | .selectComments id, t => (.ok (t.comments.filter (·.itemId = id)), t)
  | .selectEvents id, t => (.ok (t.events.filter (·.itemId = id)), t)
  | .selectStatus key, t => (.ok ((t.item? key).map fun item => (item.id, item.status)), t)
  | .selectId key, t => (.ok ((t.item? key).map (·.id)), t)
  | .update key fields, t => t.update key fields now
  | .insertEvent id actor fromStatus toStatus, t => t.insertEvent id actor fromStatus toStatus now
  | .insertComment id author body, t => t.insertComment id author body now
  | .insertItem new, t => t.insertItem new now

def serve (o : Weather) (e : Act) (t : Tables) : e.Answer × Tables := o.fault.strike .operational t (apply o.now e t)

/-! ## `PostgresBoardRepository` -/

inductive BoardError where
  | unavailable (cause : SqlError)
  | duplicateKey (key : String)
  /-- an error of the driver that nothing catches -/
  | sql (e : SqlError)
deriving DecidableEq, Repr

abbrev BoardM (α : Type) := Prog Act Act.Answer BoardError α

def lift {α : Type} (exn : SqlError → BoardError) : Except SqlError α → BoardM α
  | .ok a => pure a
  | .error e => throw (exn e)

/-- `with self._cursor() as cursor` -/
def cursor : BoardM Unit := do lift .unavailable (← perform Act.cursor)

def execute (e : Act) : BoardM e.Result := do lift .sql (← perform e)

structure Found where
  item : Item
  comments : List Comment
  events : List Event
deriving DecidableEq, Repr

def get (key : String) : BoardM (Option Found) := do
  cursor
  match ← execute (.selectItem key) with
  | none => pure none
  | some item => do
    let comments ← execute (.selectComments item.id)
    let events ← execute (.selectEvents item.id)
    pure (some ⟨item, comments, events⟩)

def createError (key : String) : SqlError → BoardError
  | .uniqueViolation => .duplicateKey key
  | e => .unavailable e

def create (new : NewItem) : BoardM Item := do
  cursor
  lift (createError new.key) (← perform (Act.insertItem new))

/-- `fields.get("status") or before` -/
def Fields.after (fields : Fields) (before : String) : String :=
  match fields.status with
  | some status => if status = "" then before else status
  | none => before

/-- the event of an update that moved its item -/
def recordMove (itemId : ℕ) (actor before after : String) : BoardM Unit :=
  if after = before then pure () else execute (.insertEvent itemId actor before after)

def update (key actor : String) (fields : Fields) : BoardM (Option Found) :=
  if fields = .empty then get key
  else do
    cursor
    match ← execute (.selectStatus key) with
    | none => pure none
    | some (itemId, before) => do
      execute (.update key fields)
      recordMove itemId actor before (fields.after before)
      get key

def addComment (key author body : String) : BoardM (Option Comment) := do
  cursor
  match ← execute (.selectId key) with
  | none => pure none
  | some itemId => do
    let createdAt ← execute (.insertComment itemId author body)
    pure (some ⟨itemId, author, body, createdAt⟩)

/-- a call of the repository -/
inductive Call where
  | get (key : String)
  | create (new : NewItem)
  | update (key actor : String) (fields : Fields)
  | comment (key author body : String)

/-- what a call does; its answer is left out -/
def Call.prog : Call → BoardM Unit
  | .get key => do
    let _ ← Board.get key
  | .create new => do
    let _ ← Board.create new
  | .update key actor fields => do
    let _ ← Board.update key actor fields
  | .comment key author body => do
    let _ ← addComment key author body

/-! ## `InMemoryBoardRepository` -/

structure Memory where
  items : List Item
  events : List Event

/-- `InMemoryBoardRepository.update` -/
def Memory.update (m : Memory) (key actor : String) (fields : Fields) (now : ℤ) : Option Item × Memory :=
  match m.items.find? (·.key = key) with
  | none => (none, m)
  | some item =>
    let moved := fields.on now item
    (some moved,
      { items := m.items.map fun other => if other.id = item.id then moved else other
        events := if moved.status = item.status then m.events
          else m.events ++ [⟨item.id, actor, item.status, moved.status, now⟩] })

/-! ## What an update owes -/

/-- a status change whose event is yet to be stored -/
structure Owed where
  itemId : ℕ
  fromStatus : String
  toStatus : String
deriving DecidableEq, Repr

/-- what one call has read of its item, and the event it owes -/
structure Progress where
  read : Option (ℕ × String)
  owes : Option Owed
deriving DecidableEq, Repr

/-- the event of an update that read this row -/
def Fields.owed (fields : Fields) (row : ℕ × String) : Option Owed :=
  if fields.after row.2 = row.2 then none else some ⟨row.1, row.2, fields.after row.2⟩

def Progress.after (g : Progress) : (e : Act) → e.Answer → Progress
  | .selectStatus _, .ok row => { g with read := row }
  | .update _ fields, .ok () => { g with owes := g.read.bind fields.owed }
  | .insertEvent .., _ => { g with owes := none }
  | _, _ => g

/-- whoever owes an event inserts it next; nothing is updated that was not read -/
def Progress.Permits (g : Progress) : Act → Prop
  | .insertEvent id _ fromStatus toStatus => g.owes = some ⟨id, fromStatus, toStatus⟩
  | .update .. => g.owes = none ∧ g.read.isSome
  | _ => g.owes = none

def recording : Protocol Act Act.Answer Progress := ⟨Progress.Permits, Progress.after⟩

section Walk

variable {α β : Type} {g : Progress}

/-- a call that is over owes nothing -/
abbrev Settles {α : Type} (p : BoardM α) (g : Progress) : Prop :=
  wp (protocol recording) p (fun _ g' => g'.owes = none) g

theorem settles_cursor {f : Unit → BoardM β} (hg : g.owes = none) (hf : Settles (f ()) g) : Settles (cursor >>= f) g := by
  rw [Settles, wp_bind]
  refine ⟨hg, ?_⟩
  intro r
  cases r with
  | ok a => exact hf
  | error e => exact hg

/-- a statement, and the rest of the call whatever it answers -/
theorem settles_execute {e : Act} {f : e.Result → BoardM β} (hpermitted : g.Permits e)
    (hf : ∀ a, Settles (f a) (g.after e (.ok a))) (hfail : ∀ err, (g.after e (.error err)).owes = none) :
    Settles (execute e >>= f) g := by
  rw [Settles, wp_bind]
  refine ⟨hpermitted, ?_⟩
  intro r
  cases r with
  | ok a => exact hf a
  | error err => exact hfail err

theorem settles_get {key : String} (hg : g.owes = none) : Settles (get key) g := by
  refine settles_cursor hg (settles_execute hg ?_ fun _ => hg)
  intro item
  cases item with
  | none => exact hg
  | some item =>
    refine settles_execute hg ?_ fun _ => hg
    intro comments
    refine settles_execute hg ?_ fun _ => hg
    intro events
    exact hg

theorem settles_create {new : NewItem} (hg : g.owes = none) : Settles (create new) g := by
  refine settles_cursor hg ⟨hg, ?_⟩
  intro r
  cases r with
  | ok item => exact hg
  | error err => exact hg

theorem settles_addComment {key author body : String} (hg : g.owes = none) : Settles (addComment key author body) g := by
  refine settles_cursor hg (settles_execute hg ?_ fun _ => hg)
  intro itemId
  cases itemId with
  | none => exact hg
  | some itemId =>
    refine settles_execute hg ?_ fun _ => hg
    intro createdAt
    exact hg

/-- what is owed is inserted -/
theorem settles_recordMove {itemId : ℕ} {actor before : String} {fields : Fields}
    (hg : g.owes = fields.owed (itemId, before)) : Settles (recordMove itemId actor before (fields.after before)) g := by
  unfold recordMove
  split_ifs with hsame
  · exact hg.trans (if_pos hsame)
  · refine ⟨hg.trans (if_neg hsame), ?_⟩
    intro r
    cases r with
    | ok a => rfl
    | error err => rfl

theorem settles_update {key actor : String} {fields : Fields} (hg : g.owes = none) : Settles (update key actor fields) g := by
  unfold update
  split_ifs
  · exact settles_get hg
  refine settles_cursor hg (settles_execute hg ?_ fun _ => hg)
  intro row
  cases row with
  | none => exact hg
  | some row =>
    obtain ⟨itemId, before⟩ := row
    refine settles_execute ⟨hg, rfl⟩ ?_ fun _ => hg
    intro a
    exact wp_bind_inv protocol_mono (settles_recordMove rfl) fun _ g hg => settles_get hg

/-- **Every call** of the repository is over only once it has settled. -/
theorem settles_prog (call : Call) : Settles call.prog ⟨none, none⟩ := by
  cases call with
  | get key => exact wp_bind_inv protocol_mono (settles_get rfl) fun _ g hg => hg
  | create new => exact wp_bind_inv protocol_mono (settles_create rfl) fun _ g hg => hg
  | update key actor fields => exact wp_bind_inv protocol_mono (settles_update rfl) fun _ g hg => hg
  | comment key author body => exact wp_bind_inv protocol_mono (settles_addComment rfl) fun _ g hg => hg

end Walk

end TrinoManagement.Board
