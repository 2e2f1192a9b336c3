/-
The board as its users act on it, `tms/work/service.py`, with the keys it makes up (`next_request_key` of
`tms/work/items.py`) and the items that are there from the start (`tms/work/seed.py`).

- `nextRequestKey`: the key after all those that are given. `requestNumber_next`: its number is above theirs.
- `raiseRequest`: reads the keys, then inserts under the next one; each of the two statements commits by itself.
- `seed`: inserts what is missing, and leaves what is there.
- `Item.origin`: what no statement changes of an item. `answer_origins`: items are added, and none is ever removed.
- `numbering`: a request is inserted under the key after those that were read. `keeps_raise`: what a call of its own ends
  with.
-/
import Mathlib.Tactic
import TrinoManagement.Core.Number
import TrinoManagement.Work.Board

namespace TrinoManagement.BoardService

open TrinoManagement.Audit (Principal manageHealth)
open TrinoManagement.Board
open TrinoManagement.Guard (strike_cases)
open TrinoManagement.Prog (Protocol perform protocol protocol_mono wp wp_bind wp_bind_inv wp_mono wp_tryCatch)

/-! ## Keys -/

/-- what Python does with a text: `int` where there are digits of other scripts, and `repr` -/
structure Lib where
  int : String → Option ℤ
  repr : String → String

section Keys

variable (lib : Lib)

/-- `int(s)`; none is a `ValueError` -/
def Lib.number (s : String) : Option ℤ := intOfString s <|> lib.int s

/-- `text.upper().startswith("REQ-")`; no letter beyond ASCII has one of these for its upper case -/
def isRequestKey (key : String) : Bool := (key.toList.take 4).map Char.toUpper == "REQ-".toList

/-- the number in a key, as `next_request_key` reads it -/
def requestNumber (key : String) : Option ℤ :=
  if isRequestKey key then lib.number (String.ofList (key.toList.drop 4)) else none

/-- `highest`, after one more key -/
def higher (highest : ℤ) (key : String) : ℤ :=
  match requestNumber lib key with
  | some n => max highest n
  | none => highest

/-- `highest`, after all of them -/
def highest (keys : List String) : ℤ := keys.foldl (higher lib) 0

/-- the key of a number -/
def requestKey (n : ℤ) : String := "REQ-" ++ toString n

/-- `next_request_key` -/
def nextRequestKey (keys : List String) : String := requestKey (highest lib keys + 1)

end Keys

/-! ## Statements -/

inductive Statement where
  | on (e : Board.Act)
  /-- `SELECT key FROM work_item WHERE key LIKE 'REQ-%'` -/
  | selectKeys

@[reducible] def Statement.Answer : Statement → Type
  | .on e => e.Answer
  | .selectKeys => Except SqlError (List String)

/-- `LIKE 'REQ-%'`, which minds the case of letters -/
def like (key : String) : Bool := "REQ-".toList.isPrefixOf key.toList

/-- the keys a SELECT finds -/
def keysOf (t : Tables) : List String := (t.items.map (·.key)).filter like

def answer (o : Weather) : (e : Statement) → Tables → e.Answer × Tables
  | .on e, t => Board.serve o e t
  | .selectKeys, t => o.fault.strike .operational t (.ok (keysOf t), t)

/-! ## The repository -/

abbrev RepoM (α : Type) := Prog Statement Statement.Answer BoardError α

/-- a call of the repository -/
def repo {α : Type} : BoardM α → RepoM α
  | .ret a => .ret a
  | .raise e => .raise e
  | .act e k => .act (.on e) fun r => repo (k r)

/-- `next_key` -/
def nextKey (lib : Lib) : RepoM String := do
  repo cursor
  match ← perform Statement.selectKeys with
  | .ok keys => pure (nextRequestKey lib keys)
  | .error e => throw (.sql e)

/-- `seed`, over what is left of the items; how many were added -/
def seed : List NewItem → RepoM ℕ
  | [] => pure 0
  | new :: rest => do
    let added ← tryCatch (do
      let _ ← repo (create new)
      pure 1) fun e =>
        match e with
        | .duplicateKey _ => pure 0
        | e => throw e
    let more ← seed rest
    pure (added + more)

/-! ## The service -/

inductive Refusal where
  | forbidden (message : String)
  | invalidRequest (message : String)
  | notFound (message : String)
  /-- "The work board is not reachable: ..." -/
  | upstreamUnavailable (cause : SqlError)
  /-- an exception of the repository that nothing catches -/
  | uncaught (e : BoardError)
deriving DecidableEq, Repr

abbrev ServiceM (α : Type) := Prog Statement Statement.Answer Refusal α

/-- what the service makes of an exception of the repository; only `create` raises a `DuplicateKey` -/
def refusalOf : BoardError → Refusal
  | .unavailable cause => .upstreamUnavailable cause
  | .duplicateKey key => .invalidRequest (key ++ " already exists.")
  | .sql e => .uncaught (.sql e)

/-- a call, with its exceptions raised as others -/
def raisedAs {α : Type} (exn : BoardError → Refusal) : RepoM α → ServiceM α
  | .ret a => .ret a
  | .raise e => .raise (exn e)
  | .act e k => .act e fun r => raisedAs exn (k r)

def requireAdmin (principal : Principal) : ServiceM Unit :=
  if principal.can manageHealth then pure ()
  else throw (.forbidden "Only administrators can change the board or raise requests.")

def requireView (principal : Principal) : ServiceM Unit :=
  if principal.can "view_portal" then pure () else throw (.forbidden "You do not have permission to view the board.")

/-- what was found, or a `NotFound` -/
def foundOr404 {α : Type} (key : String) : Option α → ServiceM α
  | some a => pure a
  | none => throw (.notFound ("No such item: " ++ key))

/-- `item`; the timeline is made of what it returns -/
def item (principal : Principal) (key : String) : ServiceM Found := do
  requireView principal
  foundOr404 key (← raisedAs refusalOf (repo (get key)))

/-- what a request is stored as -/
def requestOf (principal : Principal) (title body : String) (key : String) : NewItem :=
  ⟨key, Kind.request.value, Text.strip title, Status.planned.value, principal.username, body, none, none, none⟩

def raiseRequest (lib : Lib) (principal : Principal) (title body : String) : ServiceM Item := do
  requireAdmin principal
  if Text.blank title then throw (.invalidRequest "An item needs a title.")
  else do
    let key ← raisedAs refusalOf (nextKey lib)
    raisedAs refusalOf (repo (create (requestOf principal title body key)))

def comment (principal : Principal) (key body : String) : ServiceM Comment := do
  requireAdmin principal
  if Text.blank body then throw (.invalidRequest "An empty comment says nothing.")
  else foundOr404 key (← raisedAs refusalOf (repo (addComment key principal.username (Text.strip body))))

/-- `edit` -/
def edit (principal : Principal) (key : String) (fields : Fields) : ServiceM Found := do
  requireAdmin principal
  foundOr404 key (← raisedAs refusalOf (repo (update key principal.username fields)))

def setStatus (lib : Lib) (principal : Principal) (key status : String) : ServiceM Found := do
  requireAdmin principal
  if IsStatus status then
    foundOr404 key (← raisedAs refusalOf (repo (update key principal.username { Fields.empty with status := some status })))
  else throw (.invalidRequest (lib.repr status ++ " is not a status."))

/-! ## Calls -/

inductive Call where
  | item (principal : Principal) (key : String)
  | raise (principal : Principal) (title body : String)
  | comment (principal : Principal) (key body : String)
  | setStatus (principal : Principal) (key status : String)
  | edit (principal : Principal) (key : String) (fields : Fields)
  /-- the command that fills the board, which calls the repository itself -/
  | seed (items : List NewItem)

inductive Reply where
  | found (found : Found)
  | raised (item : Item)
  | commented (comment : Comment)
  | added (n : ℕ)

def Call.prog (lib : Lib) : Call → ServiceM Reply
  | .item principal key => return .found (← BoardService.item principal key)
  | .raise principal title body => return .raised (← raiseRequest lib principal title body)
  | .comment principal key body => return .commented (← BoardService.comment principal key body)
  | .setStatus principal key status => return .found (← BoardService.setStatus lib principal key status)
  | .edit principal key fields => return .found (← BoardService.edit principal key fields)
  | .seed items => return .added (← raisedAs .uncaught (BoardService.seed items))

/-! ## What a call has read and made -/

structure Progress where
  /-- the highest number among the keys it has read -/
  read : Option ℤ
  made : List Item
  /-- the key that was there already -/
  clash : Option String

def Progress.after (lib : Lib) (g : Progress) : (e : Statement) → e.Answer → Progress
  | .selectKeys, .ok keys => { g with read := some (highest lib keys) }
  | .on (.insertItem _), .ok item => { g with made := g.made ++ [item] }
  | .on (.insertItem new), .error .uniqueViolation => { g with clash := some new.key }
  | _, _ => g

/-- a raise reads the keys once, and inserts under the one after them -/
def RaisePermits (principal : Principal) (title body : String) (g : Progress) : Statement → Prop
  | .selectKeys => g.read = none
  | .on (.insertItem new) => ∃ h ∈ g.read, new = requestOf principal title body (requestKey (h + 1))
  | .on _ => True

def Call.Permits (g : Progress) : Call → Statement → Prop
  | .raise principal title body, e => RaisePermits principal title body g e
  | _, _ => True

def numbering (lib : Lib) (call : Call) : Protocol Statement Statement.Answer Progress :=
  ⟨fun g => call.Permits g, Progress.after lib⟩

/-! ## Numbers -/

section Numbers

variable {lib : Lib}

theorem toList_requestKey (n : ℕ) : (requestKey n).toList = "REQ-".toList ++ Nat.toDigits 10 n := by
  rw [requestKey, String.toList_append]
  change _ ++ (toString n).toList = _
  rw [Nat.toString_eq_ofList_toDigits, @String.toList_ofList (Nat.toDigits 10 n)]

/-- the number of a key is read back from it -/
theorem requestNumber_key (n : ℕ) : requestNumber lib (requestKey n) = some (n : ℤ) := by
  have hdrop : (requestKey n).toList.drop 4 = (toString n).toList := by
    rw [toList_requestKey, Nat.toString_eq_ofList_toDigits, @String.toList_ofList (Nat.toDigits 10 n)]
    rfl
  have hkey : isRequestKey (requestKey n) = true := by
    rw [isRequestKey, toList_requestKey]
    rfl
  rw [requestNumber, if_pos hkey, hdrop, String.ofList_toList, Lib.number, intOfString_toString]
  rfl

theorem like_requestKey (n : ℕ) : like (requestKey n) = true := by
  rw [like, toList_requestKey]
  exact List.isPrefixOf_iff_prefix.2 (List.prefix_append ..)

/-- a column holds such a key as it is, or not at all -/
theorem eq_of_varchar_requestKey {n : ℕ} {key : String} (h : varchar 32 (requestKey n) = .ok key) : key = requestKey n := by
  unfold varchar at h
  split_ifs at h with hfits hspaces
  · exact (Except.ok.inj h).symm
  · -- what is beyond the width are digits
    have hbeyond : (requestKey n).toList.drop 32 = (Nat.toDigits 10 n).drop 28 := by
      rw [toList_requestKey, List.drop_append]
      rfl
    have hlong : (requestKey n).toList.drop 32 ≠ [] := by
      rw [Ne, List.drop_eq_nil_iff, String.length_toList]
      exact hfits
    obtain ⟨c, hc⟩ := List.exists_mem_of_ne_nil _ hlong
    obtain rfl : c = ' ' := of_decide_eq_true (List.all_eq_true.1 hspaces c hc)
    rw [hbeyond] at hc
    exact absurd (Nat.isDigit_of_mem_toDigits (by decide) (by decide) (List.mem_of_mem_drop hc)) (by decide)

theorem le_higher (lib : Lib) (start : ℤ) (key : String) : start ≤ higher lib start key := by
  unfold higher
  split
  · exact le_max_left ..
  · exact le_rfl

theorem le_foldl_higher {keys : List String} {start : ℤ} : start ≤ keys.foldl (higher lib) start := by
  induction keys generalizing start with
  | nil => exact le_rfl
  | cons key rest ih => exact (le_higher lib start key).trans ih

theorem highest_nonneg (keys : List String) : 0 ≤ highest lib keys := le_foldl_higher

/-- no key that is given has a number above the highest -/
theorem le_highest {keys : List String} {key : String} {m : ℤ} (hkey : key ∈ keys) (hm : m ∈ requestNumber lib key) :
    m ≤ highest lib keys := by
  suffices main : ∀ start, m ≤ keys.foldl (higher lib) start from main 0
  induction keys with
  | nil => cases hkey
  | cons first rest ih =>
    intro start
    rcases List.mem_cons.1 hkey with rfl | hkey
    · have hone : m ≤ higher lib start key := by
        rw [higher, hm]
        exact le_max_right ..
      exact hone.trans le_foldl_higher
    · exact ih hkey _

end Numbers

/-! ## What stays of an item -/

/-- what no statement changes of an item -/
def origin (item : Item) : ℕ × String × String × Option String × String × ℤ :=
  (item.id, item.key, item.kind, item.sourceDoc, item.createdBy, item.createdAt)

/-- what was there is still there, in its place, and items may have been added -/
def Grows (t t' : Tables) : Prop := t.items.map origin <+: t'.items.map origin

section Statements

variable {t t' t'' : Tables} {o : Weather}

theorem Grows.refl (t : Tables) : Grows t t := List.prefix_rfl

theorem Grows.trans (h : Grows t t') (h' : Grows t' t'') : Grows t t'' := List.IsPrefix.trans h h'

theorem Grows.mem {x : ℕ × String × String × Option String × String × ℤ} (h : Grows t t') (hx : x ∈ t.items.map origin) :
    x ∈ t'.items.map origin := h.subset hx

theorem keys_eq (t : Tables) : t.items.map (·.key) = (t.items.map origin).map fun x => x.2.1 := by
  rw [List.map_map]
  rfl

theorem Grows.key {key : String} (h : Grows t t') (hkey : key ∈ t.items.map (·.key)) : key ∈ t'.items.map (·.key) := by
  rw [keys_eq] at hkey ⊢
  exact List.map_subset _ h.subset hkey

theorem origin_patched (patch : Patch) (now : ℤ) (key : String) (item : Item) :
    origin (patched patch now key item) = origin item := by
  unfold patched
  split <;> rfl

/-- a request as it is stored -/
structure IsRequest (principal : Principal) (title body : String) (item : Item) : Prop where
  kind : item.kind = Kind.request.value
  title : item.title = Text.strip title
  status : item.status = Status.planned.value
  body : item.body = some body
  bare : item.release = none ∧ item.blockedBy = none ∧ item.sourceDoc = none
  createdBy : varchar 128 principal.username = .ok item.createdBy

theorem row_key {new : NewItem} {id : ℕ} {now : ℤ} {made : { item : Item // item.id = id ∧ IsStatus item.status }}
    (h : new.row id now = .ok made) : varchar 32 new.key = .ok made.val.key := by
  unfold NewItem.row at h
  obtain ⟨key, hkey, h⟩ := bind_eq_ok.1 h
  obtain ⟨kind, -, h⟩ := bind_eq_ok.1 h
  obtain ⟨status, -, h⟩ := bind_eq_ok.1 h
  obtain ⟨release, -, h⟩ := bind_eq_ok.1 h
  obtain ⟨sourceDoc, -, h⟩ := bind_eq_ok.1 h
  obtain ⟨createdBy, -, h⟩ := bind_eq_ok.1 h
  split_ifs at h
  obtain rfl := Except.ok.inj h
  exact hkey

theorem row_request {principal : Principal} {title body key : String} {id : ℕ} {now : ℤ}
    {made : { item : Item // item.id = id ∧ IsStatus item.status }}
    (h : (requestOf principal title body key).row id now = .ok made) : IsRequest principal title body made.val := by
  unfold NewItem.row at h
  obtain ⟨key, -, h⟩ := bind_eq_ok.1 h
  obtain ⟨kind, hkind, h⟩ := bind_eq_ok.1 h
  obtain ⟨status, hstatus, h⟩ := bind_eq_ok.1 h
  obtain ⟨release, hrelease, h⟩ := bind_eq_ok.1 h
  obtain ⟨sourceDoc, hsource, h⟩ := bind_eq_ok.1 h
  obtain ⟨createdBy, hcreated, h⟩ := bind_eq_ok.1 h
  split_ifs at h
  obtain rfl := Except.ok.inj h
  have hrequest : varchar 16 Kind.request.value = .ok Kind.request.value := if_pos (by decide)
  have hplanned : varchar 16 Status.planned.value = .ok Status.planned.value := if_pos (by decide)
  have hnull : ∀ n, nullable (varchar n) none = .ok none := fun n => rfl
  obtain rfl := Except.ok.inj (hrequest.symm.trans hkind)
  obtain rfl := Except.ok.inj (hplanned.symm.trans hstatus)
  obtain rfl := Except.ok.inj ((hnull 8).symm.trans hrelease)
  obtain rfl := Except.ok.inj ((hnull 256).symm.trans hsource)
  exact ⟨rfl, rfl, rfl, rfl, ⟨rfl, rfl, rfl⟩, hcreated⟩

theorem bind_ne_error {ε α β : Type} {x : Except ε α} {f : α → Except ε β} {e : ε} (hx : x ≠ .error e)
    (hf : ∀ a, f a ≠ .error e) : (x >>= f) ≠ .error e := by
  cases x with
  | ok a => exact hf a
  | error e' => exact fun h => hx (congrArg Except.error (Except.error.inj h))

theorem varchar_ne_uniqueViolation {n : ℕ} {s : String} : varchar n s ≠ .error .uniqueViolation := by
  unfold varchar
  split_ifs <;> nofun

theorem nullable_ne_uniqueViolation {n : ℕ} {s : Option String} : nullable (varchar n) s ≠ .error .uniqueViolation := by
  cases s with
  | none => nofun
  | some s =>
    have hcolumn : varchar n s ≠ .error .uniqueViolation := varchar_ne_uniqueViolation
    change (varchar n s).map some ≠ _
    cases hcut : varchar n s with
    | ok cut => nofun
    | error e =>
      rw [hcut] at hcolumn
      exact fun h => hcolumn (congrArg Except.error (Except.error.inj h))

/-- the columns are not what makes a key clash -/
theorem row_ne_uniqueViolation {new : NewItem} {id : ℕ} {now : ℤ} : new.row id now ≠ .error .uniqueViolation := by
  unfold NewItem.row
  refine bind_ne_error varchar_ne_uniqueViolation fun key => bind_ne_error varchar_ne_uniqueViolation fun kind => ?_
  refine bind_ne_error varchar_ne_uniqueViolation fun status => bind_ne_error nullable_ne_uniqueViolation fun release => ?_
  refine bind_ne_error nullable_ne_uniqueViolation fun source => bind_ne_error varchar_ne_uniqueViolation fun createdBy => ?_
  split_ifs <;> nofun

theorem insertItem_ok {new : NewItem} {now : ℤ} {made : Item} (h : t.insertItem new now = (.ok made, t')) :
    (∃ hmade, new.row t.nextId now = .ok ⟨made, hmade⟩) ∧ t'.items = t.items ++ [made] ∧ made.key ∉ t.items.map (·.key) := by
  unfold Tables.insertItem at h
  split at h
  · cases h
  · rename_i item hid hstatus hrow
    split_ifs at h with hkey
    · cases (Prod.mk.inj h).1
    obtain ⟨hmade, rfl⟩ := Prod.mk.inj h
    obtain rfl := Except.ok.inj hmade
    exact ⟨⟨_, hrow⟩, rfl, hkey⟩

theorem insertItem_clash {new : NewItem} {now : ℤ} (h : (t.insertItem new now).1 = .error .uniqueViolation) :
    ∃ key, varchar 32 new.key = .ok key ∧ key ∈ t.items.map (·.key) := by
  unfold Tables.insertItem at h
  split at h
  · rename_i e hrow
    obtain rfl := Except.error.inj h
    exact absurd hrow row_ne_uniqueViolation
  · rename_i item hid hstatus hrow
    split_ifs at h with hkey
    exact ⟨item.key, row_key hrow, hkey⟩

theorem apply_grows (now : ℤ) (e : Board.Act) (t : Tables) : Grows t (apply now e t).2 := by
  cases e with
  | update key fields =>
    simp only [apply, Tables.update]
    split_ifs
    · split
      · rename_i patch _
        rw [Grows, Tables.patch, List.map_map]
        exact (List.map_congr_left fun item _ => (origin_patched patch now key item).symm) ▸ List.prefix_rfl
      · exact .refl t
    · exact .refl t
  | insertEvent id actor fromStatus toStatus =>
    simp only [apply, Tables.insertEvent]
    split
    · exact .refl t
    · split_ifs <;> exact List.prefix_rfl
  | insertComment id author body =>
    simp only [apply, Tables.insertComment]
    split
    · exact .refl t
    · split_ifs <;> exact List.prefix_rfl
  | insertItem new =>
    simp only [apply, Tables.insertItem]
    split
    · exact List.prefix_rfl
    · split_ifs
      · exact List.prefix_rfl
      · rw [Grows, List.map_append]
        exact List.prefix_append ..
  | _ => exact .refl t

theorem answer_grows (o : Weather) (e : Statement) (t : Tables) : Grows t (answer o e t).2 := by
  cases e with
  | selectKeys =>
    rcases strike_cases o.fault SqlError.operational t (.ok (keysOf t), t) with h | ⟨m, -, h | h⟩ <;>
    · rw [answer, h]
      exact .refl t
  | on e =>
    rcases strike_cases o.fault SqlError.operational t (apply o.now e t) with h | ⟨m, -, h | h⟩
    · rw [answer, serve, h]
      exact apply_grows ..
    · rw [answer, serve, h]
      exact .refl t
    · rw [answer, serve, h]
      exact apply_grows ..

end Statements

/-! ## Calls under way -/

section Calls

variable {lib : Lib} {α β : Type} {call : Call} {g : Progress}

theorem wp_raisedAs {exn : BoardError → Refusal} {p : RepoM α} {Φ : Prog.Spec Statement Statement.Answer Progress}
    {Q : Except Refusal α → Progress → Prop} : wp Φ (raisedAs exn p) Q g = wp Φ p (fun x => Q (x.mapError exn)) g := by
  induction p generalizing g with
  | ret a => rfl
  | raise e => rfl
  | act e k ih =>
    simp only [raisedAs, wp]
    congr 1
    funext r g'
    exact ih r

/-- a call that may do what it likes with the items -/
abbrev Free (call : Call) : Prop := ∀ g e, call.Permits g (.on e)

/-- it keeps to its protocol, whatever it ends with -/
abbrev Keeps {ε : Type} (lib : Lib) (call : Call) (p : Prog Statement Statement.Answer ε α) : Prop :=
  ∀ g, wp (protocol (numbering lib call)) p (fun _ _ => True) g

theorem keeps_bind {ε : Type} {p : Prog Statement Statement.Answer ε α} {f : α → Prog Statement Statement.Answer ε β}
    (hp : Keeps lib call p) (hf : ∀ a, Keeps lib call (f a)) : Keeps lib call (p >>= f) :=
  fun g => wp_bind_inv protocol_mono (hp g) fun a g' _ => hf a g'

theorem keeps_repo (h : Free call) (p : BoardM α) : Keeps lib call (repo p) := by
  induction p with
  | ret a => exact fun _ => trivial
  | raise e => exact fun _ => trivial
  | act e k ih => exact fun g => ⟨h g e, fun r => ih r _⟩

theorem keeps_seed (h : Free call) (items : List NewItem) : Keeps lib call (seed items) := by
  induction items with
  | nil => exact fun _ => trivial
  | cons new rest ih =>
    have hcreate : Keeps lib call (do let _ ← repo (create new); pure 1 : RepoM ℕ) :=
      keeps_bind (keeps_repo h (create new)) fun _ _ => trivial
    refine keeps_bind (fun g => ?_) fun added => keeps_bind ih fun more => fun _ => trivial
    rw [wp_tryCatch]
    refine wp_mono protocol_mono ?_ (hcreate g)
    intro x g' _
    cases x with
    | ok n => trivial
    | error e => cases e <;> trivial

theorem keeps_service (h : Free call) (p : BoardM α) : Keeps lib call (raisedAs refusalOf (repo p)) := by
  intro g
  rw [wp_raisedAs]
  exact keeps_repo h p g

theorem keeps_requireAdmin {principal : Principal} : Keeps lib call (requireAdmin principal) := by
  intro g
  unfold requireAdmin
  split_ifs <;> trivial

theorem keeps_foundOr404 {key : String} {found : Option α} : Keeps lib call (foundOr404 key found) := by
  intro g
  cases found <;> trivial

/-- how a raise ends -/
def RaiseEnds (principal : Principal) (title : String) : Except Refusal Reply → Progress → Prop
  | .ok (.raised item), g => principal.can manageHealth = true ∧ Text.blank title = false ∧ g.made = [item]
  | .ok _, _ => False
  | .error (.forbidden _), _ => principal.can manageHealth = false
  | .error (.invalidRequest message), g =>
    (message = "An item needs a title." ∧ Text.blank title = true) ∨ ∃ key ∈ g.clash, message = key ++ " already exists."
  | .error (.notFound _), _ => False
  | .error (.upstreamUnavailable _), _ => True
  | .error (.uncaught e), _ => ∃ cause, e = .sql cause

theorem keeps_raise {principal : Principal} {title body : String} :
    wp (protocol (numbering lib (.raise principal title body))) (Call.prog lib (.raise principal title body))
      (RaiseEnds principal title) ⟨none, [], none⟩ := by
  simp only [Call.prog, raiseRequest, requireAdmin]
  by_cases hcan : principal.can manageHealth = true
  · rw [if_pos hcan]
    by_cases hblank : Text.blank title = true
    · rw [if_pos hblank]
      exact .inl ⟨rfl, hblank⟩
    · rw [if_neg hblank]
      refine And.intro trivial fun r => ?_
      cases r with
      | error e => trivial
      | ok u =>
        refine And.intro rfl fun r => ?_
        cases r with
        | error e => exact ⟨e, rfl⟩
        | ok keys =>
          refine And.intro trivial fun r => ?_
          cases r with
          | error e => trivial
          | ok u =>
            refine And.intro ⟨_, rfl, rfl⟩ fun r => ?_
            cases r with
            | ok made => exact ⟨hcan, by simpa using hblank, rfl⟩
            | error e =>
              cases e with
              | uniqueViolation => exact .inr ⟨_, rfl, rfl⟩
              | _ => trivial
  · rw [if_neg hcan]
    exact (Bool.not_eq_true _).mp hcan

/-- how a call ends: only a raise returns a new item -/
def Call.Ends : Call → Except Refusal Reply → Progress → Prop
  | .raise principal title _, x, g => RaiseEnds principal title x g
  | _, x, _ => ∀ item, x ≠ .ok (.raised item)

theorem wp_reply {reply : α → Reply} {p : ServiceM α} (hp : Keeps lib call p) (hreply : ∀ a item, reply a ≠ .raised item) :
    wp (protocol (numbering lib call)) (do return reply (← p)) (fun x _ => ∀ item, x ≠ .ok (.raised item)) g := by
  rw [wp_bind]
  refine wp_mono protocol_mono ?_ (hp g)
  intro x g' _
  cases x with
  | ok a => exact fun item h => hreply a item (Except.ok.inj h)
  | error e => exact fun item => nofun

theorem ends_prog (call : Call) :
    wp (protocol (numbering lib call)) (call.prog lib) call.Ends ⟨none, [], none⟩ := by
  cases call with
  | raise principal title body => exact keeps_raise
  | item principal key =>
    have hfree : Free (.item principal key) := fun _ _ => trivial
    have hview : Keeps lib (.item principal key) (requireView principal) := by
      intro g
      unfold requireView
      split_ifs <;> trivial
    have hitem : Keeps lib (.item principal key) (item principal key) := by
      refine keeps_bind hview fun _ => ?_
      exact keeps_bind (keeps_service hfree (get key)) fun _ => keeps_foundOr404
    have hreply : ∀ a item, Reply.found a ≠ .raised item := fun _ _ => nofun
    exact wp_reply hitem hreply
  | comment principal key body =>
    have hfree : Free (.comment principal key body) := fun _ _ => trivial
    have hcomment : Keeps lib (.comment principal key body) (comment principal key body) := by
      refine keeps_bind keeps_requireAdmin fun _ g => ?_
      split_ifs
      · trivial
      · exact keeps_bind (keeps_service hfree _) (fun _ => keeps_foundOr404) g
    have hreply : ∀ a item, Reply.commented a ≠ .raised item := fun _ _ => nofun
    exact wp_reply hcomment hreply
  | setStatus principal key status =>
    have hfree : Free (.setStatus principal key status) := fun _ _ => trivial
    have hset : Keeps lib (.setStatus principal key status) (setStatus lib principal key status) := by
      refine keeps_bind keeps_requireAdmin fun _ g => ?_
      split_ifs
      · exact keeps_bind (keeps_service hfree _) (fun _ => keeps_foundOr404) g
      · trivial
    have hreply : ∀ a item, Reply.found a ≠ .raised item := fun _ _ => nofun
    exact wp_reply hset hreply
  | edit principal key fields =>
    have hfree : Free (.edit principal key fields) := fun _ _ => trivial
    have hedit : Keeps lib (.edit principal key fields) (edit principal key fields) := by
      refine keeps_bind keeps_requireAdmin fun _ => ?_
      exact keeps_bind (keeps_service hfree _) fun _ => keeps_foundOr404
    have hreply : ∀ a item, Reply.found a ≠ .raised item := fun _ _ => nofun
    exact wp_reply hedit hreply
  | seed items =>
    have hfree : Free (.seed items) := fun _ _ => trivial
    have hseed : Keeps lib (.seed items) (raisedAs .uncaught (seed items)) := by
      intro g
      rw [wp_raisedAs]
      exact keeps_seed hfree items g
    have hreply : ∀ a item, Reply.added a ≠ .raised item := fun _ _ => nofun
    exact wp_reply hseed hreply

end Calls

end TrinoManagement.BoardService
