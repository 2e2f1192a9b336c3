/-
Numbering requests. Two people raise a request at the same moment: each call reads the keys there are and then inserts under
the next one, and anything may happen in between.

- `served`: calls of the service side by side, one statement at a time, and the command that fills the board.
- `Numbered`: how a raise may end that was started on a board. `Known`: what it knows on the way there.
- `made_once`: no key is given out twice, by a ledger of the keys that were given out.
- `requests_numbered`: every interleaving.
-/
import Mathlib.Tactic
import TrinoManagement.Work.Requests

namespace TrinoManagement.BoardService

open TrinoManagement.Audit (Principal manageHealth)
open TrinoManagement.Board
open TrinoManagement.Guard (strike_cases)
open TrinoManagement.Pool (Suits beside owed pool_later pool_owed run_beside)
open TrinoManagement.Prog (protocol protocol_mono wp wp_mono)
open TrinoManagement.Run (Meets meets_iff run run_append)

/-! ## Calls side by side -/

def served (lib : Lib) : Pool.System Call Statement Statement.Answer Refusal Reply Weather Empty Tables Progress where
  program := Call.prog lib
  protocol := numbering lib
  fresh := ⟨none, [], none⟩
  handle := answer
  spawned _ t := t
  outside l _ := nomatch l

abbrev Thread := Pool.Thread Call Statement Statement.Answer Refusal Reply Progress

abbrev Moves := List (Pool.Move Call Weather Empty)

/-! ## What is claimed -/

/-- a number above those of all requests of a board -/
def After (lib : Lib) (t : Tables) (key : String) : Prop :=
  ∃ n : ℕ, key = requestKey n ∧ ∀ older ∈ keysOf t, ∀ m ∈ requestNumber lib older, m < n

/-- how a raise ends that was started on the board `t`, as far as the board `t'` shows -/
def Numbered (lib : Lib) (t t' : Tables) (principal : Principal) (title body : String) :
    Prog Statement Statement.Answer Refusal Reply → Prop
  | .ret (.raised item) => principal.can manageHealth = true ∧ IsRequest principal title body item ∧
      After lib t item.key ∧ origin item ∈ t'.items.map origin
  | .ret _ => False
  | .raise (.forbidden _) => principal.can manageHealth = false
  | .raise (.invalidRequest message) => (message = "An item needs a title." ∧ Text.blank title = true) ∨
      ∃ key, message = key ++ " already exists." ∧ After lib t key ∧ key ∈ t'.items.map (·.key)
  | .raise (.notFound _) => False
  | .raise (.upstreamUnavailable _) => True
  | .raise (.uncaught e) => ∃ cause, e = .sql cause
  | .act .. => True

/-- the key of the item a call has returned -/
def returnedKey : Prog Statement Statement.Answer Refusal Reply → Option String
  | .ret (.raised item) => some item.key
  | _ => none

def returned (threads : List Thread) : List String := threads.filterMap fun th => returnedKey th.prog

section Steps

variable {lib : Lib} {t t' s s' : Tables} {principal : Principal} {title body key : String} {g : Progress} {o : Weather}

theorem Grows.keysOf (h : Grows t t') {key : String} (hkey : key ∈ keysOf t) : key ∈ keysOf t' := by
  obtain ⟨hmem, hlike⟩ := List.mem_filter.1 hkey
  exact List.mem_filter.2 ⟨h.key hmem, hlike⟩

/-- such a key was on no item of that board -/
theorem After.fresh (h : After lib t key) : key ∉ t.items.map (·.key) := by
  obtain ⟨n, rfl, habove⟩ := h
  intro hmem
  have hread : requestKey n ∈ keysOf t := List.mem_filter.2 ⟨hmem, like_requestKey n⟩
  exact lt_irrefl _ (habove _ hread _ (requestNumber_key n))

/-! ## One raise -/

/-- what a raise knows of the board it was started on and of the one there is -/
structure Known (lib : Lib) (t : Tables) (principal : Principal) (title body : String) (s : Tables) (g : Progress) :
    Prop where
  read : ∀ h ∈ g.read, 0 ≤ h ∧ ∀ older ∈ keysOf t, ∀ m ∈ requestNumber lib older, m ≤ h
  made : ∀ item ∈ g.made, IsRequest principal title body item ∧ After lib t item.key ∧ origin item ∈ s.items.map origin
  clash : ∀ key ∈ g.clash, After lib t key ∧ key ∈ s.items.map (·.key)

/-- the key after those that were read is a number above the board's -/
theorem Known.next (h : Known lib t principal title body s g) {highest : ℤ} (hread : highest ∈ g.read) :
    After lib t (requestKey (highest + 1)) := by
  obtain ⟨hpos, habove⟩ := h.read highest hread
  obtain ⟨n, rfl⟩ := Int.eq_ofNat_of_zero_le hpos
  refine ⟨n + 1, rfl, fun older holder m hm => ?_⟩
  have hle := habove older holder m hm
  push_cast
  omega

theorem Known.grows (h : Known lib t principal title body s g) (hgrows : Grows s s') :
    Known lib t principal title body s' g where
  read := h.read
  made item hitem := ⟨(h.made item hitem).1, (h.made item hitem).2.1, hgrows.mem (h.made item hitem).2.2⟩
  clash key hkey := ⟨(h.clash key hkey).1, hgrows.key (h.clash key hkey).2⟩

theorem known_fresh : Known lib t principal title body s ⟨none, [], none⟩ where
  read _ h := by cases h
  made _ h := by cases h
  clash _ h := by cases h

/-- the keys of a board that has grown -/
theorem Known.readKeys (h : Known lib t principal title body s g) (hgrows : Grows t s) :
    Known lib t principal title body s { g with read := some (highest lib (BoardService.keysOf s)) } where
  read := by
    rintro _ ⟨⟩
    exact ⟨highest_nonneg _, fun older holder m hm => le_highest (hgrows.keysOf holder) hm⟩
  made := h.made
  clash := h.clash

/-- the keys that are read are those of the board -/
theorem answer_selectKeys {keys : List String} (h : (answer o .selectKeys s).1 = .ok keys) : keys = keysOf s := by
  rcases strike_cases o.fault SqlError.operational s (.ok (keysOf s), s) with hserved | ⟨m, hserved, -⟩
  · rw [answer, hserved] at h
    exact (Except.ok.inj h).symm
  · rw [answer, hserved] at h
    cases h

/-- an INSERT that says what it did has done it -/
theorem answer_insertItem {new : NewItem} {r : Except SqlError Item} (h : (answer o (.on (.insertItem new)) s).1 = r)
    (hr : ∀ m, r ≠ .error (.operational m)) : answer o (.on (.insertItem new)) s = s.insertItem new o.now := by
  rcases strike_cases o.fault SqlError.operational s (apply o.now (.insertItem new) s) with hserved | ⟨m, hserved, -⟩
  · exact hserved
  · exact absurd (h.symm.trans hserved) (hr m)

/-- **The step lemma.** A statement of a raise leaves it with what it knows. -/
theorem known_step (e : Statement) (h : Known lib t principal title body s g) (hgrows : Grows t s)
    (hpermitted : Call.Permits g (.raise principal title body) e) :
    Known lib t principal title body (answer o e s).2 (Progress.after lib g e (answer o e s).1) := by
  have hsame : Known lib t principal title body (answer o e s).2 g := h.grows (answer_grows o e s)
  cases e with
  | selectKeys =>
    cases hr : (answer o .selectKeys s).1 with
    | error e => exact hsame
    | ok keys =>
      obtain rfl := answer_selectKeys hr
      exact (h.readKeys hgrows).grows (answer_grows o .selectKeys s)
  | on e =>
    cases e with
    | insertItem new =>
      obtain ⟨highest, hread, rfl⟩ := hpermitted
      obtain ⟨n, hn, habove⟩ := h.next hread
      rw [hn] at hsame ⊢
      cases hr : (answer o (.on (.insertItem (requestOf principal title body (requestKey n)))) s).1 with
      | ok made =>
        have hserved := answer_insertItem hr (fun _ => nofun)
        obtain ⟨⟨hmade, hrow⟩, hitems, -⟩ := insertItem_ok (Prod.ext ((congrArg Prod.fst hserved).symm.trans hr) rfl)
        have hcut := row_key hrow
        have hkey : made.key = requestKey n := eq_of_varchar_requestKey hcut
        refine ⟨hsame.read, fun item hitem => ?_, hsame.clash⟩
        rcases List.mem_append.1 hitem with hitem | hitem
        · exact hsame.made item hitem
        · obtain rfl := List.mem_singleton.1 hitem
          refine ⟨row_request hrow, ⟨n, hkey, habove⟩, ?_⟩
          rw [hserved, hitems, List.map_append]
          exact List.mem_append_right _ List.mem_cons_self
      | error e =>
        cases e with
        | uniqueViolation =>
          have hserved := answer_insertItem hr (fun _ => nofun)
          obtain ⟨key, hcut, hkey⟩ := insertItem_clash ((congrArg Prod.fst hserved).symm.trans hr)
          obtain rfl := eq_of_varchar_requestKey hcut
          refine ⟨hsame.read, hsame.made, ?_⟩
          rintro _ ⟨⟩
          exact ⟨⟨n, rfl, habove⟩, (answer_grows o _ s).key hkey⟩
        | _ => exact hsame
    | _ => exact hsame

/-! ## No key twice -/

/-- the keys that were given out, after one more statement -/
def giveOut (o : Weather) (e : Statement) (t : Tables) (given : Multiset String) : Multiset String :=
  match e with
  | .on (.insertItem new) =>
    match (answer o (.on (.insertItem new)) t).1 with
    | .ok made => made.key ::ₘ given
    | .error _ => given
  | _ => given

/-- the keys a call was given -/
def keysMade (g : Progress) : Multiset String := ↑(g.made.map (·.key))

/-- what was given out is on the board, once -/
def Given (s : Tables × Multiset String) : Prop := s.2.Nodup ∧ ∀ key ∈ s.2, key ∈ s.1.items.map (·.key)

theorem given_step {s : Tables × Multiset String} (e : Statement) (h : Given s) :
    Given ((answer o e s.1).2, giveOut o e s.1 s.2) := by
  have hsame : Given ((answer o e s.1).2, s.2) := ⟨h.1, fun key hkey => (answer_grows o e s.1).key (h.2 key hkey)⟩
  cases e with
  | selectKeys => exact hsame
  | on e =>
    cases e with
    | insertItem new =>
      simp only [giveOut]
      cases hr : (answer o (.on (.insertItem new)) s.1).1 with
      | error e => exact hsame
      | ok made =>
        have hserved := answer_insertItem hr (fun _ => nofun)
        obtain ⟨-, hitems, hfresh⟩ := insertItem_ok (Prod.ext ((congrArg Prod.fst hserved).symm.trans hr) rfl)
        refine ⟨Multiset.nodup_cons.2 ⟨fun hmem => hfresh (h.2 _ hmem), h.1⟩, fun key hkey => ?_⟩
        rcases Multiset.mem_cons.1 hkey with rfl | hkey
        · rw [hserved, hitems, List.map_append]
          exact List.mem_append_right _ List.mem_cons_self
        · exact hsame.2 key hkey
    | _ => exact hsame

/-- the ledger moves with what the calls were given -/
theorem giveOut_made (lib : Lib) (g : Progress) (e : Statement) (given : Multiset String) :
    giveOut o e s given + keysMade g = given + keysMade (Progress.after lib g e (answer o e s).1) := by
  cases e with
  | selectKeys => cases (answer o .selectKeys s).1 <;> rfl
  | on e =>
    cases e with
    | insertItem new =>
      simp only [giveOut]
      cases (answer o (.on (.insertItem new)) s).1 with
      | error e => cases e <;> rfl
      | ok made =>
        have hmade : keysMade (Progress.after lib g (.on (.insertItem new)) (.ok made)) = keysMade g + {made.key} := by
          rw [keysMade, Progress.after, List.map_append]
          rfl
        rw [hmade, Multiset.cons_add, ← add_assoc, ← Multiset.singleton_add, add_comm]
    | _ => rfl

theorem keeps_prog (call : Call) : wp (protocol (numbering lib call)) (call.prog lib) (fun _ _ => True) ⟨none, [], none⟩ :=
  wp_mono protocol_mono (fun _ _ _ => trivial) (ends_prog call)

end Steps

/-! ## Every interleaving -/

section Runs

variable (lib : Lib) (p : Pool.State Call Statement Statement.Answer Refusal Reply Tables Progress) (moves : Moves)

/-- a raise that was started on the board of `p` -/
theorem raise_numbered : ∀ th ∈ (run (Pool.step (served lib)) p moves).threads.drop p.threads.length,
    ∀ principal title body, th.task = .raise principal title body →
      Numbered lib p.shared (run (Pool.step (served lib)) p moves).shared principal title body th.prog := by
  have hlater := pool_later (served lib) (fun s => Grows p.shared s)
    (fun call s g => ∀ principal title body, call = .raise principal title body → Known lib p.shared principal title body s g)
    Grows Call.Ends ends_prog answer_grows (fun _ => Grows.refl) (fun l => Empty.elim l) (fun _ _ h h' => h'.trans h)
    (fun _ _ _ _ h h' principal title body heq => (h' principal title body heq).grows h)
    (fun _ _ _ _ _ _ _ => known_fresh) ?_ (Grows.refl p.shared) moves
  · intro th hth principal title body htask
    obtain ⟨hknown, hprog⟩ := hlater th hth
    obtain ⟨task, prog, g⟩ := th
    obtain rfl : task = .raise principal title body := htask
    replace hknown := hknown principal title body rfl
    cases prog with
    | act e k => trivial
    | ret reply =>
      cases reply with
      | raised item =>
        obtain ⟨hcan, -, hmade⟩ := hprog
        have hitem : item ∈ g.made := by
          rw [hmade]
          exact List.mem_cons_self
        exact ⟨hcan, hknown.made item hitem⟩
      | _ => exact hprog
    | raise e =>
      cases e with
      | invalidRequest message =>
        rcases hprog with htitle | ⟨key, hkey, rfl⟩
        · exact .inl htitle
        · exact .inr ⟨key, rfl, hknown.clash key hkey⟩
      | _ => exact hprog
  · rintro call o e s g hgrows hknown hok principal title body rfl
    exact known_step e (hknown principal title body rfl) hgrows hok

/-- what calls were given is on the board once, together -/
theorem owed_nodup (t : Tables) : (owed keysMade (run (Pool.step (served lib)) ⟨t, []⟩ moves).threads).Nodup := by
  have hmeets : Meets (Pool.step (beside (served lib) giveOut)) (Suits fun _ _ _ _ _ => True) ⟨(t, 0), []⟩ moves := by
    refine meets_iff.2 fun before m after _ => ?_
    cases m with
    | act i o =>
      simp only [Suits]
      split <;> trivial
    | _ => trivial
  obtain ⟨hgiven, hledger⟩ := pool_owed (beside (served lib) giveOut) Given (fun _ _ _ => True) (fun _ _ => True) keysMade
    Prod.snd keeps_prog (fun _ _ _ _ _ _ => trivial) (fun call s hs => ⟨trivial, hs, trivial, (add_zero _).symm⟩)
    (fun l => Empty.elim l)
    (fun call o e s g hs _ _ _ => ⟨trivial, given_step e hs, trivial, giveOut_made lib g e s.2⟩)
    hmeets (fun _ hth => absurd hth List.not_mem_nil) (fun _ hth => absurd hth List.not_mem_nil)
    ⟨Multiset.nodup_zero, fun _ h => absurd h (Multiset.notMem_zero _)⟩ rfl
  have herased := @run_beside _ _ _ _ _ _ _ _ _ (served lib) _ giveOut ⟨(t, 0), []⟩ moves
  change Pool.State.map Prod.fst (run (Pool.step (beside (served lib) giveOut)) ⟨(t, 0), []⟩ moves) =
    run (Pool.step (served lib)) ⟨t, []⟩ moves at herased
  rw [← herased]
  exact hledger ▸ hgiven.1

/-- how every call ends, whenever it was started -/
theorem ends_all (t : Tables) : ∀ th ∈ (run (Pool.step (served lib)) ⟨t, []⟩ moves).threads,
    wp (protocol (numbering lib th.task)) th.prog th.task.Ends th.typestate := by
  have hlater := pool_later (served lib) (fun _ => True) (fun _ _ _ => True) (fun _ _ => True) Call.Ends ends_prog
    (fun _ _ _ => trivial) (fun _ _ => trivial) (fun l => Empty.elim l) (fun _ _ _ _ => trivial) (fun _ _ _ _ _ _ => trivial)
    (fun _ _ _ => trivial) (fun _ _ _ _ _ _ _ _ => trivial) (p := ⟨t, []⟩) trivial moves
  exact fun th hth => (hlater th hth).2

variable {lib} in
/-- a key that is returned is one that was given -/
theorem returned_made {task : Call} {prog : Prog Statement Statement.Answer Refusal Reply} {g : Progress} {key : String}
    (h : wp (protocol (numbering lib task)) prog task.Ends g) (hkey : returnedKey prog = some key) : keysMade g = {key} := by
  cases prog with
  | ret reply =>
    cases reply with
    | raised item =>
      obtain rfl := Option.some.inj hkey
      cases task with
      | raise principal title body =>
        obtain ⟨-, -, hmade⟩ := h
        rw [keysMade, hmade]
        rfl
      | _ => exact absurd rfl (h item)
    | _ => cases hkey
  | _ => cases hkey

variable {lib} in
/-- what was returned is among what was given -/
theorem returned_le {threads : List Thread}
    (h : ∀ th ∈ threads, wp (protocol (numbering lib th.task)) th.prog th.task.Ends th.typestate) :
    (returned threads : Multiset String) ≤ owed keysMade threads := by
  induction threads with
  | nil => exact le_rfl
  | cons th rest ih =>
    have hrest : (returned rest : Multiset String) ≤ owed keysMade rest :=
      ih fun th' hth' => h th' (List.mem_cons_of_mem th hth')
    have howed : owed keysMade (th :: rest) = keysMade th.typestate + owed keysMade rest := List.sum_cons
    rw [howed, returned, List.filterMap_cons]
    split
    · exact hrest.trans (Multiset.le_add_left ..)
    · rename_i key hkey
      obtain ⟨task, prog, g⟩ := th
      have hend : wp (protocol (numbering lib task)) prog task.Ends g := h _ List.mem_cons_self
      have hmade : keysMade g = {key} := returned_made hend hkey
      rw [hmade, Multiset.singleton_add, ← Multiset.cons_coe]
      exact Multiset.cons_le_cons key hrest

/-- **Requests are numbered, each with a number of its own**, whatever is done side by side on the board and whatever fails.
No two raises return one key. A raise that returns was an administrator's; its request has a title, is the one that was asked
for, and stays on the board with its key; and its number is above that of every request of the board it was started on. One
that is told that its key exists has a title, and somebody else's item has taken that key since. -/
theorem requests_numbered (lib : Lib) (t : Tables) (before after : Moves) :
    let p := run (Pool.step (served lib)) ⟨t, []⟩ before
    let q := run (Pool.step (served lib)) p after
    (returned q.threads).Nodup ∧
    ∀ th ∈ q.threads.drop p.threads.length, ∀ principal title body, th.task = .raise principal title body →
      Numbered lib p.shared q.shared principal title body th.prog := by
  intro p q
  refine ⟨?_, raise_numbered lib p after⟩
  have hq : q = run (Pool.step (served lib)) ⟨t, []⟩ (before ++ after) := run_append.symm
  rw [hq, ← Multiset.coe_nodup]
  exact Multiset.nodup_of_le (returned_le (ends_all lib _ t)) (owed_nodup lib _ t)

end Runs

/-! ## Two at once -/

section Sample

def plainLib : Lib := ⟨fun _ => none, id⟩

def admin : Principal := ⟨"ada", ["admin"]⟩

/-- two raises that read the keys before either inserts, and one after them -/
def atOnce : Moves :=
  [.spawn (.raise admin "Rolling restarts" ""), .spawn (.raise admin "Node list" "")] ++
    ([0, 0, 1, 1, 0, 0, 1, 1].map fun i => .act i ⟨.none, 1⟩) ++
    .spawn (.raise admin "Node list" "") :: List.replicate 4 (.act 2 ⟨.none, 2⟩)

example : returned (run (Pool.step (served plainLib)) ⟨Tables.empty, []⟩ atOnce).threads = ["REQ-1", "REQ-2"] := by
  decide +kernel

end Sample

end TrinoManagement.BoardService
