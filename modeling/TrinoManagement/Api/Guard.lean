/-
The audit guard of `tms/core/audit.py` around the writes of a service, whatever the effects of the service itself are.

A program performs the effects of its service (`Act.op`) and those of the audit store. `audited` is the context manager that
`AuditGuard.action` returns: it refuses without a reason or a writable store, and records how its body ended.
- `Post`: what holds of the answer and of the service's own state after a program, whatever the audit log.
- `post_audited`: the guard hands on what its body does; `post_run`: `Post` bounds every run.
- `guarded`: a protocol of the service's own effects, with the audit store always open. `wp_audited`: so a guarded body
  keeps to what the body alone keeps to.
-/
import Mathlib.Tactic
import TrinoManagement.Config.Drafts

namespace TrinoManagement.Guard

open TrinoManagement.Audit
open TrinoManagement.Drafts (AuditEntry)
open TrinoManagement.Prog (Protocol Spec demonic demonic_mono onOk perform protocol protocol_mono wp wp_bind wp_mono wp_run
  wp_tryCatch)
open TrinoManagement.Service (Exn)

/-! ## Effects and programs -/

/-- the effects of a service, and those of the audit store -/
inductive Act (E : Type) where
  | writable
  | write (entry : AuditEntry)
  | op (e : E)

/-- a record that cannot be written is logged and swallowed, so writing answers nothing -/
@[reducible] def Answer {E : Type} (R : E → Type) : Act E → Type
  | .writable => Bool
  | .write _ => Unit
  | .op e => R e

abbrev M (E : Type) (R : E → Type) (α : Type) := Prog (Act E) (Answer R) Exn α

variable {E : Type} {R : E → Type} {α β : Type}

/-- an effect of the service -/
def op (e : E) : M E R (R e) := perform (Act.op e)

/-- a check: nothing, or what it raises -/
def refuse : Option Exn → M E R Unit
  | none => pure ()
  | some e => throw e

/-- `_require_admin` -/
def requireAdmin (principal : Principal) (message : String) : M E R Unit :=
  refuse (if principal.can manageHealth then none else some (.forbidden message))

theorem requireAdmin_refused {α : Type} {principal : Principal} (h : principal.can manageHealth = false) (message : String)
    (rest : M E R α) : (requireAdmin principal message >>= fun _ => rest) = throw (.forbidden message) := by
  rw [requireAdmin, if_neg (by rw [h]; decide)]
  rfl

/-- an answer that may be an error, as what it is raised as -/
def lift {ε : Type} (exn : ε → Exn) : Except ε α → M E R α
  | .ok a => pure a
  | .error e => throw (exn e)

/-- what a record is about -/
structure Target where
  actionType : String
  kind : String
  id : String
  cluster : Option String
deriving DecidableEq, Repr

def entryOf (principal : Principal) (target : Target) (reason : String) (outcome : AuditOutcome)
    (errorMessage : Option String) : AuditEntry :=
  ⟨principal.username, principal.roles, target.actionType, target.kind, target.id, target.cluster, reason, outcome,
    errorMessage⟩

def auditDown (target : Target) : Exn :=
  .auditUnavailable ("audit store is unavailable; refusing to perform " ++ target.actionType ++ " on " ++ target.id)

/-- `with self.audit.action(...)` -/
def audited (principal : Principal) (target : Target) (reason : Option String) (body : M E R α) : M E R α :=
  match normaliseReason (reason.getD "") with
  | none => throw (.reasonRequired reasonRequiredMessage)
  | some clean => do
    let writable : Bool ← perform Act.writable
    if writable then
      let a ← tryCatch body fun e => do
        perform (Act.write (entryOf principal target clean .failure (some (e.className ++ ": " ++ e.text))))
        throw e
      perform (Act.write (entryOf principal target clean .success none))
      pure a
    else throw (auditDown target)

/-- `record_refusal` -/
def recordRefusal (principal : Principal) (target : Target) (reason : Option String) (errorMessage : String) : M E R Unit :=
  perform (Act.write (entryOf principal target ((normaliseReason (reason.getD "")).getD "(reason not supplied)") .failure
    (some errorMessage)))

/-! ## Who answers -/

/-- the service's own state, and the audit log -/
structure Site (S : Type) where
  service : S
  log : List AuditEntry

/-- the weather for one effect: is the audit store there, and what the service's stores do -/
structure Oracle (O : Type) where
  writable : Bool
  inner : O

instance {O : Type} [Inhabited O] : Inhabited (Oracle O) := ⟨⟨true, default⟩⟩

/-- what a store does with a statement: it serves it, or fails before or after it took effect -/
inductive Fault where
  | none
  | failed (message : String)
  | lost (message : String)
deriving DecidableEq, Repr

/-- the answer of a store, and what is left of the state -/
def Fault.strike {ε S : Type} (fault : Fault) (down : String → ε) (s : S) (served : Except ε α × S) : Except ε α × S :=
  match fault with
  | .none => served
  | .failed m => (.error (down m), s)
  | .lost m => (.error (down m), served.2)

/-- an answer that is no error was served -/
theorem strike_ok {ε S : Type} {fault : Fault} {down : String → ε} {s : S} {served : Except ε α × S} {a : α}
    (h : (fault.strike down s served).1 = .ok a) : served.1 = .ok a := by
  cases fault with
  | none => exact h
  | failed m => cases h
  | lost m => cases h

/-- a fault answers with an error, and leaves the state before or after the statement -/
theorem strike_cases {ε S : Type} (fault : Fault) (down : String → ε) (s : S) (served : Except ε α × S) :
    fault.strike down s served = served ∨ ∃ m, (fault.strike down s served).1 = .error (down m) ∧
      ((fault.strike down s served).2 = s ∨ (fault.strike down s served).2 = served.2) := by
  cases fault with
  | none => exact .inl rfl
  | failed m => exact .inr ⟨m, rfl, .inl rfl⟩
  | lost m => exact .inr ⟨m, rfl, .inr rfl⟩

section Handle

variable {O S : Type} (h : O → (e : E) → S → R e × S)

def handle (o : Oracle O) : (a : Act E) → Site S → Answer R a × Site S
  | .writable, s => (o.writable, s)
  | .write entry, s => ((), if o.writable then { s with log := s.log ++ [entry] } else s)
  | .op e, s => ((h o.inner e s.service).1, { s with service := (h o.inner e s.service).2 })

/-- a record is none of the service's state -/
theorem handle_write (o : Oracle O) (entry : AuditEntry) (s : Site S) :
    (handle h o (.write entry) s).2.service = s.service := by
  simp only [handle]
  split_ifs <;> rfl

/-! ## What holds afterwards -/

variable (A : Oracle O → Prop)

/-- `Q` of the answer and of the service's state, after every run whose weather is in `A` -/
def Post (p : M E R α) (Q : Except Exn α → S → Prop) (s : S) : Prop :=
  ∀ log, wp (demonic A (handle h)) p (fun x site => Q x site.service) ⟨s, log⟩

end Handle

section Rules

variable {O S : Type} {h : O → (e : E) → S → R e × S} {A : Oracle O → Prop} {p : M E R α}
  {Q Q' : Except Exn α → S → Prop} {s : S}

theorem post_pure {a : α} (hQ : Q (.ok a) s) : Post h A (pure a : M E R α) Q s := fun _ => hQ

theorem post_throw {e : Exn} (hQ : Q (.error e) s) : Post h A (throw e : M E R α) Q s := fun _ => hQ

theorem post_op {e : E} {Q : Except Exn (R e) → S → Prop}
    (hQ : ∀ o, A o → Q (.ok (h o.inner e s).1) (h o.inner e s).2) : Post h A (op e) Q s :=
  fun _ o ho => hQ o ho

theorem post_bind {f : α → M E R β} {Q : Except Exn β → S → Prop}
    (hp : Post h A p (onOk (fun a s' => Post h A (f a) Q s') Q) s) : Post h A (p >>= f) Q s := by
  intro log
  rw [wp_bind]
  refine wp_mono demonic_mono ?_ (hp log)
  intro x site hx
  cases x with
  | ok a => exact hx site.log
  | error e => exact hx

theorem post_mono (hp : Post h A p Q s) (hQ : ∀ x s', Q x s' → Q' x s') : Post h A p Q' s := by
  intro log
  exact wp_mono demonic_mono (fun x site hx => hQ x site.service hx) (hp log)

/-- what the handler does with an exception replaces what the body leaves of it -/
theorem post_tryCatch {f : Exn → M E R α} (hp : Post h A p (fun x s' => match x with
    | .ok a => Q (.ok a) s'
    | .error e => Post h A (f e) Q s') s) : Post h A (tryCatch p f) Q s := by
  intro log
  rw [wp_tryCatch]
  refine wp_mono demonic_mono ?_ (hp log)
  intro x site hx
  cases x with
  | ok a => exact hx
  | error e => exact hx site.log

theorem post_refuse {o : Option Exn} {Q : Except Exn Unit → S → Prop} (hnone : o = none → Q (.ok ()) s)
    (hsome : ∀ e, o = some e → Q (.error e) s) : Post h A (refuse o : M E R Unit) Q s := by
  cases o with
  | none => exact post_pure (hnone rfl)
  | some e => exact post_throw (hsome e rfl)

/-- a check that passes -/
theorem post_pass {o : Option Exn} {Q : Except Exn Unit → S → Prop} (ho : o = none) (hQ : Q (.ok ()) s) :
    Post h A (refuse o : M E R Unit) Q s := by
  rw [ho]
  exact post_pure hQ

theorem post_lift {ε : Type} {exn : ε → Exn} {r : Except ε α} (hok : ∀ a, r = .ok a → Q (.ok a) s)
    (herror : ∀ e, r = .error e → Q (.error (exn e)) s) : Post h A (lift exn r : M E R α) Q s := by
  cases r with
  | ok a => exact post_pure (hok a rfl)
  | error e => exact post_throw (herror e rfl)

/-- **The guard is transparent**: past its own refusals it hands on what its body does. -/
theorem post_audited {principal : Principal} {target : Target} {reason : Option String}
    (hreason : normaliseReason (reason.getD "") = none → Q (.error (.reasonRequired reasonRequiredMessage)) s)
    (hdown : (∃ o, A o ∧ o.writable = false) → Q (.error (auditDown target)) s) (hbody : Post h A p Q s) :
    Post h A (audited principal target reason p) Q s := by
  unfold audited
  cases hclean : normaliseReason (reason.getD "") with
  | none => exact post_throw (hreason hclean)
  | some clean =>
    intro log
    rw [wp_bind]
    intro o ho
    change wp _ (if o.writable = true then _ else _) _ _
    split_ifs with hwritable
    · rw [wp_bind, wp_tryCatch]
      refine wp_mono demonic_mono ?_ (hbody log)
      intro x site hx
      cases x with
      | ok a =>
        intro o _
        change Q (.ok a) (handle h o (.write _) site).2.service
        rw [handle_write]
        exact hx
      | error e =>
        intro o _
        change Q (.error e) (handle h o (.write _) site).2.service
        rw [handle_write]
        exact hx
    · exact hdown ⟨o, ho, by simpa using hwritable⟩

/-- **Adequacy.** -/
theorem post_run [Inhabited O] {os : List (Oracle O)} {site : Site S} (hd : A default) (hos : ∀ o ∈ os, A o)
    (hp : Post h A p Q site.service) :
    Q (Prog.run (handle h) os p site).1 (Prog.run (handle h) os p site).2.service :=
  wp_run hd hos (hp site.log)

end Rules

/-! ## Protocols -/

section Protocols

variable {σ : Type}

/-- a protocol of the service's effects; the audit store may be asked and written at any time -/
def guarded (P : Protocol E R σ) : Protocol (Act E) (Answer R) σ where
  ok g
    | .op e => P.ok g e
    | .writable | .write _ => True
  next g
    | .op e, r => P.next g e r
    | .writable, _ | .write _, _ => g

variable {Φ : Spec (Act E) (Answer R) σ} {P : Protocol E R σ} {p : M E R α} {Q : Except Exn α → σ → Prop} {g : σ}

theorem wp_refuse {o : Option Exn} {Q : Except Exn Unit → σ → Prop} (hnone : o = none → Q (.ok ()) g)
    (hsome : ∀ e, o = some e → Q (.error e) g) : wp Φ (refuse o : M E R Unit) Q g := by
  cases o with
  | none => exact hnone rfl
  | some e => exact hsome e rfl

theorem wp_lift {ε : Type} {exn : ε → Exn} {r : Except ε α} (hok : ∀ a, r = .ok a → Q (.ok a) g)
    (herror : ∀ e, r = .error e → Q (.error (exn e)) g) : wp Φ (lift exn r : M E R α) Q g := by
  cases r with
  | ok a => exact hok a rfl
  | error e => exact herror e rfl

/-- **A guarded body that keeps an invariant**, if the audit store's own effects do. -/
theorem wp_audited_inv {Inv : σ → Prop} {principal : Principal} {target : Target} {reason : Option String} (hΦ : Φ.Mono)
    (hwritable : ∀ g, Inv g → Φ .writable (fun _ g' => Inv g') g)
    (hwrite : ∀ entry g, Inv g → Φ (.write entry) (fun _ g' => Inv g') g)
    (hbody : ∀ g, Inv g → wp Φ p (fun _ g' => Inv g') g) (hg : Inv g) :
    wp Φ (audited principal target reason p) (fun _ g' => Inv g') g := by
  unfold audited
  cases normaliseReason (reason.getD "") with
  | none => exact hg
  | some clean =>
    rw [wp_bind]
    refine hΦ _ _ _ _ ?_ (hwritable g hg)
    intro writable g hg
    change wp Φ (if writable = true then _ else _) _ _
    split_ifs
    · rw [wp_bind, wp_tryCatch]
      refine wp_mono hΦ ?_ (hbody g hg)
      intro x g hg
      cases x with
      | ok a => exact hΦ _ _ _ _ (fun _ _ hg => hg) (hwrite _ g hg)
      | error e => exact hΦ _ _ _ _ (fun _ _ hg => hg) (hwrite _ g hg)
    · exact hg

theorem wp_op {e : E} {Q : Except Exn (R e) → σ → Prop} (hok : P.ok g e) (hQ : ∀ r, Q (.ok r) (P.next g e r)) :
    wp (protocol (guarded P)) (op e : M E R (R e)) Q g := ⟨hok, hQ⟩

/-- **A guarded body** keeps to the protocol if the body does, and its refusals come before any effect of the service. -/
theorem wp_audited {principal : Principal} {target : Target} {reason : Option String} (hrefused : ∀ e, Q (.error e) g)
    (hbody : wp (protocol (guarded P)) p Q g) :
    wp (protocol (guarded P)) (audited principal target reason p) Q g := by
  unfold audited
  cases normaliseReason (reason.getD "") with
  | none => exact hrefused _
  | some clean =>
    rw [wp_bind]
    refine ⟨trivial, ?_⟩
    intro writable
    change wp _ (if writable = true then _ else _) _ _
    split_ifs
    · rw [wp_bind, wp_tryCatch]
      refine wp_mono protocol_mono ?_ hbody
      intro x g' hx
      cases x with
      | ok a => exact ⟨trivial, fun _ => hx⟩
      | error e => exact ⟨trivial, fun _ => hx⟩
    · exact hrefused _

end Protocols

end TrinoManagement.Guard
