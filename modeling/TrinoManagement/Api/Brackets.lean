/-
What a guarded program leaves behind: its effects in order, and whether each write among them is between the question to the
audit store and the record of it.

`AuditGuard.action` asks whether the store is writable, lets the body run, and records how it ended.
- `Seen`: an effect as the guard sees it. `Does`: programs that ask nothing of the audit store, with all that they do.
- `Guarded`: what `audited` adds to a trace (`adds_audited`).
- `Bracketed`: the traces that keep every write between a question and a record.
- `Accounted`: programs all of whose traces are so, and whose records are of a success if they return. Its rules follow the
  program: `accounted_bind`, `accounted_audited`.
- `embed`: the program of a client as a part of a service.
- `traced_log`: with a store that takes every record, the log grows by the records of the trace.
-/
import Mathlib.Tactic
import TrinoManagement.Api.Guard
import TrinoManagement.Core.Trace

namespace TrinoManagement.Guard

open TrinoManagement.Audit
open TrinoManagement.Drafts (AuditEntry)
open TrinoManagement.Prog (perform)
open TrinoManagement.Service (Exn)
open TrinoManagement.Trace (Adds adds_bind adds_mono adds_perform adds_pure adds_throw adds_tryCatch along_trace
  traced)

variable {E : Type} {R : E → Type} {α β : Type}

/-! ## Traces -/

/-- an effect, with what its answer means to the guard -/
inductive Seen (E : Type) where
  | asked (writable : Bool)
  | recorded (entry : AuditEntry)
  | did (e : E)

def seen : (a : Act E) → Answer R a → Seen E
  | .writable, writable => .asked writable
  | .write entry, _ => .recorded entry
  | .op e, _ => .did e

def recordsIn (trace : List (Seen E)) : List AuditEntry := trace.filterMap fun
  | .recorded entry => some entry
  | _ => none

/-- the effects of the service -/
def doneIn (trace : List (Seen E)) : List E := trace.filterMap fun
  | .did e => some e
  | _ => none

theorem recordsIn_append (t t' : List (Seen E)) : recordsIn (t ++ t') = recordsIn t ++ recordsIn t' := List.filterMap_append

theorem recordsIn_did (es : List E) : recordsIn (es.map .did) = [] := by
  rw [recordsIn, List.filterMap_map]
  exact List.filterMap_eq_nil_iff.2 fun _ _ => rfl

theorem doneIn_append (t t' : List (Seen E)) : doneIn (t ++ t') = doneIn t ++ doneIn t' := List.filterMap_append

theorem doneIn_did (es : List E) : doneIn (es.map .did) = es := by
  rw [doneIn, List.filterMap_map]
  exact List.filterMap_some

/-- with a store that takes every record, the log of a run is what it was and the records of the trace -/
theorem traced_log {O S : Type} [Inhabited O] {H : O → (e : E) → S → R e × S} {os : List (Oracle O)} {p : M E R α}
    {site : Site S} (hd : (default : Oracle O).writable = true) (hos : ∀ o ∈ os, o.writable = true) :
    (traced seen (handle H) os p site).2.1.log = site.log ++ recordsIn (traced seen (handle H) os p site).2.2 := by
  refine along_trace (A := fun o : Oracle O => o.writable = true)
    (J := fun (s : Site S) t => s.log = site.log ++ recordsIn t) ?_ hd hos
    (List.append_nil _).symm
  intro o a s t ho hs
  rw [recordsIn_append, ← List.append_assoc, ← hs]
  cases a with
  | writable => exact (List.append_nil _).symm
  | op e => exact (List.append_nil _).symm
  | write entry =>
    simp only [handle, ho, if_true]
    rfl

/-- a check that passes comes to nothing; else it ends the program -/
theorem adds_check {o : Option Exn} {p : M E R α} {Q : Except Exn α → List (Seen E) → Prop} (hnone : o = none → Adds seen p Q)
    (hsome : ∀ e, o = some e → Q (.error e) []) : Adds seen (do refuse o; p) Q := by
  cases o with
  | none => exact hnone rfl
  | some e => exact hsome e rfl

/-! ## Programs that leave the audit store alone -/

/-- all that a program does is done by the service, and is as `Q` says -/
abbrev Does (p : M E R α) (Q : Except Exn α → List E → Prop) : Prop := Adds seen p fun x t => ∃ es, t = es.map .did ∧ Q x es

/-- the program asks nothing of the audit store, and records nothing -/
abbrev Plain (p : M E R α) : Prop := Does p fun _ _ => True

/-- a client's program, as a part of a service whose effects are the client's -/
def embed {ε : Type} (exn : ε → Exn) : Prog E R ε α → M E R α
  | .ret a => .ret a
  | .raise e => .raise (exn e)
  | .act e k => .act (.op e) fun r => embed exn (k r)

section Plain

variable {p : M E R α} {f : α → M E R β}

theorem plain_pure {a : α} : Plain (pure a : M E R α) := adds_pure ⟨[], rfl, trivial⟩

theorem plain_throw {e : Exn} : Plain (throw e : M E R α) := adds_throw ⟨[], rfl, trivial⟩

theorem plain_op (e : E) : Plain (op e : M E R (R e)) := adds_perform fun _ => ⟨[e], rfl, trivial⟩

theorem plain_bind (hp : Plain p) (hf : ∀ a, Plain (f a)) : Plain (p >>= f) := by
  refine adds_bind _ hp (fun _ _ h => h) ?_
  rintro a t ⟨es, rfl, -⟩
  refine adds_mono (hf a) ?_
  rintro x t ⟨es', rfl, -⟩
  exact ⟨es ++ es', (List.map_append ..).symm, trivial⟩

theorem plain_lift {ε : Type} {exn : ε → Exn} {r : Except ε α} : Plain (lift exn r : M E R α) := by
  cases r with
  | ok a => exact plain_pure
  | error e => exact plain_throw

theorem plain_refuse {o : Option Exn} : Plain (refuse o : M E R Unit) := by
  cases o with
  | none => exact plain_pure
  | some e => exact plain_throw

/-- what a client does, the service does -/
theorem does_embed {ε : Type} {exn : ε → Exn} {p : Prog E R ε α} {Q : Except ε α → List E → Prop}
    (h : Adds (fun e _ => e) p Q) : Does (embed exn p) fun x es => ∃ y : Except ε α, x = y.mapError exn ∧ Q y es := by
  induction p generalizing Q with
  | ret a => exact ⟨[], rfl, .ok a, rfl, h⟩
  | raise e => exact ⟨[], rfl, .error e, rfl, h⟩
  | act e k ih =>
    intro r
    refine adds_mono (ih r (h r)) ?_
    rintro x t ⟨es, rfl, y, hx, hQ⟩
    exact ⟨e :: es, rfl, y, hx, hQ⟩

end Plain

/-! ## The guard -/

/-- what a guarded program adds: nothing without a reason or a store, else its body between the question and the record -/
inductive Guarded (principal : Principal) (target : Target) (reason : Option String) (Q : Except Exn α → List E → Prop) :
    Except Exn α → List (Seen E) → Prop
  | unreasoned (hreason : normaliseReason (reason.getD "") = none) :
    Guarded principal target reason Q (.error (.reasonRequired reasonRequiredMessage)) []
  | down : Guarded principal target reason Q (.error (auditDown target)) [.asked false]
  | done {clean : String} {a : α} {es : List E} (hclean : normaliseReason (reason.getD "") = some clean) (h : Q (.ok a) es) :
    Guarded principal target reason Q (.ok a)
      (.asked true :: (es.map .did ++ [.recorded (entryOf principal target clean .success none)]))
  | failed {clean : String} {e : Exn} {es : List E} (hclean : normaliseReason (reason.getD "") = some clean)
    (h : Q (.error e) es) : Guarded principal target reason Q (.error e) (.asked true :: (es.map .did ++
      [.recorded (entryOf principal target clean .failure (some (e.className ++ ": " ++ e.text)))]))

theorem adds_record {entry : AuditEntry} :
    Adds seen (perform (Act.write entry) : M E R Unit) fun x t => x = .ok () ∧ t = [.recorded entry] :=
  adds_perform fun _ => ⟨rfl, rfl⟩

/-- **The guard**: its body does what it does between the question and the record. -/
theorem adds_audited {principal : Principal} {target : Target} {reason : Option String} {p : M E R α}
    {Q : Except Exn α → List E → Prop} (hp : Does p Q) :
    Adds seen (audited principal target reason p) (Guarded principal target reason Q) := by
  unfold audited
  cases hclean : normaliseReason (reason.getD "") with
  | none => exact adds_throw (.unreasoned hclean)
  | some clean =>
    intro writable
    change Adds seen (if writable = true then _ else _) _
    split_ifs with hwritable
    · subst hwritable
      refine adds_bind (fun x t => ∃ es : List E, Q x es ∧ (∀ a, x = .ok a → t = es.map .did) ∧ ∀ e, x = .error e →
        t = es.map .did ++ [.recorded (entryOf principal target clean .failure (some (e.className ++ ": " ++ e.text)))])
        ?_ ?_ ?_
      · refine adds_tryCatch _ hp ?_ ?_
        · rintro a t ⟨es, rfl, hQ⟩
          exact ⟨es, hQ, fun _ _ => rfl, nofun⟩
        · rintro e t ⟨es, rfl, hQ⟩
          refine adds_bind _ adds_record (fun _ _ h => by cases h.1) ?_
          rintro u t ⟨-, rfl⟩
          refine adds_throw ⟨es, hQ, nofun, ?_⟩
          rintro e' h
          obtain rfl := Except.error.inj h
          rw [List.append_nil]
      · rintro e t ⟨es, hQ, -, h⟩
        rw [h e rfl]
        exact .failed hclean hQ
      · rintro a t ⟨es, hQ, h, -⟩
        rw [h a rfl]
        refine adds_bind _ adds_record (fun _ _ h => by cases h.1) ?_
        rintro u t ⟨-, rfl⟩
        refine adds_pure ?_
        rw [List.append_nil]
        exact .done hclean hQ
    · rw [Bool.not_eq_true] at hwritable
      subst hwritable
      exact adds_throw .down

/-! ## Brackets -/

/-- what the writes of a program are accounted to -/
structure Terms (E : Type) where
  writes : E → Bool
  principal : Principal
  reason : Option String
  about : Target → Prop

/-- the record names the caller, the reason that was given, and what was done to what -/
structure Names (T : Terms E) (entry : AuditEntry) : Prop where
  actor : entry.actor = T.principal.username
  roles : entry.roles = T.principal.roles
  reason : normaliseReason (T.reason.getD "") = some entry.reason
  target : T.about ⟨entry.actionType, entry.targetKind, entry.targetId, entry.targetCluster⟩

/-- every write is done after the audit store said that it is writable, and before the record of it -/
inductive Bracketed (T : Terms E) : List (Seen E) → Prop
  | nil : Bracketed T []
  | read {e : E} {rest : List (Seen E)} (he : T.writes e = false) (h : Bracketed T rest) : Bracketed T (.did e :: rest)
  /-- the record of a refusal, of something that was not done -/
  | refusal {entry : AuditEntry} {rest : List (Seen E)} (hactor : entry.actor = T.principal.username)
      (hfailure : entry.outcome = .failure) (h : Bracketed T rest) : Bracketed T (.recorded entry :: rest)
  | down {rest : List (Seen E)} (h : Bracketed T rest) : Bracketed T (.asked false :: rest)
  | action {es : List E} {entry : AuditEntry} {rest : List (Seen E)} (hentry : Names T entry) (h : Bracketed T rest) :
    Bracketed T (.asked true :: (es.map .did ++ .recorded entry :: rest))

variable {T : Terms E}

theorem Bracketed.append {t t' : List (Seen E)} (h : Bracketed T t) (h' : Bracketed T t') : Bracketed T (t ++ t') := by
  induction h with
  | nil => exact h'
  | read he _ ih => exact .read he ih
  | refusal hactor hfailure _ ih => exact .refusal hactor hfailure ih
  | down _ ih => exact .down ih
  | action hentry _ ih =>
    rw [List.cons_append, List.append_assoc, List.cons_append]
    exact .action hentry ih

/-- nothing is on record as a failure -/
def Clean (trace : List (Seen E)) : Prop := ∀ entry ∈ recordsIn trace, entry.outcome = .success

theorem clean_nil : Clean ([] : List (Seen E)) := fun _ h => by cases h

theorem Clean.append {t t' : List (Seen E)} (h : Clean t) (h' : Clean t') : Clean (t ++ t') := by
  intro entry hentry
  rw [recordsIn_append] at hentry
  rcases List.mem_append.1 hentry with hentry | hentry
  · exact h entry hentry
  · exact h' entry hentry

theorem clean_action {es : List E} {entry : AuditEntry} (h : entry.outcome = .success) :
    Clean (.asked true :: (es.map .did ++ [.recorded entry])) := by
  intro entry' hentry'
  change entry' ∈ recordsIn (es.map .did ++ [.recorded entry]) at hentry'
  rw [recordsIn_append, recordsIn_did] at hentry'
  obtain rfl := List.mem_singleton.1 hentry'
  exact h

/-! ## Accounted programs -/

/-- every trace is bracketed, and a program that returns records no failure -/
def Kept (T : Terms E) (x : Except Exn α) (t : List (Seen E)) : Prop := Bracketed T t ∧ ∀ a, x = .ok a → Clean t

def Accounted (T : Terms E) (p : M E R α) : Prop := Adds seen p (Kept T)

section Accounted

variable {p : M E R α} {f : α → M E R β}

theorem accounted_pure {a : α} : Accounted T (pure a : M E R α) := adds_pure ⟨.nil, fun _ _ => clean_nil⟩

theorem accounted_throw {e : Exn} : Accounted T (throw e : M E R α) := adds_throw ⟨.nil, nofun⟩

theorem accounted_read {e : E} (he : T.writes e = false) : Accounted T (op e : M E R (R e)) :=
  adds_perform fun _ => ⟨.read he .nil, fun _ _ _ h => by cases h⟩

theorem accounted_lift {ε : Type} {exn : ε → Exn} {r : Except ε α} : Accounted T (lift exn r : M E R α) := by
  cases r with
  | ok a => exact accounted_pure
  | error e => exact accounted_throw

theorem accounted_refuse {o : Option Exn} : Accounted T (refuse o : M E R Unit) := by
  cases o with
  | none => exact accounted_pure
  | some e => exact accounted_throw

theorem accounted_bind (hp : Accounted T p) (hf : ∀ a, Accounted T (f a)) : Accounted T (p >>= f) := by
  refine adds_bind _ hp (fun _ _ h => ⟨h.1, nofun⟩) ?_
  intro a t ht
  refine adds_mono (hf a) ?_
  intro x t' ht'
  exact ⟨ht.1.append ht'.1, fun b hb => (ht.2 a rfl).append (ht'.2 b hb)⟩

/-- an exception raised as another one -/
theorem accounted_rethrow {g : Exn → Exn} (hp : Accounted T p) : Accounted T (tryCatch p fun e => throw (g e)) := by
  refine adds_tryCatch _ hp (fun _ _ h => h) ?_
  intro e t ht
  refine adds_throw ?_
  rw [List.append_nil]
  exact ⟨ht.1, nofun⟩

/-- the record of a refusal, and the refusal -/
theorem accounted_refusal {target : Target} {message : String} {e : Exn} :
    Accounted T (do recordRefusal T.principal target T.reason message; throw e : M E R α) :=
  fun _ => adds_throw ⟨.refusal rfl rfl .nil, nofun⟩

/-- **A guarded program is accounted for.** -/
theorem accounted_audited {target : Target} (htarget : T.about target) (hp : Plain p) :
    Accounted T (audited T.principal target T.reason p) := by
  refine adds_mono (adds_audited hp) ?_
  rintro x t h
  cases h with
  | unreasoned => exact ⟨.nil, nofun⟩
  | down => exact ⟨.down .nil, nofun⟩
  | done hclean => exact ⟨.action ⟨rfl, rfl, hclean, htarget⟩ .nil, fun _ _ => clean_action rfl⟩
  | failed hclean => exact ⟨.action ⟨rfl, rfl, hclean, htarget⟩ .nil, nofun⟩

end Accounted

end TrinoManagement.Guard
