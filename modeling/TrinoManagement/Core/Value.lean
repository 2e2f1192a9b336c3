/-
JSON values as the program holds them after `json.loads`, with the few Python reads it makes of them.

A missing key and a JSON null both read as Python's `None` (`Value.none`). A float is an exact rational.
-/
import Mathlib.Tactic

namespace TrinoManagement

inductive Value where
  | none
  | bool (b : Bool)
  | int (n : ℤ)
  | float (q : ℚ)
  | str (s : String)
  | list (items : List Value)
  | dict (fields : List (String × Value))

namespace Value

mutual

/-- equality of values, decided structurally -/
protected def decEq : (v w : Value) → Decidable (v = w)
  | .none, w => by cases w <;> first | exact isTrue rfl | exact isFalse (by simp)
  | .bool b, w =>
    match w with
    | .bool b' => decidable_of_iff (b = b') (by simp)
    | .none | .int _ | .float _ | .str _ | .list _ | .dict _ => isFalse (by simp)
  | .int n, w =>
    match w with
    | .int n' => decidable_of_iff (n = n') (by simp)
    | .none | .bool _ | .float _ | .str _ | .list _ | .dict _ => isFalse (by simp)
  | .float q, w =>
    match w with
    | .float q' => decidable_of_iff (q = q') (by simp)
    | .none | .bool _ | .int _ | .str _ | .list _ | .dict _ => isFalse (by simp)
  | .str s, w =>
    match w with
    | .str s' => decidable_of_iff (s = s') (by simp)
    | .none | .bool _ | .int _ | .float _ | .list _ | .dict _ => isFalse (by simp)
  | .list l, w =>
    match w with
    | .list l' => match Value.decEqList l l' with
      | isTrue h => isTrue (by rw [h])
      | isFalse h => isFalse (by simpa using h)
    | .none | .bool _ | .int _ | .float _ | .str _ | .dict _ => isFalse (by simp)
  | .dict l, w =>
    match w with
    | .dict l' => match Value.decEqFields l l' with
      | isTrue h => isTrue (by rw [h])
      | isFalse h => isFalse (by simpa using h)
    | .none | .bool _ | .int _ | .float _ | .str _ | .list _ => isFalse (by simp)

protected def decEqList : (l l' : List Value) → Decidable (l = l')
  | [], [] => isTrue rfl
  | [], _ :: _ => isFalse (by simp)
  | _ :: _, [] => isFalse (by simp)
  | v :: l, v' :: l' =>
    match Value.decEq v v', Value.decEqList l l' with
    | isTrue h, isTrue h' => isTrue (by rw [h, h'])
    | isFalse h, _ => isFalse (by simp [h])
    | _, isFalse h => isFalse (by simp [h])

protected def decEqFields : (l l' : List (String × Value)) → Decidable (l = l')
  | [], [] => isTrue rfl
  | [], _ :: _ => isFalse (by simp)
  | _ :: _, [] => isFalse (by simp)
  | (key, v) :: l, (key', v') :: l' =>
    match decEq key key', Value.decEq v v', Value.decEqFields l l' with
    | isTrue h, isTrue h', isTrue h'' => isTrue (by rw [h, h', h''])
    | isFalse h, _, _ => isFalse (by simp [h])
    | _, isFalse h, _ => isFalse (by simp [h])
    | _, _, isFalse h => isFalse (by simp [h])

end

instance : DecidableEq Value := Value.decEq

/-- `isinstance(v, dict)` -/
def isDict : Value → Bool
  | .dict _ => true
  | _ => false

/-- `key in v` for a dict -/
def has (key : String) : Value → Bool
  | .dict fields => fields.any fun f => f.1 == key
  | _ => false

/-- `v.get(key)`, and `None` for anything but a dict -/
def get (v : Value) (key : String) : Value :=
  match v with
  | .dict fields => (fields.lookup key).getD .none
  | _ => .none

/-- `_get(mapping, *path)` of the collector -/
def getPath (v : Value) (path : List String) : Value := path.foldl get v

/-- `bool(v)` -/
def truthy : Value → Bool
  | .none => false
  | .bool b => b
  | .int n => n != 0
  | .float q => q != 0
  | .str s => s != ""
  | .list items => !items.isEmpty
  | .dict fields => !fields.isEmpty

/-- a number that is not a bool -/
def number : Value → Option ℚ
  | .int n => some n
  | .float q => some q
  | _ => Option.none

/-- `isinstance(v, (int, float))` alone: a bool is an int in Python -/
def numeric : Value → Option ℚ
  | .bool b => some (if b then 1 else 0)
  | v => v.number

end Value

/-- an exception that nothing on the way catches -/
structure PyError where
  className : String
  message : String
deriving DecidableEq, Repr

namespace Value

/-- `type(v).__name__` -/
def typeName : Value → String
  | .none => "NoneType"
  | .bool _ => "bool"
  | .int _ => "int"
  | .float _ => "float"
  | .str _ => "str"
  | .list _ => "list"
  | .dict _ => "dict"

/-- `v.get(key)`, which only a dict has -/
def callGet (v : Value) (key : String) : Except PyError Value :=
  match v with
  | .dict _ => .ok (v.get key)
  | _ => .error ⟨"AttributeError", "'" ++ v.typeName ++ "' object has no attribute 'get'"⟩

/-- `v or {}` -/
def orEmptyDict (v : Value) : Value := if v.truthy then v else .dict []

end Value

/-- `int(x)`: truncation toward zero -/
def truncate (q : ℚ) : ℤ := if 0 ≤ q then q.floor else q.ceil

@[simp] theorem truncate_intCast (n : ℤ) : truncate n = n := by
  unfold truncate
  split_ifs <;> simp [Rat.ceil_intCast]

/-- a number truncates to zero only below one in size -/
theorem truncate_ne_zero {q : ℚ} : truncate q ≠ 0 ↔ 1 ≤ |q| := by
  unfold truncate
  split_ifs with h
  · have hfloor : 0 ≤ q.floor := Rat.le_floor_iff.2 (by simpa using h)
    have hone : 1 ≤ q.floor ↔ 1 ≤ q := by simpa using @Rat.le_floor_iff 1 q
    rw [abs_of_nonneg h, ← hone]
    omega
  · have hneg : q < 0 := not_le.1 h
    have hceil : q.ceil ≤ 0 := Rat.ceil_le_iff.2 (by simpa using hneg.le)
    have hone : q.ceil ≤ -1 ↔ q ≤ -1 := by simpa using @Rat.ceil_le_iff q (-1)
    rw [abs_of_neg hneg, le_neg, ← hone]
    omega

/-- a computation that returns did so through its first part -/
theorem bind_eq_ok {ε α β : Type} {x : Except ε α} {f : α → Except ε β} {b : β} :
    (x >>= f) = .ok b ↔ ∃ a, x = .ok a ∧ f a = .ok b := by
  cases x with
  | error e => simp [bind, Except.bind]
  | ok a => simp [bind, Except.bind]

theorem map_eq_ok {ε α β : Type} {x : Except ε α} {f : α → β} {y : β} : x.map f = .ok y ↔ ∃ a, x = .ok a ∧ f a = y := by
  cases x <;> simp [Except.map]

/-- what a loop that may raise makes of a list: something of each element, and nothing else -/
theorem mapM_elements {α β ε : Type} {f : α → Except ε β} {l : List α} {l' : List β} (h : l.mapM f = .ok l') :
    (∀ x ∈ l, ∃ y ∈ l', f x = .ok y) ∧ ∀ y ∈ l', ∃ x ∈ l, f x = .ok y := by
  induction l generalizing l' with
  | nil =>
    obtain rfl := Except.ok.inj h
    exact ⟨fun x hx => absurd hx List.not_mem_nil, fun y hy => absurd hy List.not_mem_nil⟩
  | cons x rest ih =>
    rw [List.mapM_cons] at h
    obtain ⟨y, hy, h⟩ := bind_eq_ok.1 h
    obtain ⟨ys, hys, h⟩ := bind_eq_ok.1 h
    obtain rfl := Except.ok.inj h
    obtain ⟨hall, honly⟩ := ih hys
    simp only [List.forall_mem_cons, List.exists_mem_cons_iff]
    exact ⟨⟨.inl hy, fun x' hx' => .inr (hall x' hx')⟩, .inl hy, fun y' hy' => .inr (honly y' hy')⟩

/-- a list is gone through exactly if every element is -/
theorem mapM_returns {ε α β : Type} (f : α → Except ε β) (l : List α) :
    (∃ ys, l.mapM f = .ok ys) ↔ ∀ x ∈ l, ∃ y, f x = .ok y := by
  induction l with
  | nil => simp [pure, Except.pure]
  | cons x l ih =>
    rw [List.forall_mem_cons, ← ih]
    constructor
    · rintro ⟨ys, h⟩
      rw [List.mapM_cons] at h
      obtain ⟨y, hy, h⟩ := bind_eq_ok.1 h
      obtain ⟨rest, hrest, -⟩ := bind_eq_ok.1 h
      exact ⟨⟨y, hy⟩, ⟨rest, hrest⟩⟩
    · rintro ⟨⟨y, hy⟩, ⟨rest, hrest⟩⟩
      refine ⟨y :: rest, ?_⟩
      rw [List.mapM_cons]
      exact bind_eq_ok.2 ⟨y, hy, bind_eq_ok.2 ⟨rest, hrest, rfl⟩⟩

/-- and is mapped if every element is -/
theorem mapM_eq_ok {ε α β : Type} {f : α → Except ε β} {g : α → β} {l : List α} (h : ∀ x ∈ l, f x = .ok (g x)) :
    l.mapM f = .ok (l.map g) := by
  induction l with
  | nil => rfl
  | cons x l ih =>
    obtain ⟨hx, hl⟩ := List.forall_mem_cons.1 h
    rw [List.mapM_cons, hx, List.map_cons]
    exact bind_eq_ok.2 ⟨g x, rfl, bind_eq_ok.2 ⟨l.map g, ih hl, rfl⟩⟩

end TrinoManagement
