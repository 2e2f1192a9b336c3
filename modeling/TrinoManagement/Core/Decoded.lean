/-
What Python's `json.loads` makes of any text that it reads: numbers may be NaN or infinite, and a text may have half of a
surrogate pair by itself. `Value` is the part without those.

An exception that nothing catches is known by its class here.
-/
import Mathlib.Tactic
import TrinoManagement.Core.Number

namespace TrinoManagement

inductive Uncaught where
  | typeError | attributeError | valueError | overflowError | unicodeEncodeError | recursionError
deriving DecidableEq, Repr

/-! ## Texts and floats -/

/-- a character, or half of a surrogate pair -/
inductive CodePoint where
  | char (c : Char)
  | surrogate (unit : Fin 2048)
deriving DecidableEq, Repr

def CodePoint.toChar : CodePoint → Option Char
  | .char c => some c
  | .surrogate _ => none

abbrev PyText := List CodePoint

namespace PyText

def ofString (s : String) : PyText := s.toList.map CodePoint.char

theorem ofString_injective : Function.Injective ofString := by
  intro s s' h
  have hchars : s.toList = s'.toList := List.map_injective_iff.2 (fun _ _ h => CodePoint.char.inj h) h
  rw [← String.ofList_toList (s := s), hchars, String.ofList_toList]

/-- the text as UTF-8 can have it, if it can -/
def plain (t : PyText) : Option String := (t.mapM CodePoint.toChar).map String.ofList

/-- the text with U+FFFD for what UTF-8 cannot have -/
def shown (t : PyText) : String := String.ofList (t.map fun c => c.toChar.getD '\uFFFD')

end PyText

inductive PyFloat where
  | nan
  | infinity (negative : Bool)
  | finite (q : ℚ)
deriving DecidableEq

/-- `x >= y` -/
def PyFloat.ge : PyFloat → PyFloat → Bool
  | .nan, _ | _, .nan => false
  | .infinity false, _ => true
  | .infinity true, y => decide (y = .infinity true)
  | .finite _, .infinity negative => negative
  | .finite q, .finite q' => decide (q' ≤ q)

/-- `int(x)` -/
def PyFloat.toInt : PyFloat → Except Uncaught ℤ
  | .nan => .error .valueError
  | .infinity _ => .error .overflowError
  | .finite q => .ok (truncate q)

/-! ## What does not raise -/

/-- it returns -/
def Ok {α : Type} (x : Except Uncaught α) : Prop := ∃ a, x = .ok a

section Ok

variable {α β : Type} {P Q : Prop}

theorem ok_pure (a : α) : Ok (pure a) ↔ True := iff_true_intro ⟨a, rfl⟩

theorem then_eq {a : α} {f : α → Except Uncaught β} : (Except.ok a >>= f) = f a := rfl

theorem ok_error {e : Uncaught} {f : α → Except Uncaught β} : Ok (.error e >>= f) ↔ False := by
  refine iff_false_intro ?_
  rintro ⟨b, hb⟩
  cases hb

theorem ok_map {x : Except Uncaught α} {f : α → β} : Ok (x.map f) ↔ Ok x := by
  cases x <;> simp [Ok, Except.map]

/-- one step and those after it, if these go well whatever the first returns -/
theorem ok_bind {x : Except Uncaught α} {f : α → Except Uncaught β} (hx : Ok x ↔ P) (hf : ∀ a, Ok (f a) ↔ Q) :
    Ok (x >>= f) ↔ P ∧ Q := by
  cases x with
  | error e =>
    have hnot : ¬ P := fun hp => by
      obtain ⟨a, ha⟩ := hx.2 hp
      cases ha
    constructor
    · rintro ⟨b, hb⟩
      cases hb
    · exact fun h => absurd h.1 hnot
  | ok a =>
    have hp : P := hx.1 ⟨a, rfl⟩
    constructor
    · exact fun h => ⟨hp, (hf a).1 h⟩
    · exact fun h => (hf a).2 h.2

/-- every item goes well -/
theorem ok_mapM {f : α → Except Uncaught β} {R : α → Prop} (hf : ∀ a, Ok (f a) ↔ R a) (l : List α) :
    Ok (l.mapM f) ↔ ∀ a ∈ l, R a := (mapM_returns f l).trans (forall₂_congr fun a _ => hf a)

theorem ok_toInt {x : PyFloat} : Ok x.toInt ↔ ∃ q, x = .finite q := by
  cases x <;> simp [Ok, PyFloat.toInt]

end Ok

/-! ## Values -/

inductive Json where
  | null
  | bool (b : Bool)
  | int (n : ℤ)
  | float (x : PyFloat)
  | str (s : PyText)
  | list (items : List Json)
  | dict (fields : List (PyText × Json))

namespace Json

def isDict : Json → Bool
  | .dict _ => true
  | _ => false

/-- `bool(v)` -/
def truthy : Json → Bool
  | .null => false
  | .bool b => b
  | .int n => n != 0
  | .float x => decide (x ≠ .finite 0)
  | .str s => !s.isEmpty
  | .list items => !items.isEmpty
  | .dict fields => !fields.isEmpty

/-- `v.get(key)`, and `None` for anything but a dict -/
def get (v : Json) (key : String) : Json :=
  match v with
  | .dict fields => (fields.lookup (PyText.ofString key)).getD .null
  | _ => .null

/-- `v.get(key)`, which only a dict has -/
def callGet (v : Json) (key : String) : Except Uncaught Json :=
  match v with
  | .dict _ => .ok (v.get key)
  | _ => .error .attributeError

/-- `v or {}` -/
def orEmptyDict (v : Json) : Json := if v.truthy then v else .dict []

/-- the items of `for x in v or []`: of a text its characters, of a dict its keys -/
def items (v : Json) : Except Uncaught (List Json) :=
  if v.truthy = false then .ok []
  else
    match v with
    | .list items => .ok items
    | .dict fields => .ok (fields.map fun f => .str f.1)
    | .str s => .ok (s.map fun c => .str [c])
    | _ => .error .typeError

/-- neither a number nor `True` -/
def Iterable : Json → Prop
  | .bool b => b = false
  | .int n => n = 0
  | .float x => x = .finite 0
  | _ => True

/-- no integer too large for a float -/
def FitsFloat : Json → Prop
  | .int n => overflows n = false
  | _ => True

/-- neither NaN nor infinite -/
def Finite : Json → Prop
  | .float x => ∃ q, x = .finite q
  | _ => True

/-- a dict, or nothing -/
def DictOrNothing (v : Json) : Prop := v.truthy = false ∨ v.isDict = true

theorem items_ok {v : Json} : (∃ l, v.items = .ok l) ↔ v.Iterable := by
  unfold items
  cases v with
  | null => simp [truthy, Iterable]
  | bool b => cases b <;> simp [truthy, Iterable]
  | int n => by_cases h : n = 0 <;> simp [truthy, Iterable, h]
  | float x => by_cases h : x = .finite 0 <;> simp [truthy, Iterable, h]
  | str s => by_cases h : s = [] <;> simp [truthy, Iterable, h]
  | list l => by_cases h : l = [] <;> simp [truthy, Iterable, h]
  | dict fields => by_cases h : fields = [] <;> simp [truthy, Iterable, h]

theorem items_list (items : List Json) : (Json.list items).items = .ok items := by
  cases items <;> rfl

/-- only a list has dicts among its items -/
theorem isDict_of_items {v : Json} {l : List Json} (hlist : ∀ items, v ≠ .list items) (h : v.items = .ok l) :
    ∀ item ∈ l, item.isDict = false := by
  unfold items at h
  split_ifs at h
  · cases h
    simp
  · cases v with
    | list items => exact absurd rfl (hlist items)
    | dict fields =>
      cases h
      intro item hitem
      obtain ⟨f, -, rfl⟩ := List.mem_map.1 hitem
      rfl
    | str s =>
      cases h
      intro item hitem
      obtain ⟨c, -, rfl⟩ := List.mem_map.1 hitem
      rfl
    | _ => cases h

theorem get_eq_null {v : Json} (h : v.isDict = false) (key : String) : v.get key = .null := by
  cases v with
  | dict fields => cases h
  | _ => rfl

theorem callGet_ok {v : Json} (h : v.DictOrNothing) (key : String) : v.orEmptyDict.callGet key = .ok (v.get key) := by
  unfold orEmptyDict
  cases v with
  | dict fields =>
    by_cases hempty : fields = []
    · subst hempty
      rfl
    · simp [truthy, hempty, callGet]
  | _ =>
    have hfalse := h.resolve_right (by simp [isDict])
    rw [if_neg (by simp [hfalse])]
    rfl

theorem callGet_error {v : Json} (h : ¬ v.DictOrNothing) (key : String) : v.orEmptyDict.callGet key = .error .attributeError := by
  obtain ⟨htrue, hdict⟩ := not_or.1 h
  rw [orEmptyDict, if_pos (by simpa using htrue)]
  cases v with
  | dict fields => simp [isDict] at hdict
  | _ => rfl

end Json

end TrinoManagement
