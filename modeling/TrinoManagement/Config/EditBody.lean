/-
A change as the body of a request has it: JSON entries, and a title and a role that may be missing. `validate` of
`tms/ops/configedit.py` reads them through `or` and `str` before it looks at anything.

- `Printing`: Python's `str` of a JSON value, of which nothing is used but that text is its own text.
- `readEntry`, `validateBody`: what is read, and the validation of it.
- `validateBody_idem`: what `validate` returns is accepted as it is, and returned.
-/
import Mathlib.Tactic
import TrinoManagement.Config.Edit
import TrinoManagement.Core.Value

namespace TrinoManagement.ConfigEdit

open TrinoManagement.Secrets TrinoManagement.Text

/-- Python's `str` of a JSON value: of text the text, and of what is not falsy never the empty text -/
structure Printing where
  str : Value → String
  text : ∀ s, str (.str s) = s
  nonempty : ∀ v : Value, v.truthy = true → str v ≠ ""

/-- text as it is, and of anything else the name of its type -/
def Printing.plain : Printing where
  str
    | .str s => s
    | v => v.typeName
  text _ := rfl
  nonempty v h := by cases v <;> simp_all [Value.truthy, Value.typeName]

/-- one edit, a dict -/
abbrev BodyEntry := List (String × Value)

def bodyGet (entry : BodyEntry) (key : String) : Value := (Value.dict entry).get key

section Body

variable (py : Letters) (print : Printing)

/-- `v or ...` printed; `none` is what stands after the `or` -/
def printed (v : Value) : Option String := if v.truthy then some (print.str v) else none

/-- `str(entry.get("key") or "")`, `str(entry.get("action") or SET)`, and `""` for the value `None` alone -/
def readEntry (entry : BodyEntry) : RawEntry where
  key := printed print (bodyGet entry "key")
  action := printed print (bodyGet entry "action")
  value := if bodyGet entry "value" = .none then none else some (print.str (bodyGet entry "value"))

/-- `validate`, where `none` is a title or a role that is not there. Of what is neither that nor text nothing is accepted:
it raises or reads as the empty text. An entry that is no dict raises. -/
def validateBody (title targetRole : Option String) (entries : List BodyEntry) : Except String Fields :=
  validate py (title.getD "") (targetRole.getD "") (entries.map (readEntry print))

/-- an edit of what `validate` returns -/
def Entry.body (e : Entry) : BodyEntry :=
  [("key", .str e.key), ("action", .str e.action.name), ("value", (e.value.map Value.str).getD .none)]

variable {py} {print}

/-- an edit that has a name is read back as it was -/
theorem readEntry_body {e : Entry} (h : e.key ≠ "") : readEntry print e.body = e.raw := by
  have hkey : printed print (.str e.key) = some e.key := by
    rw [printed, if_pos (by simpa [Value.truthy] using h), print.text]
  have haction : printed print (.str e.action.name) = some e.action.name := by
    rw [printed, if_pos (by cases e.action <;> rfl), print.text]
  have hvalue : (if (e.value.map Value.str).getD .none = .none then none
      else some (print.str ((e.value.map Value.str).getD .none))) = e.value := by
    cases e.value with
    | none => rfl
    | some value => simp [print.text]
  calc readEntry print e.body
      = ⟨printed print (.str e.key), printed print (.str e.action.name),
          if (e.value.map Value.str).getD .none = .none then none
          else some (print.str ((e.value.map Value.str).getD .none))⟩ := rfl
    _ = e.raw := by rw [hkey, haction, hvalue, Entry.raw]

theorem key_ne_nil {e : Entry} (h : e.Clean) : e.key ≠ "" := by
  intro hnil
  have hname := h.name
  rw [hnil] at hname
  exact absurd hname (by decide)

/-- what is clean is accepted from a body, and returned -/
theorem validateBody_clean {fields : Fields} (h : fields.Clean) :
    validateBody py print (some fields.title) (some fields.targetRole.name) (fields.entries.map Entry.body) = .ok fields := by
  have hentries : (fields.entries.map Entry.body).map (readEntry print) = fields.entries.map Entry.raw := by
    rw [List.map_map]
    exact List.map_congr_left fun e he => readEntry_body (key_ne_nil (h.entries e he))
  rw [validateBody, hentries]
  exact validate_idem h

/-- **Validation is idempotent**, whatever JSON a body holds. -/
theorem validateBody_idem {title targetRole : Option String} {entries : List BodyEntry} {fields : Fields}
    (h : validateBody py print title targetRole entries = .ok fields) :
    validateBody py print (some fields.title) (some fields.targetRole.name) (fields.entries.map Entry.body) = .ok fields :=
  validateBody_clean (validate_ok h)

end Body

end TrinoManagement.ConfigEdit
