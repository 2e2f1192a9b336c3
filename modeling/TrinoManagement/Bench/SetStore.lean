/-
Query sets as they are stored, `tms/bench/setstore.py`: in memory, and in Postgres under a unique index on the names of a
set.

- `InMemory.saveQuery`, `Postgres.saveQuery`: insert, replace and rename in one operation keyed on the original name.
- `replace_eq`: in memory it replaces the one query the table would update.
- `savedQueries_saved`: what a save that succeeds makes of a set; its names stay distinct.
-/
import Mathlib.Tactic
import TrinoManagement.Bench.QuerySet
import TrinoManagement.Core.Dict
import TrinoManagement.Core.Pattern

namespace TrinoManagement.Bench

open TrinoManagement.Text (isName stripChars)

/-! ## Sets -/

def maxQueries : ℕ := 50

/-- one named statement -/
structure BenchmarkQuery where
  name : String
  sql : List Char
  title : String
  position : ℤ
deriving DecidableEq, Repr

/-- a set, under its key -/
structure QuerySet where
  title : String
  description : String
  queries : List BenchmarkQuery
deriving DecidableEq, Repr

abbrev Sets := Dict QuerySet

def namesOf (queries : List BenchmarkQuery) : List String := queries.map BenchmarkQuery.name

/-- `NAME_PATTERN` -/
def isSetName (name : String) : Bool :=
  let later (c : Char) : Bool := c.isLower || c.isDigit || c == '_' || c == '-'
  isName (fun c => c.isLower || c.isDigit) later name.toList &&
    decide ((Text.dropFinalNewline name.toList).length ≤ 64)

/-- `refuse_name` -/
def refuseName (repr : String → String) (name what : String) : Option String :=
  if isSetName name then none
  else some (repr name ++ " is not a usable " ++ what ++ ": lowercase letters, digits, '-' and '_', up to 64 characters, " ++
    "starting with a letter or digit")

/-- `QuerySetStoreUnavailable`, `UnknownSet`, `DuplicateName` -/
inductive SetError where
  | unavailable (message : String)
  | unknownSet (key : String)
  | duplicateName (name : String)
deriving DecidableEq, Repr

/-- what a save is about -/
structure Save where
  name : String
  title : String
  sql : List Char
  position : ℤ
  originalName : Option String
deriving DecidableEq, Repr

/-- the original name if there is one, which an empty text is not -/
def Save.original (q : Save) : Option String := q.originalName.filter (· ≠ "")

/-! ## In memory -/

/-- position first, then name -/
def before (a b : BenchmarkQuery) : Prop := a.position < b.position ∨ a.position = b.position ∧ a.name ≤ b.name

instance (a b : BenchmarkQuery) : Decidable (before a b) :=
  inferInstanceAs (Decidable (a.position < b.position ∨ a.position = b.position ∧ a.name ≤ b.name))

/-- `_sorted` -/
def sorted (queries : List BenchmarkQuery) : List BenchmarkQuery := queries.insertionSort before

namespace InMemory

/-- the last query of a name, which is the one `{q.name: q}` keeps, replaced where it stands -/
def replace (original : String) (new : BenchmarkQuery) : List BenchmarkQuery → List BenchmarkQuery
  | [] => []
  | q :: rest => if q.name = original ∧ original ∉ namesOf rest then new :: rest else q :: replace original new rest

/-- `save_query`, on the queries of the set -/
def saveQuery (queries : List BenchmarkQuery) (q : Save) : Except SetError (List BenchmarkQuery) :=
  if q.name ∈ namesOf queries ∧ some q.name ≠ q.originalName then .error (.duplicateName q.name)
  else
    match q.original with
    | some original =>
      if original ∈ namesOf queries then .ok (sorted (replace original ⟨q.name, q.sql, q.title, q.position⟩ queries))
      else .ok (sorted (queries ++ [⟨q.name, q.sql, if q.title = "" then q.name else q.title, q.position⟩]))
    | none => .ok (sorted (queries ++ [⟨q.name, q.sql, if q.title = "" then q.name else q.title, q.position⟩]))

/-- `save_set` -/
def saveSet (sets : Sets) (key title description : String) : Sets :=
  match sets.lookup key with
  | none => sets.set key ⟨if title = "" then key else title, description, []⟩
  | some found => sets.set key { found with title := if title = "" then key else title, description := description }

end InMemory

/-! ## In Postgres -/

namespace Postgres

/-- the index `(set_id, name)`: a statement whose rows would break it takes no effect -/
def unique (name : String) (rows : List BenchmarkQuery) : Except SetError (List BenchmarkQuery) :=
  if (namesOf rows).Nodup then .ok rows else .error (.duplicateName name)

/-- `save_query`, on the rows of the set: the `UPDATE`, and the `INSERT` if it touched none -/
def saveQuery (rows : List BenchmarkQuery) (q : Save) : Except SetError (List BenchmarkQuery) :=
  match q.original with
  | some original =>
    if original ∈ namesOf rows then
      unique q.name (rows.map fun row => if row.name = original then ⟨q.name, q.sql, q.title, q.position⟩ else row)
    else unique q.name (rows ++ [⟨q.name, q.sql, q.title, q.position⟩])
  | none => unique q.name (rows ++ [⟨q.name, q.sql, q.title, q.position⟩])

/-- `save_set` -/
def saveSet (sets : Sets) (key title description : String) : Sets :=
  match sets.lookup key with
  | none => sets.set key ⟨title, description, []⟩
  | some found => sets.set key { found with title := title, description := description }

/-- `BenchmarkQuery` and `QuerySet` fill in their titles, and the statement sorts -/
def load (key : String) (found : QuerySet) : QuerySet :=
  { found with
    title := if found.title = "" then key else found.title
    queries := sorted (found.queries.map fun q => { q with title := if q.title = "" then q.name else q.title }) }

end Postgres

/-! ## Either one -/

inductive Backend where
  | memory | postgres
deriving DecidableEq, Repr

namespace Backend

def get (b : Backend) (sets : Sets) (key : String) : Option QuerySet :=
  match b with
  | .memory => sets.lookup key
  | .postgres => (sets.lookup key).map (Postgres.load key)

def saveSet : Backend → Sets → String → String → String → Sets
  | .memory => InMemory.saveSet
  | .postgres => Postgres.saveSet

/-- `delete_set`, and whether there was one -/
def deleteSet (_ : Backend) (sets : Sets) (key : String) : Bool × Sets :=
  (decide (key ∈ sets.keys), sets.filter fun p => p.1 ≠ key)

def savedQueries : Backend → List BenchmarkQuery → Save → Except SetError (List BenchmarkQuery)
  | .memory => InMemory.saveQuery
  | .postgres => Postgres.saveQuery

def saveQuery (b : Backend) (sets : Sets) (key : String) (q : Save) : Except SetError Sets :=
  match sets.lookup key with
  | none => .error (.unknownSet key)
  | some found => do
    let queries ← b.savedQueries found.queries q
    pure (sets.set key { found with queries := queries })

/-- `delete_query`: in Postgres a set that is gone is a row that is not there -/
def deleteQuery (b : Backend) (sets : Sets) (key name : String) : Except SetError (Bool × Sets) :=
  match sets.lookup key with
  | none => if b = .memory then .error (.unknownSet key) else .ok (false, sets)
  | some found =>
    let remaining := found.queries.filter fun q => q.name ≠ name
    if remaining.length = found.queries.length then .ok (false, sets)
    else .ok (true, sets.set key { found with queries := remaining })

end Backend

/-! ## What a save makes of a set -/

theorem perm_sorted (queries : List BenchmarkQuery) : (sorted queries).Perm queries := List.perm_insertionSort _ _

@[simp] theorem mem_sorted {queries : List BenchmarkQuery} {q : BenchmarkQuery} : q ∈ sorted queries ↔ q ∈ queries :=
  (perm_sorted queries).mem_iff

@[simp] theorem length_sorted (queries : List BenchmarkQuery) : (sorted queries).length = queries.length :=
  (perm_sorted queries).length_eq

theorem namesOf_sorted (queries : List BenchmarkQuery) : (namesOf (sorted queries)).Perm (namesOf queries) :=
  (perm_sorted queries).map _

/-- what every store makes of a set whose names are distinct, if it accepts the save -/
structure Saved (queries : List BenchmarkQuery) (q : Save) (queries' : List BenchmarkQuery) : Prop where
  distinct : (namesOf queries').Nodup
  statements : ∀ row ∈ queries', row ∈ queries ∨ row.sql = q.sql
  length : queries'.length = if ∃ original ∈ q.original, original ∈ namesOf queries then queries.length else queries.length + 1

section Saved

variable {queries queries' : List BenchmarkQuery} {q : Save}

/-- with distinct names there is one query to replace -/
theorem replace_eq (h : (namesOf queries).Nodup) (original : String) (new : BenchmarkQuery) :
    InMemory.replace original new queries = queries.map fun row => if row.name = original then new else row := by
  induction queries with
  | nil => rfl
  | cons row rest ih =>
    obtain ⟨hrow, hrest⟩ := List.nodup_cons.1 (show (row.name :: namesOf rest).Nodup from h)
    rw [InMemory.replace, List.map_cons]
    by_cases heq : row.name = original
    · have hnot : original ∉ namesOf rest := heq ▸ hrow
      have hsame : rest.map (fun row => if row.name = original then new else row) = rest := by
        conv_rhs => rw [← List.map_id rest]
        refine List.map_congr_left ?_
        intro row' hrow'
        have hne : row'.name ≠ original := by
          rintro rfl
          exact hnot (List.mem_map_of_mem hrow')
        rw [if_neg hne, id]
      rw [if_pos ⟨heq, hnot⟩, if_pos heq, hsame]
    · rw [if_neg (fun hboth => heq hboth.1), if_neg heq, ih hrest]

/-- a rename to a name nobody else has -/
theorem distinct_replaced (h : (namesOf queries).Nodup) {original : String} {new : BenchmarkQuery}
    (hnew : new.name ∈ namesOf queries → new.name = original) :
    (namesOf (queries.map fun row => if row.name = original then new else row)).Nodup := by
  have hnames : namesOf (queries.map fun row => if row.name = original then new else row) =
      (namesOf queries).map fun name => if name = original then new.name else name := by
    simp only [namesOf, List.map_map]
    refine List.map_congr_left ?_
    intro row _
    simp only [Function.comp]
    split_ifs <;> rfl
  rw [hnames]
  refine h.map_on ?_
  intro x hx y hy hxy
  split_ifs at hxy with hxo hyo hyo
  · rw [hxo, hyo]
  · exact absurd (hnew (hxy ▸ hy)) (fun heq => hyo (hxy.symm.trans heq))
  · exact absurd (hnew (hxy ▸ hx)) (fun heq => hxo (hxy.trans heq))
  · exact hxy

theorem statements_replaced {original : String} {new : BenchmarkQuery} (hnew : new.sql = q.sql) :
    ∀ row ∈ queries.map (fun row => if row.name = original then new else row), row ∈ queries ∨ row.sql = q.sql := by
  intro row hrow
  obtain ⟨row', hrow', rfl⟩ := List.mem_map.1 hrow
  split_ifs
  · exact .inr hnew
  · exact .inl hrow'

theorem statements_appended {new : BenchmarkQuery} (hnew : new.sql = q.sql) :
    ∀ row ∈ queries ++ [new], row ∈ queries ∨ row.sql = q.sql := by
  intro row hrow
  rcases List.mem_append.1 hrow with hrow | hrow
  · exact .inl hrow
  · rw [List.mem_singleton.1 hrow]
    exact .inr hnew

theorem distinct_appended (h : (namesOf queries).Nodup) {new : BenchmarkQuery} (hnew : new.name ∉ namesOf queries) :
    (namesOf (queries ++ [new])).Nodup := by
  rw [namesOf, List.map_append]
  exact h.append (List.nodup_singleton _) (by simpa [namesOf] using hnew)

theorem Saved.sorted (h : Saved queries q queries') : Saved queries q (sorted queries') where
  distinct := (namesOf_sorted queries').nodup_iff.2 h.distinct
  statements := by
    intro row hrow
    exact h.statements row (mem_sorted.1 hrow)
  length := by rw [length_sorted, h.length]

theorem saved_replaced {original : String} (hq : q.original = some original)
    (hmem : original ∈ namesOf queries) {new : BenchmarkQuery} (hsql : new.sql = q.sql)
    (hdistinct : (namesOf (queries.map fun row => if row.name = original then new else row)).Nodup) :
    Saved queries q (queries.map fun row => if row.name = original then new else row) where
  distinct := hdistinct
  statements := statements_replaced hsql
  length := by rw [List.length_map, if_pos ⟨original, hq, hmem⟩]

theorem saved_appended (hq : ∀ original ∈ q.original, original ∉ namesOf queries) {new : BenchmarkQuery}
    (hsql : new.sql = q.sql) (hdistinct : (namesOf (queries ++ [new])).Nodup) : Saved queries q (queries ++ [new]) where
  distinct := hdistinct
  statements := statements_appended hsql
  length := by
    rw [List.length_append, List.length_singleton, if_neg]
    intro hex
    obtain ⟨original, horiginal, hmem⟩ := hex
    exact hq original horiginal hmem

/-- a name that is taken is refused, unless it is the original one -/
theorem memory_saved (h : (namesOf queries).Nodup) (hname : q.name ≠ "")
    (hsave : InMemory.saveQuery queries q = .ok queries') : Saved queries q queries' := by
  unfold InMemory.saveQuery at hsave
  split at hsave
  · cases hsave
  rename_i htaken
  have hnew : q.name ∈ namesOf queries → some q.name = q.originalName := by
    intro hmem
    by_contra hne
    exact htaken ⟨hmem, hne⟩
  have hfiltered : ∀ original, q.original = some original → q.originalName = some original := by
    intro original horiginal
    exact (Option.filter_eq_some_iff.1 horiginal).1
  have hinsert : (∀ original ∈ q.original, original ∉ namesOf queries) →
      ∀ title, Saved queries q (queries ++ [⟨q.name, q.sql, title, q.position⟩]) := by
    intro hgone title
    refine saved_appended hgone rfl (distinct_appended h ?_)
    intro hmem
    exact hgone q.name (by simp [Save.original, ← hnew hmem, hname]) hmem
  split at hsave
  · rename_i original horiginal
    split at hsave
    · rename_i hmem
      obtain rfl := Except.ok.inj hsave
      rw [replace_eq h]
      refine (saved_replaced horiginal hmem rfl (distinct_replaced h ?_)).sorted
      intro hname
      have hsame := hnew hname
      rw [hfiltered original horiginal] at hsame
      exact Option.some.inj hsame
    · rename_i hmem
      obtain rfl := Except.ok.inj hsave
      refine (hinsert ?_ _).sorted
      intro original' horiginal'
      rw [horiginal] at horiginal'
      cases horiginal'
      exact hmem
  · rename_i hnone
    obtain rfl := Except.ok.inj hsave
    refine (hinsert ?_ _).sorted
    intro original' horiginal'
    rw [hnone] at horiginal'
    cases horiginal'

theorem unique_ok {name : String} {rows rows' : List BenchmarkQuery} (h : Postgres.unique name rows = .ok rows') :
    rows' = rows ∧ (namesOf rows).Nodup := by
  unfold Postgres.unique at h
  split_ifs at h with hdistinct
  exact ⟨(Except.ok.inj h).symm, hdistinct⟩

theorem postgres_saved (hsave : Postgres.saveQuery queries q = .ok queries') : Saved queries q queries' := by
  unfold Postgres.saveQuery at hsave
  split at hsave
  · rename_i original horiginal
    split_ifs at hsave with hmem
    · obtain ⟨rfl, hdistinct⟩ := unique_ok hsave
      exact saved_replaced horiginal hmem rfl hdistinct
    · obtain ⟨rfl, hdistinct⟩ := unique_ok hsave
      refine saved_appended ?_ rfl hdistinct
      intro original' horiginal'
      rw [horiginal] at horiginal'
      cases horiginal'
      exact hmem
  · rename_i hnone
    obtain ⟨rfl, hdistinct⟩ := unique_ok hsave
    refine saved_appended ?_ rfl hdistinct
    intro original' horiginal'
    rw [hnone] at horiginal'
    cases horiginal'

/-- **Both stores save alike**, as far as names, statements and the number of queries go. -/
theorem savedQueries_saved (h : (namesOf queries).Nodup) (hname : q.name ≠ "") {b : Backend}
    (hsave : b.savedQueries queries q = .ok queries') : Saved queries q queries' := by
  cases b with
  | memory => exact memory_saved h hname hsave
  | postgres => exact postgres_saved hsave

end Saved

end TrinoManagement.Bench
