/-
Python's `dict` with text keys: an association list in insertion order, `d[key] = value` in place.

- `lookup_set`, `nodup_set`: an assignment changes one key and never doubles one.
- `lookup_ofPairs`: assigned one after another, the last value of a key stays.
-/
import Mathlib.Tactic

namespace TrinoManagement

/-! ## Association lists -/

namespace Assoc

variable {κ β : Type} [BEq κ] [LawfulBEq κ] {l : List (κ × β)} {key : κ} {value : β}

/-- a key that occurs once has the value it occurs with -/
theorem lookup_of_mem (h : (l.map Prod.fst).Nodup) (hmem : (key, value) ∈ l) : l.lookup key = some value := by
  induction l with
  | nil => cases hmem
  | cons p rest ih =>
    rw [List.map_cons, List.nodup_cons] at h
    rw [List.lookup_cons]
    rcases List.mem_cons.1 hmem with rfl | hmem
    · rw [beq_self_eq_true]
    · have hne : key ≠ p.1 := by
        rintro rfl
        exact h.1 (List.mem_map.2 ⟨_, hmem, rfl⟩)
      rw [beq_false_of_ne hne]
      exact ih h.2 hmem

theorem mem_of_lookup (h : l.lookup key = some value) : (key, value) ∈ l := by
  obtain ⟨before, after, rfl, -⟩ := List.lookup_eq_some_iff.1 h
  simp

theorem lookup_eq_none : l.lookup key = none ↔ key ∉ l.map Prod.fst := by
  rw [List.lookup_eq_none_iff]
  constructor
  · intro h hmem
    obtain ⟨p, hp, rfl⟩ := List.mem_map.1 hmem
    simpa using h p hp
  · intro h p hp
    rw [bne_iff_ne]
    rintro rfl
    exact h (List.mem_map_of_mem hp)

end Assoc

/-! ## Dicts -/

abbrev Dict (β : Type) := List (String × β)

namespace Dict

variable {β γ : Type}

/-- `d[key] = value` -/
def set : Dict β → String → β → Dict β
  | [], key, value => [(key, value)]
  | (k, v) :: rest, key, value => if k = key then (key, value) :: rest else (k, v) :: set rest key value

/-- the pairs assigned one after another to an empty dict -/
def ofPairs (pairs : List (String × β)) : Dict β := pairs.foldl (fun d p => d.set p.1 p.2) []

/-- `d.pop(key, None)` -/
def pop (d : Dict β) (key : String) : Dict β := d.filter fun p => p.1 ≠ key

def keys (d : Dict β) : List String := d.map Prod.fst

theorem lookup_cons (key k : String) (v : β) (rest : List (String × β)) :
    ((k, v) :: rest).lookup key = if key = k then some v else rest.lookup key := by
  by_cases h : key = k
  · simp [h]
  · have hb : (key == k) = false := by simpa using h
    rw [List.lookup_cons, hb, if_neg h]

theorem lookup_set (d : Dict β) (key key' : String) (value : β) :
    (d.set key value).lookup key' = if key' = key then some value else d.lookup key' := by
  induction d with
  | nil => rw [set, lookup_cons]
  | cons p rest ih =>
    obtain ⟨k, v⟩ := p
    rw [set]
    split_ifs with hk h h
    · rw [h, lookup_cons, if_pos rfl]
    · rw [lookup_cons, lookup_cons, if_neg h, if_neg (hk ▸ h)]
    · rw [lookup_cons, ih, if_pos h, if_neg (by rw [h]; exact Ne.symm hk)]
    · rw [lookup_cons, lookup_cons, ih, if_neg h]

theorem lookup_pop (d : Dict β) (key key' : String) :
    (d.pop key).lookup key' = if key' = key then none else d.lookup key' := by
  induction d with
  | nil => simp [pop]
  | cons p rest ih =>
    obtain ⟨k, v⟩ := p
    rw [pop] at ih ⊢
    by_cases hk : k = key
    · rw [List.filter_cons_of_neg (by simpa using hk), ih]
      split_ifs with h
      · rfl
      · rw [lookup_cons, if_neg (hk ▸ h)]
    · rw [List.filter_cons_of_pos (by simpa using hk), lookup_cons, lookup_cons, ih]
      split_ifs with h h' h'
      · exact absurd (h.symm.trans h') hk
      · rfl
      · rfl
      · rfl

theorem keys_set (d : Dict β) (key : String) (value : β) :
    (d.set key value).keys = if key ∈ d.keys then d.keys else d.keys ++ [key] := by
  induction d with
  | nil => rfl
  | cons p rest ih =>
    obtain ⟨k, v⟩ := p
    rw [set]
    by_cases hk : k = key
    · subst hk
      simp [keys]
    · rw [if_neg hk]
      have hne : key ≠ k := Ne.symm hk
      change k :: keys (set rest key value) = if key ∈ k :: keys rest then k :: keys rest else k :: keys rest ++ [key]
      rw [ih]
      by_cases hmem : key ∈ keys rest <;> simp [hmem, hne]

theorem lookup_map (f : β → γ) (d : Dict β) (key : String) :
    (d.map fun p => (p.1, f p.2)).lookup key = (d.lookup key).map f := by
  induction d with
  | nil => rfl
  | cons p rest ih =>
    rw [List.map_cons, lookup_cons, ih]
    obtain ⟨k, v⟩ := p
    rw [lookup_cons]
    split_ifs <;> rfl

theorem set_map (f : β → γ) (d : Dict β) (key : String) (value : β) :
    set (d.map fun p => (p.1, f p.2)) key (f value) = (d.set key value).map fun p => (p.1, f p.2) := by
  induction d with
  | nil => rfl
  | cons p rest ih =>
    obtain ⟨k, v⟩ := p
    simp only [List.map_cons, set]
    split_ifs with hk
    · rfl
    · rw [ih, List.map_cons]

/-- values are mapped before a dict is built, or after it -/
theorem foldl_set_map (f : β → γ) (pairs : List (String × β)) (d : Dict β) :
    (pairs.map fun p => (p.1, f p.2)).foldl (fun d p => set d p.1 p.2) (d.map fun p => (p.1, f p.2)) =
      (pairs.foldl (fun d p => d.set p.1 p.2) d).map fun p => (p.1, f p.2) := by
  induction pairs generalizing d with
  | nil => rfl
  | cons p pairs ih => rw [List.map_cons, List.foldl_cons, List.foldl_cons, set_map, ih]

theorem ofPairs_map (f : β → γ) (pairs : List (String × β)) :
    ofPairs (pairs.map fun p => (p.1, f p.2)) = (ofPairs pairs).map fun p => (p.1, f p.2) :=
  foldl_set_map f pairs []

theorem mem_set {d : Dict β} {key : String} {value : β} {p : String × β} (h : p ∈ d.set key value) :
    p ∈ d ∨ p = (key, value) := by
  induction d with
  | nil => exact .inr (List.mem_singleton.1 h)
  | cons q rest ih =>
    obtain ⟨k, v⟩ := q
    rw [set] at h
    split_ifs at h
    · rcases List.mem_cons.1 h with h | h
      · exact .inr h
      · exact .inl (List.mem_cons_of_mem _ h)
    · rcases List.mem_cons.1 h with h | h
      · exact .inl (h ▸ List.mem_cons_self)
      · exact (ih h).imp_left (List.mem_cons_of_mem _)

theorem nodup_set {d : Dict β} (h : d.keys.Nodup) (key : String) (value : β) : (d.set key value).keys.Nodup := by
  rw [keys_set]
  split_ifs with hmem
  · exact h
  · exact h.append (List.nodup_singleton key) (by simpa using hmem)

/-- a dict from pairs, and what was there before them -/
theorem lookup_foldl (pairs : List (String × β)) (d : Dict β) (key : String) :
    (pairs.foldl (fun d p => d.set p.1 p.2) d).lookup key = (pairs.reverse.lookup key).orElse fun _ => d.lookup key := by
  induction pairs generalizing d with
  | nil => simp
  | cons p rest ih =>
    rw [List.foldl_cons, ih, List.reverse_cons, List.lookup_append, lookup_set, lookup_cons]
    cases rest.reverse.lookup key with
    | some v => simp
    | none => by_cases h : key = p.1 <;> simp [h]

theorem lookup_ofPairs (pairs : List (String × β)) (key : String) : (ofPairs pairs).lookup key = pairs.reverse.lookup key := by
  rw [ofPairs, lookup_foldl]
  cases pairs.reverse.lookup key <;> simp

theorem nodup_ofPairs (pairs : List (String × β)) : (ofPairs pairs).keys.Nodup := by
  have main : ∀ (pairs : List (String × β)) (d : Dict β), d.keys.Nodup →
      (pairs.foldl (fun d p => d.set p.1 p.2) d).keys.Nodup := by
    intro pairs
    induction pairs with
    | nil => exact fun _ h => h
    | cons p rest ih => exact fun d h => ih _ (nodup_set h p.1 p.2)
  exact main pairs [] List.nodup_nil

theorem set_of_notMem {d : Dict β} {key : String} {value : β} (h : key ∉ d.keys) : d.set key value = d ++ [(key, value)] := by
  induction d with
  | nil => rfl
  | cons p rest ih =>
    obtain ⟨k, v⟩ := p
    rw [keys, List.map_cons, List.mem_cons, not_or] at h
    rw [set, if_neg (Ne.symm h.1), ih h.2, List.cons_append]

/-- pairs of different keys are a dict -/
theorem ofPairs_of_nodup {pairs : List (String × β)} (h : (pairs.map Prod.fst).Nodup) : ofPairs pairs = pairs := by
  induction pairs using List.reverseRecOn with
  | nil => rfl
  | append_singleton rest p ih =>
    rw [List.map_append, List.nodup_append] at h
    rw [ofPairs, List.foldl_append]
    change set (ofPairs rest) p.1 p.2 = _
    rw [ih h.1, set_of_notMem]
    exact fun hmem => h.2.2 p.1 hmem p.1 (by simp) rfl

/-- a key of a dict has one value -/
theorem lookup_of_mem {d : Dict β} (h : d.keys.Nodup) {key : String} {value : β} (hmem : (key, value) ∈ d) :
    d.lookup key = some value :=
  Assoc.lookup_of_mem h hmem

theorem mem_of_lookup {d : Dict β} {key : String} {value : β} (h : d.lookup key = some value) : (key, value) ∈ d :=
  Assoc.mem_of_lookup h

theorem lookup_eq_none {d : Dict β} {key : String} : d.lookup key = none ↔ key ∉ d.keys := Assoc.lookup_eq_none

end Dict

end TrinoManagement
