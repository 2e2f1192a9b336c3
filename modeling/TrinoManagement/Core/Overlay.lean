/-
Mappings laid over one another, at any depth: where both sides hold a mapping the two are merged, elsewhere the upper one
wins.

- `find`: what is at a path of keys. `Unique`: no mapping in a value doubles a key.
- `merge`: one mapping over another. `lookup_merge`: what that comes to at one key.
- `Clear`: a layer has nothing at a path, and nothing but mappings on the way to it.
- `leaf_merge`: what is at a path is the upper side's, or the lower side's where the upper one is clear.
- `leaf_layers`: of any number of layers, it is the last one's that has something there.
-/
import Mathlib.Tactic
import TrinoManagement.Core.Dict
import TrinoManagement.Core.Value

namespace TrinoManagement.Overlay

/-! ## Paths -/

/-- what is at a path of keys -/
def find : List String → Value → Option Value
  | [], v => some v
  | key :: path, .dict fields => (fields.lookup key).bind (find path)
  | _ :: _, _ => none

/-- no mapping in it doubles a key -/
def Unique (v : Value) : Prop := ∀ path fields, find path v = some (.dict fields) → (Dict.keys fields).Nodup

/-- nothing at a path, and nothing but mappings on the way to it -/
def Clear (path : List String) (layer : Dict Value) : Prop :=
  ∀ q v, q ≠ [] → q <+: path → find q (.dict layer) = some v → v.isDict = true ∧ q ≠ path

section Paths

variable {path : List String} {key : String} {fields layer inner : Dict Value} {v x : Value}

theorem find_key : find (key :: path) (.dict fields) = (fields.lookup key).bind (find path) := rfl

theorem find_cons (h : fields.lookup key = some v) : find (key :: path) (.dict fields) = find path v := by
  rw [find_key, h, Option.bind_some]

theorem find_none (h : fields.lookup key = none) : find (key :: path) (.dict fields) = none := by
  rw [find_key, h, Option.bind_none]

/-- past a value that is no mapping there is nothing -/
theorem find_leaf (hv : v.isDict = false) (h : find path v = some x) : path = [] := by
  cases path with
  | nil => rfl
  | cons key path =>
    cases v with
    | dict fields => cases hv
    | _ => cases h

theorem Unique.keys (h : Unique (.dict fields)) : fields.keys.Nodup := h [] fields rfl

theorem Unique.child (h : Unique (.dict fields)) (hkey : fields.lookup key = some v) : Unique v :=
  fun path inner hfind => h (key :: path) inner ((find_cons hkey).trans hfind)

theorem unique_leaf (hv : v.isDict = false) : Unique v := by
  intro path fields hfind
  obtain rfl := find_leaf hv hfind
  cases hfind
  cases hv

theorem unique_dict (hkeys : fields.keys.Nodup) (hvalues : ∀ p ∈ fields, Unique p.2) : Unique (.dict fields) := by
  intro path inner hfind
  cases path with
  | nil =>
    cases hfind
    exact hkeys
  | cons key path =>
    obtain ⟨v, hkey, hfind⟩ := Option.bind_eq_some_iff.1 hfind
    exact hvalues _ (Dict.mem_of_lookup hkey) path inner hfind

theorem clear_of_none (h : layer.lookup key = none) : Clear (key :: path) layer := by
  intro q v hq hprefix hfind
  obtain ⟨k, q, rfl⟩ := List.exists_cons_of_ne_nil hq
  obtain rfl : k = key := (List.cons_prefix_cons.1 hprefix).1
  rw [find_none h] at hfind
  cases hfind

/-- a value that is no mapping stands in the way -/
theorem not_clear (h : layer.lookup key = some v) (hv : v.isDict = false) : ¬ Clear (key :: path) layer := by
  intro hclear
  have hdict := (hclear [key] v (List.cons_ne_nil _ _) (List.prefix_append [key] path) (find_cons h)).1
  rw [hv] at hdict
  cases hdict

theorem clear_dict (h : layer.lookup key = some (.dict inner)) :
    Clear (key :: path) layer ↔ path ≠ [] ∧ Clear path inner := by
  constructor
  · intro hclear
    refine ⟨?_, fun q v hq hprefix hfind => ?_⟩
    · rintro rfl
      exact (hclear [key] _ (List.cons_ne_nil _ _) (List.prefix_refl _) (find_cons h)).2 rfl
    · obtain ⟨hdict, hne⟩ := hclear (key :: q) v (List.cons_ne_nil _ _) (List.cons_prefix_cons.2 ⟨rfl, hprefix⟩)
        ((find_cons h).trans hfind)
      exact ⟨hdict, fun heq => hne (congrArg (key :: ·) heq)⟩
  · rintro ⟨hpath, hclear⟩ q v hq hprefix hfind
    obtain ⟨k, q, rfl⟩ := List.exists_cons_of_ne_nil hq
    obtain ⟨rfl, hrest⟩ := List.cons_prefix_cons.1 hprefix
    rw [find_cons h] at hfind
    cases q with
    | nil =>
      cases hfind
      exact ⟨rfl, fun heq => hpath (List.cons.inj heq).2.symm⟩
    | cons k' q =>
      obtain ⟨hdict, hne⟩ := hclear _ v (List.cons_ne_nil _ _) hrest hfind
      exact ⟨hdict, fun heq => hne (List.cons.inj heq).2⟩

end Paths

/-! ## One over another -/

mutual

/-- one mapping over another, key by key -/
def merge : Dict Value → List (String × Value) → Dict Value
  | base, [] => base
  | base, (key, value) :: rest => merge (base.set key (put (base.lookup key) value)) rest

/-- a value where there may be one already -/
def put : Option Value → Value → Value
  | some (.dict base), .dict upper => .dict (merge base upper)
  | _, value => value

end

section Merge

variable {base upper inner : Dict Value} {old : Option Value} {key : String} {path : List String} {v x : Value}

theorem put_dict : put (some (.dict base)) (.dict upper) = .dict (merge base upper) := by rw [put]

/-- without a mapping on both sides, the upper value -/
theorem put_upper (h : ∀ base, v.isDict = true → old ≠ some (.dict base)) : put old v = v := by
  cases v with
  | dict upper =>
    cases old with
    | none => rw [put]; exact fun _ _ h _ => by cases h
    | some w =>
      cases w with
      | dict base => exact absurd rfl (h base rfl)
      | _ => rw [put]; exact fun _ _ h _ => by cases h
  | _ => rw [put]; exact fun _ _ _ h => by cases h

theorem put_none : put none v = v := put_upper fun _ _ h => by cases h

theorem put_leaf (hv : v.isDict = false) : put old v = v := put_upper fun _ h => by rw [hv] at h; cases h

theorem put_on_leaf (hx : x.isDict = false) : put (some x) v = v :=
  put_upper fun _ _ h => by cases h; cases hx

theorem put_isDict (hv : v.isDict = true) : (put old v).isDict = true := by
  cases v with
  | dict upper =>
    cases old with
    | none => rw [put_none]; rfl
    | some w =>
      cases w with
      | dict base => rw [put_dict]; rfl
      | _ => rw [put_on_leaf rfl]; rfl
  | _ => cases hv

theorem merge_append (base upper upper' : Dict Value) : merge base (upper ++ upper') = merge (merge base upper) upper' := by
  induction upper generalizing base with
  | nil => rw [merge, List.nil_append]
  | cons p rest ih =>
    obtain ⟨key, value⟩ := p
    rw [List.cons_append, merge, merge, ih]

theorem lookup_merge (h : (Dict.keys upper).Nodup) (base : Dict Value) (key : String) :
    (merge base upper).lookup key = ((upper.lookup key).map (put (base.lookup key))).or (base.lookup key) := by
  induction upper generalizing base with
  | nil => rw [merge]; rfl
  | cons p rest ih =>
    obtain ⟨k, value⟩ := p
    obtain ⟨hfresh, hrest⟩ := List.nodup_cons.1 h
    rw [merge, ih hrest, Dict.lookup_set, Dict.lookup_cons]
    split_ifs with hkey
    · subst hkey
      rw [Dict.lookup_eq_none.2 hfresh]
      rfl
    · rfl

/-- **The upper side wins**, at every path. -/
theorem leaf_merge (hx : x.isDict = false) (hupper : Unique (.dict upper)) :
    find path (.dict (merge base upper)) = some x ↔
      find path (.dict upper) = some x ∨ Clear path upper ∧ find path (.dict base) = some x := by
  induction path generalizing base upper with
  | nil =>
    have hno : ∀ fields : Dict Value, find [] (.dict fields) ≠ some x := by
      rintro fields ⟨⟩
      cases hx
    exact iff_of_false (hno _) (not_or.2 ⟨hno _, fun h => hno _ h.2⟩)
  | cons key path ih =>
    have hlookup := lookup_merge hupper.keys base key
    cases hkey : upper.lookup key with
    | none =>
      rw [hkey] at hlookup
      rw [find_key, hlookup, find_none hkey]
      exact ⟨fun h => .inr ⟨clear_of_none hkey, h⟩, fun h => h.elim (fun h => by cases h) And.right⟩
    | some v =>
      rw [hkey] at hlookup
      change _ = some (put (base.lookup key) v) at hlookup
      rw [find_cons hlookup, find_cons hkey]
      by_cases hboth : ∀ lower, v.isDict = true → base.lookup key ≠ some (.dict lower)
      · rw [put_upper hboth]
        refine ⟨.inl, fun h => h.resolve_right ?_⟩
        rintro ⟨hclear, hbase⟩
        cases hv : v.isDict with
        | false => exact not_clear hkey hv hclear
        | true =>
          obtain ⟨w, hw, hfind⟩ := Option.bind_eq_some_iff.1 hbase
          have hleaf : w.isDict = false := by
            cases w with
            | dict lower => exact absurd hw (hboth lower hv)
            | _ => rfl
          obtain rfl := find_leaf hleaf hfind
          exact (hclear [key] v (List.cons_ne_nil _ _) (List.prefix_refl _) (find_cons hkey)).2 rfl
      · push Not at hboth
        obtain ⟨lower, hv, hlower⟩ := hboth
        cases v with
        | dict inner =>
          rw [hlower, put_dict, ih (hupper.child hkey), clear_dict hkey, find_cons hlower]
          refine or_congr_right ⟨fun h => ⟨⟨?_, h.1⟩, h.2⟩, fun h => ⟨h.1.2, h.2⟩⟩
          rintro rfl
          obtain ⟨-, ⟨⟩⟩ := h
          cases hx
        | _ => cases hv

end Merge

/-! ## Layers -/

/-- the last of some layers that has something at a path has this -/
def Says (layers : List (Dict Value)) (path : List String) (x : Value) : Prop :=
  ∃ before layer after, layers = before ++ layer :: after ∧ find path (.dict layer) = some x ∧
    ∀ upper ∈ after, Clear path upper

variable {layers : List (Dict Value)} {base top : Dict Value} {path : List String} {x : Value}

theorem says_concat : Says (layers ++ [top]) path x ↔
    find path (.dict top) = some x ∨ Clear path top ∧ Says layers path x := by
  constructor
  · rintro ⟨before, layer, after, heq, hfind, hclear⟩
    rcases List.eq_nil_or_concat' after with rfl | ⟨after, last, rfl⟩
    · obtain ⟨-, heq⟩ := List.append_inj' heq rfl
      obtain rfl := List.singleton_inj.1 heq
      exact .inl hfind
    · rw [← List.cons_append, ← List.append_assoc] at heq
      obtain ⟨rfl, hlast⟩ := List.append_inj' heq rfl
      obtain rfl := List.singleton_inj.1 hlast
      exact .inr ⟨hclear _ (List.mem_append_right _ List.mem_cons_self),
        before, layer, after, rfl, hfind, fun upper h => hclear upper (List.mem_append_left _ h)⟩
  · rintro (hfind | ⟨htop, before, layer, after, rfl, hfind, hclear⟩)
    · exact ⟨layers, top, [], rfl, hfind, fun _ h => absurd h List.not_mem_nil⟩
    · refine ⟨before, layer, after ++ [top], by rw [List.append_assoc, List.cons_append], hfind, fun upper h => ?_⟩
      rcases List.mem_append.1 h with h | h
      · exact hclear upper h
      · exact List.mem_singleton.1 h ▸ htop

theorem says_singleton : Says [base] path x ↔ find path (.dict base) = some x := by
  rw [← List.nil_append [base], says_concat]
  refine or_iff_left ?_
  rintro ⟨-, before, layer, after, heq, -⟩
  exact List.cons_ne_nil _ _ (List.append_eq_nil_iff.1 heq.symm).2

/-- **The last layer wins.** -/
theorem leaf_layers (hx : x.isDict = false) (hlayers : ∀ layer ∈ layers, Unique (.dict layer)) :
    find path (.dict (layers.foldl merge base)) = some x ↔ Says (base :: layers) path x := by
  induction layers using List.reverseRecOn with
  | nil => exact says_singleton.symm
  | append_singleton layers top ih =>
    have htop : Unique (.dict top) := hlayers top (List.mem_append_right _ List.mem_cons_self)
    rw [List.foldl_append, List.foldl_cons, List.foldl_nil, leaf_merge hx htop, ← List.cons_append, says_concat,
      ih fun layer h => hlayers layer (List.mem_append_left _ h)]

end TrinoManagement.Overlay
