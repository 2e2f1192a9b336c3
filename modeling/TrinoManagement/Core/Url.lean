/-
The parts of a URL, as Python's `urllib.parse.urlsplit` cuts them out, on lists of characters.

- `netloc`: what stands between `//` and the path, the query or the fragment, unless it is refused.
- `hostname`: a netloc less its user, port and brackets. Nothing keeps a space or an `=` out of it.
- `pathQuery`: what follows the netloc, up to the fragment, cut at the first `?`.
- `netloc_append`: what follows a scheme and an authority changes the netloc unless it begins like a path, a query or a
  fragment (`Rooted`); what follows a netloc does (`rooted_beyond`).
-/
import Mathlib.Data.Bool.AllAny
import Mathlib.Data.List.DropRight
import Mathlib.Tactic
import TrinoManagement.Core.Text

namespace TrinoManagement.Url

/-- `_UNSAFE_URL_BYTES_TO_REMOVE` -/
def isUnsafe (c : Char) : Bool := c == '\t' || c == '\r' || c == '\n'

/-- `scheme_chars` -/
def isSchemeChar (c : Char) : Bool := c.isLower || c.isUpper || c.isDigit || c == '+' || c == '-' || c == '.'

/-- a URL less its scheme, if it has one -/
def schemeless (url : List Char) : List Char :=
  let scheme := url.takeWhile (· != ':')
  match scheme, url.dropWhile (· != ':') with
  | first :: _, _ :: rest =>
    if (first.isLower || first.isUpper) && scheme.all isSchemeChar then rest else url
  | _, _ => url

/-- what the brackets of a netloc have to be, and what `_checknetloc` and the check of a bracketed address say of it -/
def refusal (check : List Char → Option String) (netloc : List Char) : Option String :=
  if decide ('[' ∈ netloc) != decide (']' ∈ netloc) then some "Invalid IPv6 URL" else check netloc

/-- `urlsplit(url).netloc`, or the text of its ValueError -/
def netloc (check : List Char → Option String) (url : List Char) : Except String (List Char) :=
  let url := schemeless ((url.dropWhile fun c => decide (c.toNat ≤ 32)).filter fun c => !isUnsafe c)
  let found := match url with
    | '/' :: '/' :: rest => rest.takeWhile fun c => !(c == '/' || c == '?' || c == '#')
    | _ => []
  match refusal check found with
  | some message => .error message
  | none => .ok found

/-- what stands before the port, less the user -/
def hostPart (netloc : List Char) : List Char :=
  let hostinfo := netloc.rtakeWhile (· != '@')
  match hostinfo.dropWhile (· != '[') with
  | _ :: bracketed => bracketed.takeWhile (· != ']')
  | [] => hostinfo.takeWhile (· != ':')

/-- `hostname`: the zone after `%` keeps its case -/
def hostname (lower : String → String) (netloc : List Char) : String :=
  let host := hostPart netloc
  lower (String.ofList (host.takeWhile (· != '%'))) ++ String.ofList (host.dropWhile (· != '%'))

/-- what follows the netloc -/
def beyond (url : List Char) : List Char :=
  match schemeless ((url.dropWhile fun c => decide (c.toNat ≤ 32)).filter fun c => !isUnsafe c) with
  | '/' :: '/' :: rest => rest.dropWhile fun c => !(c == '/' || c == '?' || c == '#')
  | rest => rest

/-- `urlsplit(url).path` and `.query`, or the text of its ValueError -/
def pathQuery (check : List Char → Option String) (url : List Char) : Except String (List Char × List Char) := do
  let _ ← netloc check url
  let rest := (beyond url).takeWhile (· != '#')
  pure (rest.takeWhile (· != '?'), (rest.dropWhile (· != '?')).drop 1)

/-! ## An authority, and what follows it -/

/-- where a netloc ends -/
def isEnd (c : Char) : Bool := c == '/' || c == '?' || c == '#'

/-- nothing, or what cannot be taken for more of a netloc -/
def Rooted (rest : List Char) : Prop := ∀ c ∈ rest.head?, isEnd c = true

instance (rest : List Char) : Decidable (Rooted rest) :=
  decidable_of_iff (rest.head?.all isEnd = true) (Option.all_eq_true isEnd rest.head?)

/-- `scheme://authority`, as a server is configured -/
structure Origin where
  scheme : List Char
  authority : List Char
  letter : ∃ first ∈ scheme.head?, (first.isLower || first.isUpper) = true
  schemeChars : scheme.all isSchemeChar = true
  authorityChars : ∀ c ∈ authority, isEnd c = false ∧ isUnsafe c = false

def Origin.url (o : Origin) : List Char := o.scheme ++ "://".toList ++ o.authority

/-- a URL that says what server it is on -/
def HasAuthority (url : List Char) : Prop :=
  "//".toList <+: schemeless ((url.dropWhile fun c => decide (c.toNat ≤ 32)).filter fun c => !isUnsafe c)

instance (url : List Char) : Decidable (HasAuthority url) := inferInstanceAs (Decidable (_ <+: _))

section Append

variable {check : List Char → Option String} {o : Origin} {rest url path query : List Char}

/-- what a scheme is made of -/
theorem isSchemeChar_kept {c : Char} (h : isSchemeChar c = true) : 32 < c.toNat ∧ c ≠ ':' ∧ isUnsafe c = false := by
  have hne : c ≠ ':' ∧ c ≠ '\t' ∧ c ≠ '\r' ∧ c ≠ '\n' := by
    refine ⟨?_, ?_, ?_, ?_⟩ <;> rintro rfl <;> revert h <;> decide
  refine ⟨?_, hne.1, by simp [isUnsafe, hne]⟩
  simp only [isSchemeChar, Bool.or_eq_true, beq_iff_eq] at h
  rcases h with ((((h | h) | h) | rfl) | rfl) | rfl
  · exact lt_of_lt_of_le (by decide) (Text.isLower_range h).1
  · exact lt_of_lt_of_le (by decide) (Text.isUpper_range h).1
  · exact lt_of_lt_of_le (by decide) (Text.isDigit_range h).1
  · decide
  · decide
  · decide

/-- nothing of a URL is stripped that begins with an origin -/
theorem stripped_origin (hrest : ∀ c ∈ rest, isUnsafe c = false) :
    ((o.url ++ rest).dropWhile fun c => decide (c.toNat ≤ 32)).filter (fun c => !isUnsafe c) = o.url ++ rest := by
  have hscheme : ∀ c ∈ o.scheme, isSchemeChar c = true := List.all_eq_true.1 o.schemeChars
  obtain ⟨first, hfirst, -⟩ := o.letter
  obtain ⟨tail, htail⟩ := List.head?_eq_some_iff.1 hfirst
  have hhead : first ∈ o.scheme := by simp [htail]
  have hdrop : (o.url ++ rest).dropWhile (fun c => decide (c.toNat ≤ 32)) = o.url ++ rest := by
    rw [Origin.url, htail, List.cons_append, List.cons_append, List.cons_append, List.dropWhile_cons_of_neg]
    simpa using (isSchemeChar_kept (hscheme first hhead)).1
  rw [hdrop, List.filter_eq_self]
  intro c hc
  have hsafe : isUnsafe c = false := by
    simp only [Origin.url, List.mem_append] at hc
    rcases hc with ((hc | hc) | hc) | hc
    · exact (isSchemeChar_kept (hscheme c hc)).2.2
    · have hseparator : ∀ c ∈ "://".toList, isUnsafe c = false := List.all_iff_forall_prop.1 (by decide)
      exact hseparator c hc
    · exact (o.authorityChars c hc).2
    · exact hrest c hc
  rw [hsafe]
  rfl

theorem schemeless_origin : schemeless (o.url ++ rest) = "//".toList ++ (o.authority ++ rest) := by
  obtain ⟨first, hfirst, hletter⟩ := o.letter
  obtain ⟨tail, htail⟩ := List.head?_eq_some_iff.1 hfirst
  have hcolon : ∀ c ∈ o.scheme, (c != ':') = true := by
    intro c hc
    simpa using (isSchemeChar_kept (List.all_eq_true.1 o.schemeChars c hc)).2.1
  have hurl : o.url ++ rest = o.scheme ++ (':' :: ("//".toList ++ (o.authority ++ rest))) := by
    simp [Origin.url]
  have hall := o.schemeChars
  rw [hurl, schemeless, List.takeWhile_append_of_pos hcolon, List.dropWhile_append_of_pos hcolon, List.takeWhile_cons_of_neg (by simp),
    List.dropWhile_cons_of_neg (by simp), List.append_nil]
  rw [htail] at hall ⊢
  simp only [hletter, hall, Bool.and_self, if_true]

/-- **The netloc of what is asked of a server.** -/
theorem netloc_origin (hrest : ∀ c ∈ rest, isUnsafe c = false) :
    netloc check (o.url ++ rest) =
      match refusal check (o.authority ++ rest.takeWhile fun c => !isEnd c) with
      | some message => .error message
      | none => .ok (o.authority ++ rest.takeWhile fun c => !isEnd c) := by
  have hauthority : ∀ c ∈ o.authority, (!isEnd c) = true := by
    intro c hc
    rw [(o.authorityChars c hc).1]
    rfl
  have hfound : (o.authority ++ rest).takeWhile (fun c => !(c == '/' || c == '?' || c == '#')) =
      o.authority ++ rest.takeWhile fun c => !isEnd c := List.takeWhile_append_of_pos hauthority
  unfold netloc
  rw [stripped_origin hrest, schemeless_origin]
  change (match refusal check ((o.authority ++ rest).takeWhile fun c => !(c == '/' || c == '?' || c == '#')) with
    | some message => Except.error message
    | none => .ok ((o.authority ++ rest).takeWhile fun c => !(c == '/' || c == '?' || c == '#'))) = _
  rw [hfound]

/-- it is the server's own exactly if what follows cannot be taken for more of it -/
theorem netloc_append (hauthority : refusal check o.authority = none) (hrest : ∀ c ∈ rest, isUnsafe c = false) :
    netloc check (o.url ++ rest) = .ok o.authority ↔ Rooted rest := by
  rw [netloc_origin hrest]
  cases rest with
  | nil => simp [hauthority, Rooted]
  | cons c rest =>
    by_cases hend : isEnd c = true
    · simp [hend, hauthority, Rooted]
    · have hne : o.authority ++ (c :: rest).takeWhile (fun c => !isEnd c) ≠ o.authority := by
        rw [List.takeWhile_cons_of_pos (by simpa using hend)]
        simp
      have hnot : ¬ Rooted (c :: rest) := fun h => hend (h c rfl)
      rw [iff_false_right hnot]
      split
      · exact nofun
      · exact fun h => hne (Except.ok.inj h)

/-- what comes out of a URL has none of the characters that are taken out of it -/
theorem beyond_safe : ∀ c ∈ beyond url, isUnsafe c = false := by
  have hsafe : ∀ c ∈ schemeless ((url.dropWhile fun c => decide (c.toNat ≤ 32)).filter fun c => !isUnsafe c),
      isUnsafe c = false := by
    intro c hc
    have hmem : c ∈ (url.dropWhile fun c => decide (c.toNat ≤ 32)).filter fun c => !isUnsafe c := by
      unfold schemeless at hc
      dsimp only at hc
      split at hc
      · rename_i hrest
        split_ifs at hc
        · exact (List.dropWhile_sublist _).subset (hrest ▸ List.mem_cons_of_mem _ hc)
        · exact hc
      · exact hc
    simpa using (List.mem_filter.1 hmem).2
  intro c hc
  unfold beyond at hc
  split at hc
  · rename_i hrest
    apply hsafe
    rw [hrest]
    exact List.mem_cons_of_mem _ (List.mem_cons_of_mem _ ((List.dropWhile_sublist _).subset hc))
  · exact hsafe c hc

/-- what follows an authority begins like a path, a query or a fragment -/
theorem rooted_beyond (h : HasAuthority url) : Rooted (beyond url) := by
  obtain ⟨rest, hrest⟩ := h
  unfold beyond
  rw [← hrest]
  intro c hc
  have hnot := List.head?_dropWhile_not (fun c => !(c == '/' || c == '?' || c == '#')) rest
  change c ∈ (rest.dropWhile fun c => !(c == '/' || c == '?' || c == '#')).head? at hc
  rw [Option.mem_def] at hc
  rw [hc] at hnot
  have hend : (c == '/' || c == '?' || c == '#') = true := by simpa only [Bool.not_eq_false', Bool.not_not] using hnot
  exact hend

/-- a path with its query -/
def rejoin (path query : List Char) : List Char := path ++ if query = [] then [] else '?' :: query

theorem rejoin_safe (h : pathQuery check url = .ok (path, query)) : ∀ c ∈ rejoin path query, isUnsafe c = false := by
  unfold pathQuery at h
  cases hnetloc : netloc check url with
  | error message =>
    rw [hnetloc] at h
    cases h
  | ok found =>
    rw [hnetloc] at h
    obtain ⟨rfl, rfl⟩ := Prod.mk.inj (Except.ok.inj h)
    have hall : ∀ c ∈ (beyond url).takeWhile (· != '#'), isUnsafe c = false :=
      fun c hc => beyond_safe c ((List.takeWhile_sublist _).subset hc)
    intro c hc
    rcases List.mem_append.1 hc with hc | hc
    · exact hall c ((List.takeWhile_sublist _).subset hc)
    · split_ifs at hc
      · cases hc
      · rcases List.mem_cons.1 hc with rfl | hc
        · rfl
        · exact hall c ((List.dropWhile_sublist _).subset ((List.drop_sublist _ _).subset hc))

theorem rooted_rejoin (h : pathQuery check url = .ok (path, query)) (hroot : Rooted (beyond url)) : Rooted (rejoin path query) := by
  unfold pathQuery at h
  cases hnetloc : netloc check url with
  | error message =>
    rw [hnetloc] at h
    cases h
  | ok found =>
    rw [hnetloc] at h
    obtain ⟨rfl, rfl⟩ := Prod.mk.inj (Except.ok.inj h)
    cases hrest : beyond url with
    | nil => simp [rejoin, Rooted]
    | cons c rest =>
      have hend : isEnd c = true := hroot c (by rw [hrest]; rfl)
      intro d hd
      by_cases hslash : (c != '?' && c != '#') = true
      · -- the path itself is there
        obtain ⟨hquestion, hhash⟩ := Bool.and_eq_true_iff.1 hslash
        simp only [rejoin, List.takeWhile_cons, hhash, hquestion, if_true, List.cons_append, List.head?_cons] at hd
        obtain rfl := Option.some.inj hd
        exact hend
      · have hpath : ((c :: rest).takeWhile (· != '#')).takeWhile (· != '?') = [] := by
          by_cases hhash : (c != '#') = true
          · have hquestion : (c != '?') = false := by simpa [hhash] using hslash
            simp [hhash, hquestion]
          · simp [hhash]
        rw [rejoin, hpath, List.nil_append] at hd
        split_ifs at hd
        · cases hd
        · obtain rfl := Option.some.inj hd
          rfl

end Append

end TrinoManagement.Url
