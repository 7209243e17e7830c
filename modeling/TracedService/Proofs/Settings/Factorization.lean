import TracedService.Proofs.Settings.Expansion
import TracedService.Proofs.Text.Utf8

/-! A text is cut at its placeholders in exactly one way. Expansion puts something in for these
placeholders and keeps all else. A text in which whatever is begun is also ended can be expanded by
itself, whatever follows it. -/

namespace TracedService

open Placeholder (read? Proper Occurs Opening)

/-- Pieces of a text: what stands before each placeholder, and what stands behind the last. -/
structure Cut where
  pieces : List (List Char × Placeholder)
  rest : List Char

namespace Cut

/-- The pieces in a row, with something in the places of the placeholders. -/
def fill (cut : Cut) (put : Placeholder → List Char) : List Char :=
  cut.pieces.flatMap (fun piece => piece.1 ++ put piece.2) ++ cut.rest

theorem fill_cons (kept : List Char) (p : Placeholder) (pieces : List (List Char × Placeholder))
    (rest : List Char) (put : Placeholder → List Char) :
    fill ⟨(kept, p) :: pieces, rest⟩ put = kept ++ (put p ++ fill ⟨pieces, rest⟩ put) := by
  simp [fill]

end Cut

namespace Placeholder

variable {s t kept : List Char} {p : Placeholder}

def Starts (s : List Char) : Prop :=
  ∃ p rest, Proper p ∧ s = p.text ++ rest

/-- No placeholder starts in `kept` when `t` follows it. -/
def NoneStarts (kept t : List Char) : Prop :=
  ∀ u, u <:+ kept → u ≠ [] → ¬ Starts (u ++ t)

/-- The text is cut at its placeholders: each is the first that starts behind the one before it, and
behind the last there is none. -/
inductive Cuts : List Char → Cut → Prop
  | last {s : List Char} (none : ¬ Occurs s) : Cuts s ⟨[], s⟩
  | next {kept s : List Char} {p : Placeholder} {pieces : List (List Char × Placeholder)}
      {rest : List Char} (proper : Proper p) (first : NoneStarts kept (p.text ++ s))
      (later : Cuts s ⟨pieces, rest⟩) : Cuts (kept ++ (p.text ++ s)) ⟨(kept, p) :: pieces, rest⟩

theorem starts_iff : Starts s ↔ ∃ p rest, read? s = some (p, rest) := by
  simp only [Starts, read?_eq_some_iff]

theorem not_starts_iff : ¬ Starts s ↔ read? s = none := by
  rw [starts_iff]
  cases read? s with
  | none => simp
  | some pr =>
    obtain ⟨p, rest⟩ := pr
    simp

theorem starts_text_append (h : Proper p) (rest : List Char) : Starts (p.text ++ rest) :=
  ⟨p, rest, h, rfl⟩

/-- A placeholder that occurs starts behind something. -/
theorem not_occurs_iff : ¬ Occurs s ↔ NoneStarts s [] := by
  constructor
  · rintro h u ⟨before, rfl⟩ - ⟨p, after, hp, hu⟩
    rw [List.append_nil] at hu
    exact h ⟨before, p, after, hp, by rw [hu, List.append_assoc]⟩
  · rintro h ⟨before, p, after, hp, rfl⟩
    refine h (p.text ++ after) ⟨before, by simp⟩ ?_ ⟨p, after, hp, by simp⟩
    simp [text]

theorem noneStarts_nil (t : List Char) : NoneStarts [] t := by
  intro u hu hne
  exact absurd (List.suffix_nil.mp hu) hne

theorem noneStarts_cons {c : Char} :
    NoneStarts (c :: kept) t ↔ ¬ Starts (c :: (kept ++ t)) ∧ NoneStarts kept t := by
  constructor
  · intro h
    exact ⟨h (c :: kept) List.suffix_rfl (by simp),
      fun u hu => h u (hu.trans (List.suffix_cons c kept))⟩
  · rintro ⟨hc, h⟩ u hu hne
    rcases List.suffix_cons_iff.mp hu with rfl | hu
    · exact hc
    · exact h u hu hne

/-- Two texts in which no placeholder starts are equal if a placeholder follows on both. -/
theorem eq_of_noneStarts {kept' s s' : List Char} {p' : Placeholder} (hp : Proper p)
    (hp' : Proper p') (h : NoneStarts kept (p.text ++ s)) (h' : NoneStarts kept' (p'.text ++ s'))
    (heq : kept ++ (p.text ++ s) = kept' ++ (p'.text ++ s')) :
    kept = kept' ∧ p = p' ∧ s = s' := by
  have hkept : kept = kept' := by
    rcases List.append_eq_append_iff.mp heq with ⟨u, rfl, hu⟩ | ⟨u, rfl, hu⟩
    · by_cases hnil : u = []
      · rw [hnil, List.append_nil]
      · exact absurd (hu ▸ starts_text_append hp s) (h' u (List.suffix_append _ _) hnil)
    · by_cases hnil : u = []
      · rw [hnil, List.append_nil]
      · exact absurd (hu ▸ starts_text_append hp' s') (h u (List.suffix_append _ _) hnil)
  subst hkept
  have hread : read? (p'.text ++ s') = some (p, s) := by
    rw [← List.append_cancel_left heq]
    exact read?_text_append hp s
  rw [read?_text_append hp' s'] at hread
  cases hread
  exact ⟨rfl, rfl, rfl⟩

namespace Cuts

variable {cut cut' : Cut}

theorem fill_text (h : Cuts s cut) : cut.fill text = s := by
  induction h with
  | last => rfl
  | next proper first later ih => rw [Cut.fill_cons, ih]

theorem unique (h : Cuts s cut) (h' : Cuts s cut') : cut' = cut := by
  induction h generalizing cut' with
  | @last s none =>
    cases h' with
    | last => rfl
    | @next kept s p _ _ proper => exact absurd ⟨kept, p, s, proper, by simp⟩ none
  | @next kept s p pieces rest proper first later ih =>
    generalize ht : kept ++ (p.text ++ s) = t at h'
    cases h' with
    | last none => exact absurd ⟨kept, p, s, proper, by simp [← ht]⟩ none
    | next proper' first' later' =>
      obtain ⟨rfl, rfl, rfl⟩ := eq_of_noneStarts proper proper' first first' ht
      cases ih later'
      rfl

end Cuts

theorem exists_cuts (s : List Char) : ∃ cut, Cuts s cut := by
  induction s using Settings.expand.induct with
  | case1 s p rest hread ih =>
    obtain ⟨⟨pieces, last⟩, hlater⟩ := ih
    obtain ⟨proper, rfl⟩ := read?_eq_some_iff.mp hread
    exact ⟨_, .next proper (noneStarts_nil _) hlater⟩
  | case2 => exact ⟨_, .last (not_occurs_iff.mpr (noneStarts_nil _))⟩
  | case3 c s hread ih =>
    have hc : ¬ Starts (c :: s) := not_starts_iff.mpr hread
    obtain ⟨cut, hcut⟩ := ih
    cases hcut with
    | last none =>
      refine ⟨_, .last (not_occurs_iff.mpr (noneStarts_cons.mpr ⟨?_, not_occurs_iff.mp none⟩))⟩
      rwa [List.append_nil]
    | @next kept s p pieces rest proper first later =>
      have hcut := Cuts.next proper (noneStarts_cons.mpr ⟨hc, first⟩) later
      exact ⟨_, hcut⟩

/-- The bytes of the variable are no text, or there are none. -/
def Unreadable (env : Environment) (p : Placeholder) : Prop :=
  ∀ v, env.bytes? (String.ofList p.name) ≠ some (Text.Utf8.encode v)

/-- What is put in for a placeholder: the text that the variable's bytes are in UTF-8, which may be
empty; else the default as it is written; else nothing. -/
inductive Gives (env : Environment) (p : Placeholder) : List Char → Prop
  | value (v : List Char) (set : env.bytes? (String.ofList p.name) = some (Text.Utf8.encode v)) :
      Gives env p v
  | default (d : List Char) (unset : Unreadable env p) (written : p.default = some d) :
      Gives env p d
  | nothing (unset : Unreadable env p) (bare : p.default = none) : Gives env p []

theorem unset_of_unreadable {env : Environment} (h : Unreadable env p) :
    Settings.Unset env p.name := by
  rw [Settings.Unset, Option.eq_none_iff_forall_ne_some]
  intro v hv
  exact h v.toList (Environment.text?_eq_some_iff.mp hv)

theorem value_of_gives {env : Environment} {v : List Char} (h : Gives env p v) :
    p.value env = v := by
  cases h with
  | value v set =>
    have htext : env.text? (String.ofList p.name) = some (String.ofList v) := by
      rw [Environment.text?_eq_some_iff, set, Text.Utf8.encodeText, String.toList_ofList]
    rw [value, htext]
    exact String.toList_ofList
  | default d unset written =>
    rw [Settings.value_of_unset (unset_of_unreadable unset), written, Option.getD_some]
  | nothing unset bare =>
    rw [Settings.value_of_unset (unset_of_unreadable unset), bare, Option.getD_none]

theorem gives_value (env : Environment) (p : Placeholder) : Gives env p (p.value env) := by
  by_cases hset : ∃ v, env.bytes? (String.ofList p.name) = some (Text.Utf8.encode v)
  · obtain ⟨v, set⟩ := hset
    have hgives : Gives env p v := .value v set
    rwa [value_of_gives hgives]
  · have unset : Unreadable env p := not_exists.mp hset
    rw [Settings.value_of_unset (unset_of_unreadable unset)]
    cases hdefault : p.default with
    | none => exact .nothing unset hdefault
    | some d => exact .default d unset hdefault

theorem gives_iff {env : Environment} {v : List Char} : Gives env p v ↔ p.value env = v :=
  ⟨value_of_gives, fun h => h ▸ gives_value env p⟩

end Placeholder

namespace Settings

open Placeholder (NoneStarts Cuts Gives)

variable {env : Environment} {s t kept : List Char} {cut : Cut}

theorem expand_of_noneStarts (h : NoneStarts kept t) :
    expand env (kept ++ t) = kept ++ expand env t := by
  induction kept with
  | nil => rfl
  | cons c kept ih =>
    obtain ⟨hc, hkept⟩ := Placeholder.noneStarts_cons.mp h
    rw [List.cons_append, expand_of_none (Placeholder.not_starts_iff.mp hc), ih hkept,
      List.cons_append]

theorem expand_of_cuts (h : Cuts s cut) : expand env s = cut.fill (Placeholder.value env) := by
  induction h with
  | @last s none =>
    have hkept : expand env (s ++ []) = s ++ expand env [] :=
      expand_of_noneStarts (Placeholder.not_occurs_iff.mp none)
    rwa [List.append_nil, expand_nil, List.append_nil] at hkept
  | next proper first later ih =>
    rw [expand_of_noneStarts first, expand_of_some (Placeholder.read?_text_append proper _), ih,
      Cut.fill_cons]

/-- A text is cut at its placeholders in one way, and expansion puts in what each of them gives. -/
theorem expand_eq_fill (s : List Char) :
    ∃ cut : Cut, Cuts s cut ∧ (∀ cut', Cuts s cut' → cut' = cut) ∧ cut.fill Placeholder.text = s ∧
      ∀ env : Environment, ∃ put : Placeholder → List Char,
        (∀ p v, Gives env p v ↔ put p = v) ∧ expand env s = cut.fill put := by
  obtain ⟨cut, hcut⟩ := Placeholder.exists_cuts s
  refine ⟨cut, hcut, fun cut' hcut' => hcut.unique hcut', hcut.fill_text, fun env => ?_⟩
  exact ⟨Placeholder.value env, fun p v => Placeholder.gives_iff, expand_of_cuts hcut⟩

/-- Wherever a dollar sign and a brace stand, a closing brace follows. -/
def Braced (a : List Char) : Prop :=
  ∀ after, '$' :: '\x7b' :: after <:+ a → '\x7d' ∈ after

/-- What is begun in the text is ended in it, and nothing can begin with its last character. -/
structure Closed (a : List Char) : Prop where
  last : a.getLast? ≠ some '$'
  braced : Braced a

theorem braced_nil : Braced [] := by
  intro after h
  simp at h

theorem braced_cons {c : Char} {r : List Char} :
    Braced (c :: r) ↔ (c = '$' → r.head? = some '\x7b' → '\x7d' ∈ r.tail) ∧ Braced r := by
  simp only [Braced, List.suffix_cons_iff, or_imp, forall_and]
  refine and_congr_left fun _ => ?_
  cases r with
  | nil => simp
  | cons d r => simp [eq_comm]

instance decidableBraced : DecidablePred Braced
  | [] => isTrue braced_nil
  | _ :: r => @decidable_of_iff _ _ braced_cons.symm (@instDecidableAnd _ _ _ (decidableBraced r))

instance : DecidablePred Closed := fun a =>
  decidable_of_iff (a.getLast? ≠ some '$' ∧ Braced a)
    ⟨fun ⟨last, braced⟩ => ⟨last, braced⟩, fun h => ⟨h.last, h.braced⟩⟩

variable {a : List Char}

theorem Closed.of_suffix {u : List Char} (h : Closed a) (hu : u <:+ a) : Closed u where
  last hlast := by
    obtain ⟨before, rfl⟩ := hu
    refine h.last ?_
    rw [List.getLast?_append, hlast]
    rfl
  braced after hafter := h.braced after (hafter.trans hu)

/-- The beginning of a placeholder is not closed before its end. -/
theorem not_closed_of_opening (h : Opening a) : ¬ Closed a := by
  intro hclosed
  have hname {n : List Char} (hn : Placeholder.IsName n) : '\x7d' ∉ n := by
    intro hmem
    have := hn.all _ hmem
    revert this
    decide
  cases h with
  | dollar => exact hclosed.last rfl
  | brace => exact absurd (hclosed.braced [] List.suffix_rfl) List.not_mem_nil
  | name hn => exact hname hn (hclosed.braced _ List.suffix_rfl)
  | @colon n hn =>
    have hmem := hclosed.braced (n ++ [':']) List.suffix_rfl
    simp [hname hn] at hmem
  | @default n d hn hd =>
    have hmem := hclosed.braced (n ++ ':' :: '-' :: d) List.suffix_rfl
    simp [hname hn, hd] at hmem

/-- A placeholder that starts in a closed text ends in it. -/
theorem read?_append_of_closed (h : Closed a) (hne : a ≠ []) (b : List Char) :
    Placeholder.read? (a ++ b) = (Placeholder.read? a).map fun pr => (pr.1, pr.2 ++ b) := by
  cases hread : Placeholder.read? a with
  | some pr =>
    obtain ⟨p, rest⟩ := pr
    obtain ⟨proper, rfl⟩ := Placeholder.of_read? hread
    rw [List.append_assoc, Placeholder.read?_text_append proper]
    rfl
  | none =>
    refine Option.eq_none_iff_forall_ne_some.mpr ?_
    rintro ⟨p, rest⟩ hlater
    obtain ⟨proper, htext⟩ := Placeholder.of_read? hlater
    rcases List.append_eq_append_iff.mp htext with ⟨v, hv, -⟩ | ⟨v, hv, -⟩
    · by_cases hnil : v = []
      · have hall := Placeholder.read?_text_append proper []
        rw [List.append_nil, hv, hnil, List.append_nil, hread] at hall
        cases hall
      · exact not_closed_of_opening (Opening.of_append proper hv hne hnil) h
    · rw [hv, Placeholder.read?_text_append proper] at hread
      cases hread

/-- A closed text is expanded by itself, whatever follows it. -/
theorem expand_append (h : Closed a) (b : List Char) :
    expand env (a ++ b) = expand env a ++ expand env b := by
  induction a using expand.induct with
  | case1 a p rest hread ih =>
    obtain ⟨proper, rfl⟩ := Placeholder.of_read? hread
    rw [List.append_assoc, expand_of_some (Placeholder.read?_text_append proper _),
      expand_of_some hread, ih (h.of_suffix (List.suffix_append _ _)), List.append_assoc]
  | case2 => rw [expand_nil, List.nil_append, List.nil_append]
  | case3 c a hread ih =>
    have hnone : Placeholder.read? (c :: (a ++ b)) = none := by
      rw [← List.cons_append, read?_append_of_closed h (by simp), hread]
      rfl
    rw [List.cons_append, expand_of_none hnone, expand_of_none hread,
      ih (h.of_suffix (List.suffix_cons _ _)), List.cons_append]

/-- A brace without a name and a dollar sign in a default are closed, though what follows is not. -/
theorem expand_append_unnamed :
    Closed "$\x7b1\x7d at $\x7bHOST:-$home\x7d".toList ∧
      ∀ env, expand env ("$\x7b1\x7d at $\x7bHOST:-$home\x7d".toList ++ "\x7d:$\x7bPORT".toList) =
        expand env "$\x7b1\x7d at $\x7bHOST:-$home\x7d".toList ++
          expand env "\x7d:$\x7bPORT".toList := by
  have hclosed : Closed "$\x7b1\x7d at $\x7bHOST:-$home\x7d".toList := by
    decide +kernel
  exact ⟨hclosed, fun env => expand_append hclosed _⟩

end Settings

end TracedService
