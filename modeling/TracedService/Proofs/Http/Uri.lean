import TracedService.Http.Uri

/-! What a URI keeps of the text it is read from. A target is kept as it was received, up to the
fragment; an address with a scheme is written out with its path, which ends in the target. -/

namespace TracedService.Http

namespace PathQuery

/-- Up to the fragment, a text is its path and the query behind it. -/
theorem takeWhile_fragment (path s : List Char) : s.takeWhile (· != '#') =
    s.takeWhile (fun c => c != '?' && c != '#') ++
      queryText ⟨path, match s.dropWhile fun c => c != '?' && c != '#' with
        | '?' :: r => some (r.takeWhile (· != '#'))
        | _ => none⟩ := by
  induction s with
  | nil => rfl
  | cons c r ih =>
    by_cases hquery : c = '?'
    · simp [hquery, queryText]
    · by_cases hfragment : c = '#'
      · simp [hfragment, queryText]
      · simp [hquery, hfragment, ih]

variable {foreign : Bool} {s : List Char} {p : PathQuery}

theorem of_read? (h : read? foreign s = some p) :
    p.path = s.takeWhile (fun c => c != '?' && c != '#') ∧
      p.path ++ p.queryText = s.takeWhile (· != '#') := by
  unfold read? at h
  simp only [Option.ite_none_right_eq_some, Option.some.injEq] at h
  rw [← h.2]
  exact ⟨rfl, (takeWhile_fragment _ s).symm⟩

theorem text_of_path (h : p.path ≠ []) : p.text = p.path ++ p.queryText := by
  unfold text
  split
  · rename_i hnone
    exact absurd (List.append_eq_nil_iff.mp hnone).1 h
  · rfl

/-- The target ends what is written behind the host, whether or not the root is spelled out. -/
theorem text_suffix (p : PathQuery) : p.text <:+ p.fullPath ++ p.queryText := by
  by_cases hpath : p.path = []
  · unfold text fullPath
    rw [hpath]
    cases hquery : p.queryText with
    | nil => exact List.suffix_rfl
    | cons c r => exact List.suffix_append ['/'] (c :: r)
  · have hfull : p.fullPath = p.path := if_neg (by simpa using hpath)
    have htext : p.text = p.fullPath ++ p.queryText := by
      rw [text_of_path hpath, hfull]
    exact ⟨[], htext⟩

end PathQuery

namespace Uri

variable {foreign : Bool} {s : List Char} {p : PathQuery}

theorem read_origin (h : read foreign s = .ok (.origin p)) :
    s.head? = some '/' ∧ PathQuery.read? foreign s = some p := by
  unfold read at h
  dsimp only at h
  split at h
  · cases h
  · split at h
    · cases h
    · cases h
    · rename_i r _
      cases htarget : PathQuery.read? foreign ('/' :: r) with
      | none =>
        rw [htarget] at h
        cases h
      | some target =>
        rw [htarget] at h
        obtain rfl := Uri.origin.inj (Except.ok.inj h)
        exact ⟨rfl, rfl⟩
    · rename_i c _ _ _
      cases hlength : authorityLength {} [c] with
      | error e =>
        rw [hlength] at h
        cases h
      | ok n =>
        simp only [hlength, bind, Except.bind] at h
        split at h <;> cases h
    · cases hscheme : scheme s with
      | error e =>
        rw [hscheme] at h
        cases h
      | ok e =>
        obtain ⟨name, rest⟩ := e
        cases hlength : authorityLength {} rest with
        | error e =>
          simp only [hscheme, hlength, bind, Except.bind] at h
          cases h
        | ok n =>
          simp only [hscheme, hlength, bind, Except.bind] at h
          cases name with
          | none =>
            dsimp only at h
            split at h <;> cases h
          | some name =>
            cases htarget : PathQuery.read? foreign (rest.drop n) <;>
              · rw [htarget] at h
                dsimp only at h
                split at h <;> cases h

theorem kept_of_read_origin (h : read foreign s = .ok (.origin p)) :
    p.text = p.path ++ p.queryText ∧ p.path ++ p.queryText = s.takeWhile (· != '#') := by
  obtain ⟨hhead, htarget⟩ := read_origin h
  obtain ⟨hpath, hkept⟩ := PathQuery.of_read? htarget
  refine ⟨PathQuery.text_of_path fun hnone => ?_, hkept⟩
  cases s with
  | nil => cases hhead
  | cons c r =>
    obtain rfl := Option.some.inj hhead
    rw [hnone] at hpath
    cases hpath

theorem target_suffix_text (name host : List Char) (p : PathQuery) :
    (absolute name host p).target <:+ (absolute name host p).text := by
  rw [target, text, List.append_assoc]
  exact p.text_suffix.trans (List.suffix_append ..)

end Uri

end TracedService.Http
