import TracedService.Proofs.Settings.Placeholder
import TracedService.Proofs.Text.Codes

/-! Placeholders that outlive expansion. What is put in is not read again, so that a new placeholder
can come together where an opening is left standing and a value follows it. -/

namespace TracedService

/-- No variable has a dollar sign in its value. -/
def Environment.DollarFree (env : Environment) : Prop :=
  ∀ name v, env.text? name = some v → '$' ∉ v.toList

namespace Settings

open Placeholder (read? Proper Occurs Opening EndsOpen)

variable {env env' : Environment} {ok ok' : List Char → Prop}
  {s s₁ s₂ out out' rest : List Char} {p : Placeholder}

/-- `s` is expanded to `out` down to `rest`, through placeholders whose names are admitted. -/
inductive Expands (env : Environment) (ok : List Char → Prop) :
    List Char → List Char → List Char → Prop
  | done (s : List Char) : Expands env ok s [] s
  | keep {c : Char} {s out rest : List Char} (h : read? (c :: s) = none)
      (k : Expands env ok s out rest) : Expands env ok (c :: s) (c :: out) rest
  | put {s s' out rest : List Char} {p : Placeholder} (h : read? s = some (p, s')) (hp : ok p.name)
      (k : Expands env ok s' out rest) : Expands env ok s (p.value env ++ out) rest

def Unset (env : Environment) (name : List Char) : Prop :=
  env.text? (String.ofList name) = none

theorem expand_nil : expand env [] = [] := by
  rw [expand]
  rfl

theorem expand_of_none {c : Char} (h : read? (c :: s) = none) :
    expand env (c :: s) = c :: expand env s := by
  rw [expand]
  split
  · rename_i hr
    rw [h] at hr
    cases hr
  · rfl

theorem expand_of_some (h : read? s = some (p, rest)) :
    expand env s = p.value env ++ expand env rest := by
  rw [expand]
  split
  · rename_i hr
    rw [h] at hr
    cases hr
    rfl
  · rename_i hr
    rw [h] at hr
    cases hr

namespace Expands

theorem expand_eq (h : Expands env ok s out rest) : expand env s = out ++ expand env rest := by
  induction h with
  | done => rfl
  | keep h _ ih => rw [expand_of_none h, ih, List.cons_append]
  | put h _ _ ih => rw [expand_of_some h, ih, List.append_assoc]

theorem trans (h : Expands env ok s out s₁) (k : Expands env ok s₁ out' s₂) :
    Expands env ok s (out ++ out') s₂ := by
  induction h with
  | done => exact k
  | keep h _ ih => exact .keep h (ih k)
  | put h hp _ ih =>
    rw [List.append_assoc]
    exact .put h hp (ih k)

/-- The same is put out wherever the admitted variables have the same values. -/
theorem congr (h : Expands env ok s out rest)
    (hok : ∀ p : Placeholder, ok p.name → ok' p.name ∧ p.value env = p.value env') :
    Expands env' ok' s out rest := by
  induction h with
  | done => exact .done _
  | keep h _ ih => exact .keep h ih
  | put h hp _ ih =>
    rw [(hok _ hp).2]
    exact .put h (hok _ hp).1 ih

/-- What is reached in one environment is reached in every other. -/
theorem reaches (h : Expands env ok s out rest) (env' : Environment) :
    ∃ out', Expands env' ok s out' rest := by
  induction h with
  | done => exact ⟨[], .done _⟩
  | keep h _ ih =>
    obtain ⟨out', k⟩ := ih
    exact ⟨_, .keep h k⟩
  | put h hp _ ih =>
    obtain ⟨out', k⟩ := ih
    exact ⟨_, .put h hp k⟩

end Expands

/-- Expansion goes on without any value up to a placeholder whose variable is set, or to the end. -/
theorem expands_unset (env : Environment) (s : List Char) :
    ∃ out s', Expands env (Unset env) s out s' ∧
      (s' = [] ∨ ∃ p rest, read? s' = some (p, rest) ∧ ¬ Unset env p.name) := by
  induction s using expand.induct with
  | case1 s p rest h ih =>
    by_cases hp : Unset env p.name
    · obtain ⟨out, s', k, hs'⟩ := ih
      exact ⟨_, s', .put h hp k, hs'⟩
    · exact ⟨[], s, .done s, .inr ⟨p, rest, h, hp⟩⟩
  | case2 => exact ⟨[], [], .done [], .inl rfl⟩
  | case3 c s h ih =>
    obtain ⟨out, s', k, hs'⟩ := ih
    exact ⟨c :: out, s', .keep h k, hs'⟩

/-- Where no value has a dollar sign, a text that starts with one and ends the expansion starts in
what was kept or in a default that was put in. -/
theorem dollar_of_expand (henv : env.DollarFree) {before y : List Char}
    (h : expand env s = before ++ '$' :: y) :
    ∃ pre s₁ w u s₂, Expands env (fun _ => True) s pre s₁ ∧
      Expands env (Unset env) s₁ (w ++ u) s₂ ∧ u ≠ [] ∧ '$' :: y = u ++ expand env s₂ := by
  induction s using expand.induct generalizing before with
  | case1 s p rest hread ih =>
    rw [expand_of_some hread] at h
    have later {b : List Char} (hb : expand env rest = b ++ '$' :: y) :
        ∃ pre s₁ w u s₂, Expands env (fun _ => True) s pre s₁ ∧
          Expands env (Unset env) s₁ (w ++ u) s₂ ∧ u ≠ [] ∧ '$' :: y = u ++ expand env s₂ := by
      obtain ⟨pre, s₁, w, u, s₂, hreach, hstep⟩ := ih hb
      exact ⟨_, s₁, w, u, s₂, .put hread trivial hreach, hstep⟩
    rcases List.append_eq_append_iff.mp h with ⟨b, -, hb⟩ | ⟨u, hv, hu⟩
    · exact later hb
    · by_cases hnil : u = []
      · rw [hnil, List.nil_append] at hu
        exact @later [] hu.symm
      · refine ⟨[], s, before, u, rest, .done s, ?_, hnil, hu⟩
        have hmem : '$' ∈ p.value env := by
          obtain ⟨c, u', rfl⟩ := List.exists_cons_of_ne_nil hnil
          rw [List.cons_append, List.cons.injEq] at hu
          rw [hv, hu.1]
          simp
        have hunset : Unset env p.name := by
          unfold Unset
          unfold Placeholder.value at hmem
          cases hp : env.text? (String.ofList p.name) with
          | none => rfl
          | some v =>
            rw [hp] at hmem
            exact absurd hmem (henv _ v hp)
        have hput : Expands env (Unset env) s (p.value env ++ []) rest :=
          .put hread hunset (.done rest)
        rwa [hv, List.append_nil] at hput
  | case2 =>
    rw [expand_nil] at h
    simp at h
  | case3 c s hread ih =>
    rw [expand_of_none hread] at h
    cases before with
    | nil => exact ⟨[], c :: s, [], [c], s, .done _, .keep hread (.done s), by simp, h.symm⟩
    | cons b before =>
      rw [List.cons_append, List.cons.injEq] at h
      obtain ⟨pre, s₁, w, u, s₂, hreach, hstep⟩ := ih h.2
      exact ⟨_, s₁, w, u, s₂, .keep hread hreach, hstep⟩

/-- From some place of `s` on, `out` is all that comes before the placeholder `p` when no other
variable is set: between them stand kept text and placeholders of other names. -/
def Precedes (s out : List Char) (p : Placeholder) : Prop :=
  ∃ pre s₁ s₂ rest, Expands {} (fun _ => True) s pre s₁ ∧ Expands {} (· ≠ p.name) s₁ out s₂ ∧
    read? s₂ = some (p, rest)

theorem value_of_unset (h : Unset env p.name) : p.value env = p.default.getD [] := by
  rw [Placeholder.value, h]

theorem unset_empty (name : List Char) : Unset {} name := rfl

/-- A placeholder that is left over is there without any variable, or one is left open before a
placeholder that is replaced. -/
theorem precedes_of_occurs (henv : env.DollarFree) (h : Occurs (expand env s))
    (hempty : ¬ Occurs (expand {} s)) : ∃ out p, Precedes s out p ∧ EndsOpen out := by
  obtain ⟨before, q, after, hq, heq⟩ := h
  have hcons : q.text ++ after = '$' :: (q.text.tail ++ after) := rfl
  rw [List.append_assoc, hcons] at heq
  obtain ⟨pre, s₁, w, u, s₂, hreach, hstep, hu, hy⟩ := dollar_of_expand henv heq
  obtain ⟨out, s₃, hrun, hs₃⟩ := expands_unset env s₂
  obtain ⟨pre', hreach'⟩ := hreach.reaches {}
  -- The stretch is the same in every environment in which its variables are unset.
  have hstretch : Expands env (Unset env) s₁ (w ++ (u ++ out)) s₃ := by
    rw [← List.append_assoc]
    exact hstep.trans hrun
  have hsame (p : Placeholder) (hp : Unset env p.name) : p.value env = p.value {} := by
    rw [value_of_unset hp, value_of_unset (unset_empty _)]
  have hbare : Expands {} (fun _ => True) s₁ (w ++ (u ++ out)) s₃ :=
    hstretch.congr fun p hp => ⟨trivial, hsame p hp⟩
  have incomplete (v : List Char) : u ++ out ≠ q.text ++ v := by
    intro hv
    refine hempty ⟨pre' ++ w, q, v ++ expand {} s₃, hq, ?_⟩
    rw [hreach'.expand_eq, hbare.expand_eq, hv]
    simp
  rw [← hcons, hrun.expand_eq, ← List.append_assoc] at hy
  rcases List.append_eq_append_iff.mp hy with ⟨v, hv, -⟩ | ⟨v, hv, hafter⟩
  · exact absurd hv (incomplete v)
  · by_cases hnil : v = []
    · exact absurd (by rw [hv, hnil]; simp) (incomplete [])
    · obtain ⟨p, rest, hp, hset⟩ : ∃ p rest, read? s₃ = some (p, rest) ∧ ¬ Unset env p.name := by
        rcases hs₃ with rfl | hp
        · rw [expand_nil] at hafter
          exact absurd (List.append_eq_nil_iff.mp hafter.symm).1 hnil
        · exact hp
      refine ⟨_, p, ⟨pre', s₁, s₃, rest, hreach', hstretch.congr ?_, hp⟩,
        u ++ out, .of_append hq hv ?_ hnil, List.suffix_append _ _⟩
      · intro p' hp'
        exact ⟨fun heq => hset (heq ▸ hp'), hsame p' hp'⟩
      · exact fun heq => hu (List.append_eq_nil_iff.mp heq).1

def only (name v : List Char) : Environment :=
  ⟨[(String.ofList name, Text.Utf8.encode v)]⟩

theorem text?_only {name v : List Char} (hv : ∀ c ∈ v, Text.isAscii c = true) (name' : String) :
    (only name v).text? name' =
      if name' = String.ofList name then some (String.ofList v) else none := by
  have hdecode : Text.Utf8.decodeText? (Text.Utf8.encode v) = some (String.ofList v) := by
    rw [Text.Utf8.encode_of_isAscii hv, Text.Utf8.decodeText?, Text.Utf8.decode?_of_isAscii hv]
    rfl
  by_cases h : name' = String.ofList name
  · simp [only, Environment.text?, Environment.bytes?, h, hdecode]
  · simp [only, Environment.text?, Environment.bytes?, h, Ne.symm h]

/-- An opening that is left standing before a placeholder becomes a placeholder of its own once that
one's variable has the right value. -/
theorem occurs_of_precedes (h : Precedes s out p) (hopen : EndsOpen out) :
    ∃ env : Environment, env.DollarFree ∧ Occurs (expand env s) := by
  obtain ⟨pre, s₁, s₂, rest, hreach, hstretch, hread⟩ := h
  obtain ⟨u, hu, w, rfl⟩ := hopen
  obtain ⟨v, hascii, hdollar, q, hq, huv⟩ := hu.completed
  have htext (name : String) : (only p.name v).text? name =
      if name = String.ofList p.name then some (String.ofList v) else none :=
    text?_only hascii name
  refine ⟨only p.name v, ?_, ?_⟩
  · intro name v' hv'
    rw [htext] at hv'
    split at hv'
    · cases hv'
      simpa using hdollar
    · cases hv'
  · obtain ⟨pre', hreach'⟩ := hreach.reaches (only p.name v)
    have hunset (p' : Placeholder) (hp' : p'.name ≠ p.name) : Unset (only p.name v) p'.name := by
      rw [Unset, htext, if_neg fun heq => hp' (String.ofList_injective heq)]
    have hstretch' : Expands (only p.name v) (· ≠ p.name) s₁ (w ++ u) s₂ := by
      refine hstretch.congr fun p' hp' => ⟨hp', ?_⟩
      rw [value_of_unset (hunset p' hp'), value_of_unset (unset_empty _)]
    have hvalue : p.value (only p.name v) = v := by
      rw [Placeholder.value, htext, if_pos rfl]
      simp
    refine ⟨pre' ++ w, q, expand (only p.name v) rest, hq, ?_⟩
    rw [hreach'.expand_eq, hstretch'.expand_eq, expand_of_some hread, hvalue, ← huv]
    simp

/-- Expansion leaves no placeholder in any environment without dollar signs exactly if it leaves
none where nothing is set, and no opening is left standing before a placeholder. -/
theorem not_occurs_expand_iff (s : List Char) :
    (∀ env : Environment, env.DollarFree → ¬ Occurs (expand env s)) ↔
      ¬ Occurs (expand {} s) ∧ ∀ out p, Precedes s out p → ¬ EndsOpen out := by
  constructor
  · intro h
    refine ⟨h {} nofun, fun out p hp hopen => ?_⟩
    obtain ⟨env, henv, hoccurs⟩ := occurs_of_precedes hp hopen
    exact h env henv hoccurs
  · rintro ⟨hempty, hclosed⟩ env henv hoccurs
    obtain ⟨out, p, hp, hopen⟩ := precedes_of_occurs henv hoccurs hempty
    exact hclosed out p hp hopen

/-- A placeholder in a default is left over when neither variable is set. -/
theorem occurs_expand_nested :
    expand {} "tool: $\x7bTOOL:-$\x7bBACKEND\x7d\x7d".toList = "tool: $\x7bBACKEND\x7d".toList ∧
      Environment.DollarFree {} ∧
      Occurs (expand {} "tool: $\x7bTOOL:-$\x7bBACKEND\x7d\x7d".toList) := by
  have hread : read? "$\x7bTOOL:-$\x7bBACKEND\x7d\x7d".toList =
      some (⟨"TOOL".toList, some "$\x7bBACKEND".toList⟩, ['\x7d']) := by
    decide +kernel
  have hplaceholder : Expands {} (fun _ => True) "$\x7bTOOL:-$\x7bBACKEND\x7d\x7d".toList
      "$\x7bBACKEND\x7d".toList [] :=
    .put hread trivial (.keep (by decide +kernel) (.done []))
  have hkept : Expands {} (fun _ => True) "tool: $\x7bTOOL:-$\x7bBACKEND\x7d\x7d".toList
      "tool: $\x7bBACKEND\x7d".toList [] :=
    .keep (by decide +kernel) (.keep (by decide +kernel) (.keep (by decide +kernel)
      (.keep (by decide +kernel) (.keep (by decide +kernel) (.keep (by decide +kernel)
        hplaceholder)))))
  have hexpand : expand {} "tool: $\x7bTOOL:-$\x7bBACKEND\x7d\x7d".toList =
      "tool: $\x7bBACKEND\x7d".toList := by
    rw [hkept.expand_eq, expand_nil, List.append_nil]
  refine ⟨hexpand, ?_, "tool: ".toList, ⟨"BACKEND".toList, none⟩, [], ⟨?_, ?_⟩, ?_⟩
  · intro name v hv
    cases hv
  · exact ⟨'B', "ACKEND".toList, by decide +kernel, by decide,
      List.all_eq_true.mp (by decide +kernel)⟩
  · intro d hd
    cases hd
  · rw [hexpand]
    decide +kernel

end Settings

end TracedService
