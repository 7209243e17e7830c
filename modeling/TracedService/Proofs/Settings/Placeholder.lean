import TracedService.Settings.Expansion

/-! The written form of placeholders: what is read is what is written, and what can stand of one
before it is complete. -/

namespace TracedService.Placeholder

/-- A name as it is written. -/
def IsName (name : List Char) : Prop :=
  ∃ c r, name = c :: r ∧ isNameStart c = true ∧ ∀ d ∈ r, isNameChar d = true

instance : DecidablePred IsName
  | [] => isFalse nofun
  | c :: r => decidable_of_iff (isNameStart c = true ∧ r.all isNameChar = true) <| by
      rw [List.all_eq_true]
      constructor
      · rintro ⟨hc, hr⟩
        exact ⟨c, r, rfl, hc, hr⟩
      · rintro ⟨_, _, heq, hc, hr⟩
        cases heq
        exact ⟨hc, hr⟩

/-- A placeholder that can be written: its default does not close it. -/
structure Proper (p : Placeholder) : Prop where
  name : IsName p.name
  default : ∀ d ∈ p.default, '\x7d' ∉ d

instance (p : Placeholder) : Decidable (Proper p) :=
  decidable_of_iff (IsName p.name ∧ ∀ d ∈ p.default, '\x7d' ∉ d)
    ⟨fun ⟨hname, hdefault⟩ => ⟨hname, hdefault⟩, fun h => ⟨h.name, h.default⟩⟩

/-- A placeholder stands somewhere in the text. -/
def Occurs (s : List Char) : Prop :=
  ∃ before p after, Proper p ∧ s = before ++ p.text ++ after

variable {p : Placeholder} {s rest n : List Char}

theorem IsName.all (h : IsName n) : ∀ c ∈ n, isNameChar c = true := by
  obtain ⟨c, r, rfl, hc, hr⟩ := h
  intro d hd
  rcases List.mem_cons.mp hd with rfl | hd
  · simp [isNameChar, hc]
  · exact hr d hd

private theorem take_and_drop {f : Char → Bool} {a : List Char} {c : Char} {b : List Char}
    (ha : ∀ d ∈ a, f d = true) (hc : f c = false) :
    (a ++ c :: b).takeWhile f = a ∧ (a ++ c :: b).dropWhile f = c :: b := by
  rw [List.takeWhile_append_of_pos ha, List.dropWhile_append_of_pos ha]
  simp [hc]

theorem read?_text_append (h : Proper p) (rest : List Char) :
    read? (p.text ++ rest) = some (p, rest) := by
  obtain ⟨name, default⟩ := p
  obtain ⟨c, r, hn, hc, hr⟩ := h.name
  obtain rfl : name = c :: r := hn
  cases default with
  | none =>
    have hsplit := @take_and_drop _ r _ rest hr (show isNameChar '\x7d' = false by decide)
    simp [text, read?, hc, hsplit]
  | some d =>
    have hd : ∀ e ∈ d, (e != '\x7d') = true := by
      intro e he
      exact bne_iff_ne.mpr fun heq => h.default d rfl (heq ▸ he)
    have hsplit := @take_and_drop _ r _ ('-' :: (d ++ '\x7d' :: rest)) hr
      (show isNameChar ':' = false by decide)
    have hclosed := @take_and_drop _ d _ rest hd (show ('\x7d' != '\x7d') = false by decide)
    simp [text, read?, hc, hsplit, hclosed]

theorem of_read? (h : read? s = some (p, rest)) : Proper p ∧ s = p.text ++ rest := by
  unfold read? at h
  split at h
  · rename_i c r
    split at h
    · rename_i hc
      have hname : IsName (c :: r.takeWhile isNameChar) :=
        ⟨c, _, rfl, hc, List.all_eq_true.mp List.all_takeWhile⟩
      have hr : r.takeWhile isNameChar ++ r.dropWhile isNameChar = r :=
        List.takeWhile_append_dropWhile
      split at h
      · rename_i hdrop
        rw [hdrop] at hr
        cases h
        exact ⟨⟨hname, nofun⟩, by simp [text, hr]⟩
      · rename_i r' hdrop
        rw [hdrop] at hr
        have hr' : r'.takeWhile (· != '\x7d') ++ r'.dropWhile (· != '\x7d') = r' :=
          List.takeWhile_append_dropWhile
        split at h
        · rename_i e _ hdrop'
          have he : e = '\x7d' := by
            have := List.head?_dropWhile_not (· != '\x7d') r'
            rw [hdrop'] at this
            simpa using this
          subst he
          rw [hdrop'] at hr'
          cases h
          refine ⟨⟨hname, ?_⟩, by simp [text, hr', hr]⟩
          intro d hd hmem
          cases hd
          exact absurd (List.all_eq_true.mp List.all_takeWhile _ hmem) (by simp)
        · cases h
      · cases h
    · cases h
  · cases h

theorem read?_eq_some_iff : read? s = some (p, rest) ↔ Proper p ∧ s = p.text ++ rest := by
  constructor
  · exact of_read?
  · rintro ⟨hp, rfl⟩
    exact read?_text_append hp rest

/-- What can be written of a placeholder before its closing brace. -/
inductive Opening : List Char → Prop
  | dollar : Opening ['$']
  | brace : Opening ['$', '\x7b']
  | name {n : List Char} (hn : IsName n) : Opening ('$' :: '\x7b' :: n)
  | colon {n : List Char} (hn : IsName n) : Opening ('$' :: '\x7b' :: n ++ [':'])
  | default {n d : List Char} (hn : IsName n) (hd : '\x7d' ∉ d) :
      Opening ('$' :: '\x7b' :: n ++ ':' :: '-' :: d)

/-- The text ends in the beginning of a placeholder. -/
def EndsOpen (s : List Char) : Prop :=
  ∃ u, Opening u ∧ u <:+ s

theorem IsName.of_append {a b : List Char} (h : IsName (a ++ b)) (ha : a ≠ []) : IsName a := by
  obtain ⟨c, r, hcr, hc, hr⟩ := h
  cases a with
  | nil => exact absurd rfl ha
  | cons d a =>
    simp only [List.cons_append, List.cons.injEq] at hcr
    obtain ⟨rfl, rfl⟩ := hcr
    exact ⟨d, a, rfl, hc, fun e he => hr e (List.mem_append_left b he)⟩

/-- Behind the name there is the closing brace, or a colon, a dash and the default before it. -/
private theorem Opening.of_tail {default : Option (List Char)} {b v : List Char}
    (h : (match default with
      | some d => ':' :: '-' :: d
      | none => []) ++ ['\x7d'] = b ++ v) (hn : IsName n)
    (hd : ∀ d ∈ default, '\x7d' ∉ d) (hv : v ≠ []) : Opening ('$' :: '\x7b' :: n ++ b) := by
  have hnil (b : List Char) (h : ['\x7d'] = b ++ v) : b = [] := by
    cases b with
    | nil => rfl
    | cons e b =>
      simp only [List.cons_append, List.cons.injEq] at h
      exact absurd (List.append_eq_nil_iff.mp h.2.symm).2 hv
  cases default with
  | none =>
    rw [hnil b h, List.append_nil]
    exact .name hn
  | some d =>
    match b, h with
    | [], _ =>
      rw [List.append_nil]
      exact .name hn
    | [e], h =>
      simp only [List.cons_append, List.cons.injEq] at h
      rw [← h.1]
      exact .colon hn
    | e :: f :: b, h =>
      simp only [List.cons_append, List.cons.injEq] at h
      obtain ⟨rfl, rfl, h⟩ := h
      refine .default hn fun hmem => ?_
      rcases List.append_eq_append_iff.mp h with ⟨b', rfl, h'⟩ | ⟨v', rfl, -⟩
      · rw [hnil b' h', List.append_nil] at hmem
        exact hd d rfl hmem
      · exact hd _ rfl (List.mem_append_left v' hmem)

theorem Opening.of_append {u v : List Char} (hp : Proper p) (h : p.text = u ++ v) (hu : u ≠ [])
    (hv : v ≠ []) : Opening u := by
  match u, h with
  | [], _ => exact absurd rfl hu
  | [c], h =>
    rw [text] at h
    simp only [List.cons_append, List.cons.injEq] at h
    rw [← h.1]
    exact .dollar
  | c :: d :: u, h =>
    rw [text] at h
    simp only [List.cons_append, List.cons.injEq, List.append_assoc] at h
    obtain ⟨rfl, rfl, h⟩ := h
    rcases List.append_eq_append_iff.mp h with ⟨b, rfl, hb⟩ | ⟨w, hw, -⟩
    · exact .of_tail hb hp.name hp.default hv
    · by_cases hnil : u = []
      · rw [hnil]
        exact .brace
      · exact .name (.of_append (hw ▸ hp.name) hnil)

/-- Every opening can be completed, and no dollar sign is needed for that. -/
theorem Opening.completed {u : List Char} (h : Opening u) :
    ∃ v, (∀ c ∈ v, Text.isAscii c = true) ∧ '$' ∉ v ∧ ∃ p, Proper p ∧ u ++ v = p.text := by
  have hA : IsName ['A'] := ⟨'A', [], rfl, by decide, nofun⟩
  cases h with
  | dollar =>
    exact ⟨['\x7b', 'A', '\x7d'], by simp [Text.isAscii], by simp, ⟨['A'], none⟩, ⟨hA, nofun⟩, rfl⟩
  | brace => exact ⟨['A', '\x7d'], by simp [Text.isAscii], by simp, ⟨['A'], none⟩, ⟨hA, nofun⟩, rfl⟩
  | @name n hn =>
    exact ⟨['\x7d'], by simp [Text.isAscii], by simp, ⟨n, none⟩, ⟨hn, nofun⟩, by simp [text]⟩
  | @colon n hn =>
    refine ⟨['-', '\x7d'], by simp [Text.isAscii], by simp, ⟨n, some []⟩, ⟨hn, ?_⟩, by simp [text]⟩
    intro d hd
    cases hd
    exact List.not_mem_nil
  | @default n d hn hd =>
    refine ⟨['\x7d'], by simp [Text.isAscii], by simp, ⟨n, some d⟩, ⟨hn, ?_⟩, by simp [text]⟩
    intro e he
    cases he
    exact hd

end TracedService.Placeholder
