import TracedService.Proofs.Settings.Expansion
import TracedService.Proofs.Yaml.SheetDocument

/-! Sheets with placeholders for values. Expansion fills each place and nothing else, and a value
that can stand between double quotes cannot get out of them. -/

namespace TracedService

open Yaml (IsWord IsNote Verbatim Section sheetItems)

/-- What is written between the quotes of a field. -/
inductive Slot where
  | fixed (s : String)
  | place (name default : String)

namespace Slot

def text : Slot → List Char
  | fixed s => s.toList
  | place name default => Placeholder.text ⟨name.toList, some default.toList⟩

/-- What stands there after expansion. -/
def value (env : Environment) : Slot → String
  | fixed s => s
  | place name default => (env.text? name).getD default

/-- A slot that is read as it is meant, for one of these variables if it is a placeholder. -/
def Proper (names : List String) : Slot → Prop
  | fixed s => '$' ∉ s.toList ∧ Verbatim s.toList
  | place name default =>
    name ∈ names ∧ Verbatim default.toList ∧ Placeholder.Proper ⟨name.toList, some default.toList⟩

instance (names : List String) : DecidablePred (Proper names)
  | fixed s => inferInstanceAs (Decidable ('$' ∉ s.toList ∧ Verbatim s.toList))
  | place name default =>
    inferInstanceAs (Decidable (name ∈ names ∧ Verbatim default.toList ∧
      Placeholder.Proper ⟨name.toList, some default.toList⟩))

end Slot

/-- The values that these variables have can stand between double quotes. -/
def Environment.Quotable (env : Environment) (names : List String) : Prop :=
  ∀ name ∈ names, ∀ v ∈ env.text? name, Verbatim v.toList

instance (env : Environment) (names : List String) : Decidable (env.Quotable names) :=
  inferInstanceAs (Decidable (∀ name ∈ names, ∀ v ∈ env.text? name, Verbatim v.toList))

/-- A section that expansion leaves alone but for its slots. -/
structure Yaml.Section.Fillable (names : List String) (s : Section Slot) : Prop where
  notes : ∀ line ∈ s.notes, IsNote line ∧ '$' ∉ line
  name : IsWord s.name
  fields : ∀ f ∈ s.fields, IsWord f.1 ∧ f.2.Proper names
  nonempty : s.fields ≠ []

instance (names : List String) (s : Section Slot) : Decidable (s.Fillable names) :=
  decidable_of_iff
    ((∀ line ∈ s.notes, IsNote line ∧ '$' ∉ line) ∧ IsWord s.name ∧
      (∀ f ∈ s.fields, IsWord f.1 ∧ f.2.Proper names) ∧ s.fields ≠ [])
    ⟨fun ⟨hnotes, hname, hfields, hne⟩ => ⟨hnotes, hname, hfields, hne⟩,
      fun h => ⟨h.notes, h.name, h.fields, h.nonempty⟩⟩

/-- The section as it is written. -/
def Yaml.Section.draft (s : Section Slot) : List Char :=
  (s.map Slot.text).text

def Yaml.Section.filled (env : Environment) (s : Section Slot) : Section (List Char) :=
  s.map fun slot => (slot.value env).toList

namespace Settings

variable {env : Environment} {names : List String} {s t u w : List Char}

theorem read?_of_ne {c : Char} (h : '$' ≠ c) : Placeholder.read? (c :: s) = none := by
  cases hread : Placeholder.read? (c :: s) with
  | none => rfl
  | some pr =>
    obtain ⟨-, htext⟩ := Placeholder.read?_eq_some_iff.mp hread
    cases htext
    exact absurd rfl h

theorem expand_keep (h : '$' ∉ u) : expand env (u ++ s) = u ++ expand env s := by
  induction u with
  | nil => rfl
  | cons c u ih =>
    rw [List.mem_cons, not_or] at h
    rw [List.cons_append, expand_of_none (read?_of_ne h.1), ih h.2, List.cons_append]

theorem expand_slot {slot : Slot} (h : slot.Proper names) :
    expand env (slot.text ++ s) = (slot.value env).toList ++ expand env s := by
  cases slot with
  | fixed v => exact expand_keep h.1
  | place name default =>
    rw [Slot.text, expand_of_some (Placeholder.read?_text_append h.2.2 s), Placeholder.value,
      String.ofList_toList, Slot.value]
    cases env.text? name <;> rfl

theorem verbatim_value {slot : Slot} (h : slot.Proper names) (henv : env.Quotable names) :
    Verbatim (slot.value env).toList := by
  cases slot with
  | fixed v => exact h.2
  | place name default =>
    rw [Slot.value]
    cases hv : env.text? name with
    | none => exact h.2.1
    | some v => exact henv name h.1 v hv

theorem dollar_not_mem_of_isWord (hw : IsWord w) : '$' ∉ w := by
  intro h
  have := hw.chars '$' h
  cases this

theorem expand_fields {fields : List (List Char × Slot)}
    (hfields : ∀ f ∈ fields, IsWord f.1 ∧ f.2.Proper names) :
    expand env ((fields.map fun f => (f.1, f.2.text)).flatMap Section.fieldText ++ t) =
      (fields.map fun f => (f.1, (f.2.value env).toList)).flatMap Section.fieldText ++
        expand env t := by
  induction fields with
  | nil => rfl
  | cons f fields ih =>
    obtain ⟨hname, hslot⟩ := hfields f List.mem_cons_self
    have hrest := ih fun g hg => hfields g (List.mem_cons_of_mem _ hg)
    have hhead : '$' ∉ ' ' :: ' ' :: (f.1 ++ [':', ' ', '"']) := by
      simp [dollar_not_mem_of_isWord hname]
    have hend : '$' ∉ ['"', '\n'] := by simp
    have hsplit (v r : List Char) : Section.fieldText (f.1, v) ++ r =
        ' ' :: ' ' :: (f.1 ++ [':', ' ', '"']) ++ (v ++ (['"', '\n'] ++ r)) := by
      simp [Section.fieldText]
    rw [List.map_cons, List.map_cons, List.flatMap_cons, List.flatMap_cons, List.append_assoc,
      List.append_assoc, hsplit, hsplit, expand_keep hhead, expand_slot hslot, expand_keep hend,
      hrest]

theorem expand_section {s : Section Slot} (hs : s.Fillable names) :
    expand env (s.draft ++ t) = (s.filled env).text ++ expand env t := by
  have hnotes : '$' ∉ Section.notesText s.notes := by
    rw [Section.notesText, List.mem_flatMap]
    rintro ⟨line, hline, hmem⟩
    rcases List.mem_append.mp hmem with hmem | hmem
    · exact (hs.notes line hline).2 hmem
    · simp at hmem
  have hhead : '$' ∉ Section.notesText s.notes ++ s.name ++ [':', '\n'] := by
    simp [hnotes, dollar_not_mem_of_isWord hs.name]
  have hsplit (fields : List (List Char × List Char)) (r : List Char) :
      Section.text ⟨s.notes, s.name, fields⟩ ++ r =
        Section.notesText s.notes ++ s.name ++ [':', '\n'] ++
          (fields.flatMap Section.fieldText ++ r) := by
    simp [Section.text]
  rw [Section.draft, Section.filled, Section.map, Section.map, hsplit, hsplit, expand_keep hhead,
    expand_fields hs.fields]

theorem expand_template {template : List (Section Slot)} (h : ∀ s ∈ template, s.Fillable names) :
    expand env (template.flatMap Section.draft) =
      (template.map (Section.filled env)).flatMap Section.text := by
  induction template with
  | nil => exact expand_nil
  | cons s template ih =>
    rw [List.flatMap_cons, List.map_cons, List.flatMap_cons,
      expand_section (h s List.mem_cons_self),
      ih fun s' hs' => h s' (List.mem_cons_of_mem _ hs')]

theorem plain_filled {s : Section Slot} (hs : s.Fillable names) (henv : env.Quotable names) :
    (s.filled env).Plain where
  notes line hline := (hs.notes line hline).1
  name := hs.name
  fields := by
    intro f hf
    obtain ⟨g, hg, rfl⟩ := List.mem_map.mp hf
    exact ⟨(hs.fields g hg).1, verbatim_value (hs.fields g hg).2 henv⟩
  nonempty := by
    intro hnil
    exact hs.nonempty (List.map_eq_nil_iff.mp hnil)

/-- An expanded template is the document of its sections with the values in their places. -/
theorem ofText_template {template : List (Section Slot)} (hne : template ≠ [])
    (htemplate : ∀ s ∈ template, s.Fillable names) (henv : env.Quotable names) :
    Yaml.Document.ofText (expand env (template.flatMap Section.draft)) =
      ⟨sheetItems (template.map (Section.filled env)), [], none, true⟩ := by
  rw [expand_template htemplate]
  refine Yaml.ofText_sheet (by simpa using hne) fun s hs => ?_
  obtain ⟨s', hs', rfl⟩ := List.mem_map.mp hs
  exact plain_filled (htemplate s' hs') henv

end Settings

end TracedService
