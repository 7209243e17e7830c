import TracedService.Yaml.Lexer

/-! Sheets, a plain kind of YAML: sections at the margin, and in each of them fields with values
between double quotes. Before a section there may be empty lines and comments. -/

namespace TracedService.Yaml

/-- Characters that stand for themselves between double quotes. -/
def isVerbatim (c : Char) : Bool :=
  32 ≤ c.toNat && c.toNat < 127 && c != '"' && c != '\\'

def Verbatim (s : List Char) : Prop :=
  ∀ c ∈ s, isVerbatim c = true

instance (s : List Char) : Decidable (Verbatim s) :=
  decidable_of_iff (s.all isVerbatim = true) List.all_eq_true

def isWordChar (c : Char) : Bool :=
  Text.isSmall c || c == '_'

/-- Names of sections and fields. -/
structure IsWord (w : List Char) : Prop where
  nonempty : w ≠ []
  chars : ∀ c ∈ w, isWordChar c = true
  short : w.length ≤ SimpleKey.maxLength

instance (w : List Char) : Decidable (IsWord w) :=
  decidable_of_iff
    (w ≠ [] ∧ w.all isWordChar = true ∧ w.length ≤ SimpleKey.maxLength)
    ⟨fun ⟨hne, hchars, hshort⟩ => ⟨hne, List.all_eq_true.mp hchars, hshort⟩,
      fun h => ⟨h.nonempty, List.all_eq_true.mpr h.chars, h.short⟩⟩

/-- A line that is passed over. -/
def IsNote (line : List Char) : Prop :=
  line = [] ∨ ∃ r, line = '#' :: r ∧ ∀ c ∈ r, 32 ≤ c.toNat ∧ c.toNat < 127

instance : DecidablePred IsNote
  | [] => isTrue (.inl rfl)
  | c :: r =>
    decidable_of_iff (c = '#' ∧ (r.all fun d => 32 ≤ d.toNat ∧ d.toNat < 127) = true) <| by
      simp only [List.all_eq_true, decide_eq_true_eq]
      constructor
      · rintro ⟨rfl, hr⟩
        exact .inr ⟨r, rfl, hr⟩
      · rintro (heq | ⟨_, heq, hr⟩)
        · cases heq
        · cases heq
          exact ⟨rfl, hr⟩

/-- A section whose fields have values of a kind. -/
structure Section (V : Type) where
  notes : List (List Char)
  name : List Char
  fields : List (List Char × V)

namespace Section

variable {V W : Type}

def map (f : V → W) (s : Section V) : Section W :=
  ⟨s.notes, s.name, s.fields.map fun (name, v) => (name, f v)⟩

def notesText (notes : List (List Char)) : List Char :=
  notes.flatMap (· ++ ['\n'])

def fieldText (f : List Char × List Char) : List Char :=
  ' ' :: ' ' :: f.1 ++ ':' :: ' ' :: '"' :: f.2 ++ ['"', '\n']

def text (s : Section (List Char)) : List Char :=
  notesText s.notes ++ s.name ++ ':' :: '\n' :: s.fields.flatMap fieldText

/-- The section can be read back. -/
structure Plain (s : Section (List Char)) : Prop where
  notes : ∀ line ∈ s.notes, IsNote line
  name : IsWord s.name
  fields : ∀ f ∈ s.fields, IsWord f.1 ∧ Verbatim f.2
  nonempty : s.fields ≠ []

end Section

end TracedService.Yaml
