import Mathlib.Logic.Function.Basic
import TracedService.Proofs.Http.Headers

/-! Headers that are written and read in turn. Three rules decide what becomes of an access, and no
two of them agree: what is a name, what may be written under it, and what can be read again. -/

namespace TracedService.Http

open Text.Utf8 (Bytes)

namespace HeaderName

variable {key other name : String}

/-- Names are tokens that are not too long. -/
def Allowed (key : String) : Prop :=
  key.toList ≠ [] ∧ key.toList.length ≤ maxLength ∧ ∀ c ∈ key.toList, isTokenChar c = true

instance (key : String) : Decidable (Allowed key) :=
  have := List.decidableBAll (isTokenChar · = true) key.toList
  inferInstanceAs (Decidable (_ ∧ _ ∧ _))

theorem read?_eq_some_iff : read? key = some name ↔ Allowed key ∧ Text.lowered key = name := by
  simp [read?, Allowed, Text.lowered, and_assoc]

theorem read?_of_allowed (h : Allowed key) : read? key = some (Text.lowered key) :=
  read?_eq_some_iff.mpr ⟨h, rfl⟩

theorem read?_of_not_allowed (h : ¬ Allowed key) : read? key = none := by
  rw [Option.eq_none_iff_forall_ne_some]
  intro name hname
  exact h (read?_eq_some_iff.mp hname).1

theorem isTokenChar_lower (c : Char) : isTokenChar (Text.lower c) = isTokenChar c := by
  cases h : Text.isAscii c with
  | true =>
    exact Text.forall_isAscii (P := fun c => isTokenChar (Text.lower c) = isTokenChar c)
      (by decide +kernel) h
  | false => rw [Text.lower_of_isAscii_eq_false h]

theorem allowed_lowered : Allowed (Text.lowered key) ↔ Allowed key := by
  simp [Allowed, Text.lowered, isTokenChar_lower]

theorem read?_congr (h : Text.lowered other = Text.lowered key) : read? other = read? key := by
  refine Option.ext fun name => ?_
  rw [read?_eq_some_iff, read?_eq_some_iff, ← allowed_lowered, h, allowed_lowered]

end HeaderName

namespace HeaderValue

variable {value text : String} {v : Bytes}

/-- Texts that may be written: the tab is the only control character, and the rest is free. -/
def Writable (value : String) : Prop :=
  ∀ c ∈ value.toList, (32 ≤ c.toNat ∧ c.toNat ≠ 127) ∨ c.toNat = 9

instance (value : String) : Decidable (Writable value) :=
  List.decidableBAll _ value.toList

/-- Texts that can be read: visible ASCII, blanks and tabs. -/
def Readable (text : String) : Prop :=
  ∀ c ∈ text.toList, isTextChar c = true

theorem all_isByte_encodeChar {c : Char} :
    (∀ b ∈ Text.Utf8.encodeChar c, isByte b = true) ↔
      (32 ≤ c.toNat ∧ c.toNat ≠ 127) ∨ c.toNat = 9 := by
  cases hc : Text.isAscii c with
  | true =>
    rw [Text.Utf8.encodeChar_of_isAscii hc, List.forall_mem_singleton, isByte_iff,
      Text.toNat_ofNat_of_isAscii hc]
  | false =>
    have hlarge : ¬ c.toNat < 128 := by
      rw [← Text.isAscii_iff, hc]
      simp
    refine iff_of_true (fun b hb => ?_) (by omega)
    have := Text.Utf8.le_toNat_of_mem_encodeChar hc hb
    rw [isByte_iff]
    omega

theorem isValid_encodeText_iff : isValid (Text.Utf8.encodeText value) = true ↔ Writable value := by
  simp only [isValid, Text.Utf8.encodeText, Text.Utf8.encode, List.all_flatMap, List.all_eq_true,
    all_isByte_encodeChar, Writable]

/-- What is read of a value is the text that it spells, if that is readable. -/
theorem text?_eq_some_iff :
    text? v = some text ↔ v = Text.Utf8.encodeText text ∧ Readable text := by
  constructor
  · intro h
    have hreadable : Readable text := fun c hc => (of_text? h c hc).1
    rw [text?] at h
    split at h
    · rename_i hall
      cases h
      refine ⟨?_, hreadable⟩
      rw [Text.Utf8.encodeText, Text.Utf8.encode_of_isAscii fun c hc =>
        isAscii_of_isTextChar (hreadable c hc), String.toList_ofList, List.map_map]
      refine (List.map_id v).symm.trans (List.map_congr_left fun b hb => ?_)
      have := isTextByte_iff.mp (List.all_eq_true.mp hall b hb)
      rw [Function.comp_apply, Text.toNat_ofNat_of_lt (by omega), UInt8.ofNat_toNat]
      rfl
    · cases h
  · rintro ⟨rfl, h⟩
    rw [Text.Utf8.encodeText, text?_encode h, String.ofList_toList]

end HeaderValue

namespace Headers

open HeaderName (Allowed)
open HeaderValue (Writable Readable)

variable {h : Headers} {key other name value text : String}

theorem set_of_allowed (hkey : Allowed key) (hvalue : Writable value) :
    h.set key value = h.replace (Text.lowered key) (Text.Utf8.encodeText value) := by
  rw [set, HeaderName.read?_of_allowed hkey]
  exact if_pos (HeaderValue.isValid_encodeText_iff.mpr hvalue)

/-- A bad name or a bad value leaves everything as it is, the order of the fields included. -/
theorem set_of_refused (hbad : ¬ (Allowed key ∧ Writable value)) : h.set key value = h := by
  rw [set]
  by_cases hkey : Allowed key
  · rw [HeaderName.read?_of_allowed hkey]
    exact if_neg fun hvalid => hbad ⟨hkey, HeaderValue.isValid_encodeText_iff.mp hvalid⟩
  · rw [HeaderName.read?_of_not_allowed hkey]

theorem values_set (hkey : Allowed key) (hvalue : Writable value) :
    (h.set key value).values =
      Function.update h.values (Text.lowered key) [Text.Utf8.encodeText value] := by
  rw [set_of_allowed hkey hvalue]
  funext name
  by_cases hname : name = Text.lowered key
  · rw [hname, Function.update_self, values_replace_self]
  · rw [Function.update_of_ne hname, values_replace_of_ne h _ hname]

theorem get?_eq_some_iff : h.get? key = some text ↔
    Allowed key ∧ ∃ others, h.values (Text.lowered key) = Text.Utf8.encodeText text :: others ∧
      Readable text := by
  simp only [get?, Option.bind_eq_bind, Option.bind_eq_some_iff, HeaderName.read?_eq_some_iff,
    HeaderValue.text?_eq_some_iff, List.head?_eq_some_iff]
  constructor
  · rintro ⟨_, ⟨hkey, rfl⟩, _, ⟨others, hvalues⟩, rfl, hreadable⟩
    exact ⟨hkey, others, hvalues, hreadable⟩
  · rintro ⟨hkey, others, hvalues, hreadable⟩
    exact ⟨_, ⟨hkey, rfl⟩, _, ⟨others, hvalues⟩, rfl, hreadable⟩

/-- One access by whoever passes headers on. -/
inductive Access where
  | write (key value : String)
  | read (key : String)
  deriving DecidableEq, Repr

/-- Accesses in turn: what each read finds, and the headers at the end. -/
def perform (h : Headers) : List Access → List (Option String) × Headers
  | [] => ([], h)
  | .write key value :: rest => (h.set key value).perform rest
  | .read key :: rest => (h.get? key :: (h.perform rest).1, (h.perform rest).2)

/-- Accesses to lists of values under names in small letters: what the reads find, and what there is
at the end. -/
inductive Serves : (String → List Bytes) → List Access → List (Option String) →
    (String → List Bytes) → Prop
  | nothing (held : String → List Bytes) : Serves held [] [] held
  | write {held after : String → List Bytes} {key value : String} {rest : List Access}
      {found : List (Option String)} (allowed : Allowed key) (writable : Writable value)
      (next : Serves (Function.update held (Text.lowered key) [Text.Utf8.encodeText value]) rest
        found after) : Serves held (.write key value :: rest) found after
  | refuse {held after : String → List Bytes} {key value : String} {rest : List Access}
      {found : List (Option String)} (bad : ¬ (Allowed key ∧ Writable value))
      (next : Serves held rest found after) : Serves held (.write key value :: rest) found after
  | find {held after : String → List Bytes} {key text : String} {rest : List Access}
      {found : List (Option String)} {others : List Bytes} (allowed : Allowed key)
      (first : held (Text.lowered key) = Text.Utf8.encodeText text :: others)
      (readable : Readable text) (next : Serves held rest found after) :
      Serves held (.read key :: rest) (some text :: found) after
  | miss {held after : String → List Bytes} {key : String} {rest : List Access}
      {found : List (Option String)}
      (absent : ∀ text others, held (Text.lowered key) = Text.Utf8.encodeText text :: others →
        Allowed key → ¬ Readable text)
      (next : Serves held rest found after) : Serves held (.read key :: rest) (none :: found) after

theorem serves_perform (h : Headers) (steps : List Access) :
    Serves h.values steps (h.perform steps).1 (h.perform steps).2.values := by
  induction steps generalizing h with
  | nil => exact .nothing _
  | cons step rest ih =>
    cases step with
    | write key value =>
      by_cases hgood : Allowed key ∧ Writable value
      · exact .write hgood.1 hgood.2 (values_set hgood.1 hgood.2 ▸ ih (h.set key value))
      · refine .refuse hgood ?_
        rw [perform, set_of_refused hgood]
        exact ih h
    | read key =>
      rw [perform]
      cases hfound : h.get? key with
      | some text =>
        obtain ⟨allowed, others, first, readable⟩ := get?_eq_some_iff.mp hfound
        exact .find allowed first readable (ih h)
      | none =>
        refine .miss (fun text others first allowed readable => ?_) (ih h)
        rw [get?_eq_some_iff.mpr ⟨allowed, others, first, readable⟩] at hfound
        cases hfound

theorem Serves.unique {held after after' : String → List Bytes} {steps : List Access}
    {found found' : List (Option String)} (hone : Serves held steps found after)
    (hother : Serves held steps found' after') : found = found' ∧ after = after' := by
  induction hone generalizing found' with
  | nothing => cases hother; exact ⟨rfl, rfl⟩
  | write allowed writable next ih =>
    cases hother with
    | write _ _ next' => exact ih next'
    | refuse bad => exact absurd ⟨allowed, writable⟩ bad
  | refuse bad next ih =>
    cases hother with
    | write allowed writable => exact absurd ⟨allowed, writable⟩ bad
    | refuse _ next' => exact ih next'
  | find allowed first readable next ih =>
    cases hother with
    | find _ first' readable' next' =>
      have hvalue := (List.cons.inj (first.symm.trans first')).1
      have htext := (HeaderValue.text?_eq_some_iff.mpr ⟨rfl, readable⟩).symm.trans
        (HeaderValue.text?_eq_some_iff.mpr ⟨hvalue, readable'⟩)
      obtain ⟨rfl, rfl⟩ := ih next'
      exact ⟨by rw [Option.some.inj htext], rfl⟩
    | miss absent => exact absurd readable (absent _ _ first allowed)
  | miss absent next ih =>
    cases hother with
    | find allowed first readable => exact absurd readable (absent _ _ first allowed)
    | miss _ next' =>
      obtain ⟨rfl, rfl⟩ := ih next'
      exact ⟨rfl, rfl⟩

/-- Headers answer as lists of values under names do, of which a write that is in order replaces one
by its value alone. Any other write changes nothing at all, and letter case never counts. -/
theorem perform_iff_serves (h : Headers) :
    (∀ steps found after, (h.perform steps).1 = found ∧ (h.perform steps).2.values = after ↔
        Serves h.values steps found after) ∧
      (∀ key value, ¬ (Allowed key ∧ Writable value) → h.set key value = h) ∧
      ∀ key other, Text.lowered other = Text.lowered key →
        h.get? other = h.get? key ∧ ∀ value, h.set other value = h.set key value := by
  refine ⟨fun steps found after => ⟨?_, ?_⟩, fun key value hbad => set_of_refused hbad,
    fun key other hcase => ?_⟩
  · rintro ⟨rfl, rfl⟩
    exact serves_perform h steps
  · exact (serves_perform h steps).unique
  · have hread := HeaderName.read?_congr hcase
    refine ⟨by rw [get?, get?, hread], fun value => ?_⟩
    rw [set, set, hread]

/-- What is past ASCII can be written, but is not read. -/
def noteAccesses : List Access :=
  [.write "X-Note" "café", .read "x-note", .write "x note" "a", .write "X-NOTE" "a\nb",
    .write "x-NOTE" "a\tb", .read "X-Note"]

theorem perform_iff_serves_note :
    (∃ after, Serves ({} : Headers).values noteAccesses [none, some "a\tb"] after) ∧
      ¬ (Allowed "X-NOTE" ∧ Writable "a\nb") ∧ ({} : Headers).set "X-NOTE" "a\nb" = {} ∧
      Text.lowered "x-NOTE" = Text.lowered "X-Note" ∧
      ({} : Headers).set "x-NOTE" "a\tb" = ({} : Headers).set "X-Note" "a\tb" := by
  obtain ⟨hserves, hrefused, hcase⟩ := perform_iff_serves {}
  have hbad : ¬ (Allowed "X-NOTE" ∧ Writable "a\nb") := by decide +kernel
  have hsame : Text.lowered "x-NOTE" = Text.lowered "X-Note" := by decide +kernel
  exact ⟨⟨_, (hserves _ _ _).mp ⟨by decide +kernel, rfl⟩⟩, hbad, hrefused _ _ hbad, hsame,
    (hcase _ _ hsame).2 _⟩

end Headers

end TracedService.Http
