import TracedService.Http.Headers
import TracedService.Proofs.Text.Codes

/-! What is written under a name is read there, and nowhere else. -/

namespace TracedService.Http

open Text.Utf8 (Bytes)

def isTextChar (c : Char) : Bool :=
  (32 ≤ c.toNat && c.toNat < 127) || c.toNat == 9

theorem isTextChar_iff {c : Char} :
    isTextChar c = true ↔ (32 ≤ c.toNat ∧ c.toNat < 127) ∨ c.toNat = 9 := by
  simp [isTextChar]

theorem isAscii_of_isTextChar {c : Char} (h : isTextChar c = true) : Text.isAscii c = true := by
  rw [isTextChar_iff] at h
  rw [Text.isAscii_iff]
  omega

namespace HeaderValue

theorem isTextByte_iff {b : UInt8} :
    isTextByte b = true ↔ (32 ≤ b.toNat ∧ b.toNat < 127) ∨ b.toNat = 9 := by
  simp [isTextByte, UInt8.le_iff_toNat_le, UInt8.lt_iff_toNat_lt, ← UInt8.toNat_inj]

theorem isByte_iff {b : UInt8} :
    isByte b = true ↔ (32 ≤ b.toNat ∧ b.toNat ≠ 127) ∨ b.toNat = 9 := by
  simp [isByte, UInt8.le_iff_toNat_le, ← UInt8.toNat_inj]

theorem isValid_of_all_isTextByte {v : Bytes} (h : v.all isTextByte = true) : isValid v = true := by
  rw [isValid, List.all_eq_true]
  intro b hb
  have := isTextByte_iff.mp (List.all_eq_true.mp h b hb)
  rw [isByte_iff]
  omega

theorem encode_isText {s : List Char} (h : ∀ c ∈ s, isTextChar c = true) :
    (Text.Utf8.encode s).all isTextByte = true := by
  rw [Text.Utf8.encode_of_isAscii fun c hc => isAscii_of_isTextChar (h c hc), List.all_map,
    List.all_eq_true]
  intro c hc
  have htext := isTextChar_iff.mp (h c hc)
  rw [Function.comp_apply, isTextByte_iff,
    Text.toNat_ofNat_of_isAscii (isAscii_of_isTextChar (h c hc))]
  exact htext

theorem text?_encode {s : List Char} (h : ∀ c ∈ s, isTextChar c = true) :
    text? (Text.Utf8.encode s) = some (String.ofList s) := by
  rw [text?, if_pos (encode_isText h),
    Text.Utf8.encode_of_isAscii fun c hc => isAscii_of_isTextChar (h c hc), List.map_map]
  refine congrArg (some ∘ String.ofList) (.trans (List.map_congr_left ?_) (List.map_id s))
  intro c hc
  rw [Function.comp_apply, Text.toNat_ofNat_of_isAscii (isAscii_of_isTextChar (h c hc)),
    Char.ofNat_toNat]
  rfl

/-- A text holds the characters of the bytes, and none but those of header texts. -/
theorem of_text? {v : Bytes} {t : String} (h : text? v = some t) :
    ∀ c ∈ t.toList, isTextChar c = true ∧ UInt8.ofNat c.toNat ∈ v := by
  rw [text?] at h
  split at h
  · rename_i hv
    cases h
    rw [String.toList_ofList]
    intro c hc
    obtain ⟨b, hb, rfl⟩ := List.mem_map.mp hc
    have htext := isTextByte_iff.mp (List.all_eq_true.mp hv b hb)
    have hnat : (Char.ofNat b.toNat).toNat = b.toNat := Text.toNat_ofNat_of_lt (by omega)
    rw [isTextChar_iff, hnat, UInt8.ofNat_toNat]
    exact ⟨htext, hb⟩
  · cases h

end HeaderValue

namespace Headers

variable {headers : Headers} {name other value : String}

theorem values_append (xs ys : List (String × Bytes)) (name : String) :
    values ⟨xs ++ ys⟩ name = values ⟨xs⟩ name ++ values ⟨ys⟩ name :=
  List.filterMap_append

theorem values_cons_self (name : String) (v : Bytes) (xs : List (String × Bytes)) :
    values ⟨(name, v) :: xs⟩ name = v :: values ⟨xs⟩ name := by
  simp [values]

theorem values_cons_of_ne {name other : String} (h : other ≠ name) (v : Bytes)
    (xs : List (String × Bytes)) : values ⟨(other, v) :: xs⟩ name = values ⟨xs⟩ name := by
  simp [values, h]

theorem values_of_foldlM {fields : List (String × Bytes)} {start : Headers} (name : String)
    (h : fields.foldlM (fun h (n, v) => h.append? n v) start = some headers) :
    headers.values name = start.values name ++
      fields.filterMap fun (n, v) => if HeaderName.read? n = some name then some v else none := by
  induction fields generalizing start with
  | nil =>
    cases h
    simp
  | cons f fields ih =>
    obtain ⟨written, v⟩ := f
    rw [List.foldlM_cons] at h
    obtain ⟨next, hnext, hrest⟩ := Option.bind_eq_some_iff.mp h
    obtain ⟨n, hn, hvalid⟩ := Option.bind_eq_some_iff.mp hnext
    split at hvalid
    · cases hvalid
      rw [ih hrest, append, values_append, List.append_assoc]
      by_cases hname : n = name <;> simp [hn, hname, values]
    · cases hvalid

theorem values_ofList? {fields : List (String × Bytes)} (h : ofList? fields = some headers)
    (name : String) : headers.values name =
      fields.filterMap fun (n, v) => if HeaderName.read? n = some name then some v else none :=
  values_of_foldlM name h

theorem values_eq_nil_iff {fields : List (String × Bytes)} (h : ofList? fields = some headers)
    (name : String) :
    headers.values name = [] ↔ ∀ f ∈ fields, HeaderName.read? f.1 ≠ some name := by
  rw [values_ofList? h, List.filterMap_eq_nil_iff]
  refine forall₂_congr fun f _ => ?_
  by_cases hname : HeaderName.read? f.1 = some name <;> simp [hname]

theorem values_replace_self (h : Headers) (name : String) (v : Bytes) :
    (h.replace name v).values name = [v] := by
  have hrest : (h.fields.filter fun f => f.1 != name).filterMap
      (fun f => if f.1 = name then some f.2 else none) = [] := by
    rw [List.filterMap_eq_nil_iff]
    intro f hf
    have := (List.mem_filter.mp hf).2
    exact if_neg (bne_iff_ne.mp this)
  rw [values, replace, List.filterMap_append, hrest]
  simp

theorem values_replace_of_ne (h : Headers) (v : Bytes) (hne : other ≠ name) :
    (h.replace name v).values other = h.values other := by
  have hkept : (h.fields.filter fun f => f.1 != name).filterMap
      (fun f => if f.1 = other then some f.2 else none) =
        h.fields.filterMap (fun f => if f.1 = other then some f.2 else none) := by
    rw [List.filterMap_filter]
    congr 1
    funext f
    by_cases hf : f.1 = other
    · simp [hf, hne]
    · simp [hf]
  rw [values, replace, List.filterMap_append, hkept]
  simp [values, Ne.symm hne]

/-- The first value of a name as text. One that is no text counts as none. -/
def first? (h : Headers) (name : String) : Option String :=
  (h.values name).head?.bind HeaderValue.text?

theorem get?_eq_first? (hname : HeaderName.read? name = some name) :
    headers.get? name = headers.first? name := by
  rw [get?, hname]
  rfl

theorem first?_append (v : Bytes) (h : other ≠ name ∨ headers.values name ≠ []) :
    (headers.append other v).first? name = headers.first? name := by
  rw [first?, first?, append, values_append]
  rcases h with h | h
  · rw [values_cons_of_ne h]
    simp [values]
  · cases hv : headers.values name with
    | nil => exact absurd hv h
    | cons u us => rfl

theorem first?_replace_of_ne (v : Bytes) (hne : other ≠ name) :
    (headers.replace name v).first? other = headers.first? other := by
  rw [first?, first?, values_replace_of_ne headers v hne]

/-- What is read under a name is made of the bytes of one of its values. -/
theorem of_get? {text : String} (h : headers.get? name = some text) : ∃ n v,
    HeaderName.read? name = some n ∧ v ∈ headers.values n ∧
      ∀ c ∈ text.toList, isTextChar c = true ∧ UInt8.ofNat c.toNat ∈ v := by
  simp only [get?, Option.bind_eq_bind, Option.bind_eq_some_iff] at h
  obtain ⟨n, hn, v, hv, htext⟩ := h
  exact ⟨n, v, hn, List.mem_of_head? hv, HeaderValue.of_text? htext⟩

/-- The text is the only value from then on, unless it can stand in no header. -/
theorem values_set_self (hname : HeaderName.read? name = some name) :
    (headers.set name value).values name =
      if HeaderValue.isValid (Text.Utf8.encodeText value) then [Text.Utf8.encodeText value]
      else headers.values name := by
  rw [set, hname]
  by_cases hv : HeaderValue.isValid (Text.Utf8.encodeText value) = true
  · simp only [if_pos hv]
    exact values_replace_self headers name _
  · simp only [if_neg hv]

theorem values_set_of_ne (hname : HeaderName.read? name = some name) (hne : other ≠ name) :
    (headers.set name value).values other = headers.values other := by
  rw [set, hname]
  by_cases hv : HeaderValue.isValid (Text.Utf8.encodeText value) = true
  · simp only [if_pos hv]
    exact values_replace_of_ne headers _ hne
  · simp only [if_neg hv]

theorem get?_set_self (hname : HeaderName.read? name = some name)
    (hvalue : ∀ c ∈ value.toList, isTextChar c = true) :
    (headers.set name value).get? name = some value := by
  have hvalid : HeaderValue.isValid (Text.Utf8.encodeText value) = true :=
    HeaderValue.isValid_of_all_isTextByte (HeaderValue.encode_isText hvalue)
  have htext : HeaderValue.text? (Text.Utf8.encodeText value) = some value := by
    rw [Text.Utf8.encodeText, HeaderValue.text?_encode hvalue, String.ofList_toList]
  rw [get?, hname]
  simp only [values_set_self hname, hvalid, if_true, bind, Option.bind, List.head?_cons, htext]

theorem get?_set_of_ne (hname : HeaderName.read? name = some name)
    (hother : HeaderName.read? other = some other) (hne : other ≠ name) :
    (headers.set name value).get? other = headers.get? other := by
  rw [get?, get?, hother]
  simp only [bind, Option.bind, values_set_of_ne hname hne]

end Headers

end TracedService.Http
