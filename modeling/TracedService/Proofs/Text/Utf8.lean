import TracedService.Environment

/-! UTF-8 is read back as it was written, and nothing else is read: bytes are decoded exactly if
they are the encoding of a text, and that text comes out. -/

namespace TracedService.Text.Utf8

variable {b : UInt8} {bs rest : Bytes} {c : Char} {s : List Char} {l : Lead} {n v acc : Nat}

/-- The first bytes of well-formed sequences, by the number of bytes that follow. The second byte is
restricted where a form too long, a surrogate or a value past U+10FFFF would come about. -/
inductive Leads (b : UInt8) : Lead → Prop
  | one (h : b.toNat ≤ 0x7F) : Leads b ⟨0, 0x80, 0xBF, b.toNat⟩
  | two (low : 0xC2 ≤ b.toNat) (high : b.toNat ≤ 0xDF) : Leads b ⟨1, 0x80, 0xBF, b.toNat - 0xC0⟩
  | three (low : 0xE0 ≤ b.toNat) (high : b.toNat ≤ 0xEF) :
      Leads b ⟨2, if b.toNat = 0xE0 then 0xA0 else 0x80, if b.toNat = 0xED then 0x9F else 0xBF,
        b.toNat - 0xE0⟩
  | four (low : 0xF0 ≤ b.toNat) (high : b.toNat ≤ 0xF4) :
      Leads b ⟨3, if b.toNat = 0xF0 then 0x90 else 0x80, if b.toNat = 0xF4 then 0x8F else 0xBF,
        b.toNat - 0xF0⟩

theorem lead?_eq_some_iff : lead? b = some l ↔ Leads b l := by
  simp only [lead?, UInt8.le_iff_toNat_le, UInt8.lt_iff_toNat_lt, beq_iff_eq, ← UInt8.toNat_inj,
    UInt8.reduceToNat]
  constructor
  · intro h
    have three := @Leads.three b
    have four := @Leads.four b
    grind [Leads]
  · intro h
    cases h with
    | one h => rw [if_pos h]
    | two low high => grind
    | three low high => grind
    | four low high => grind

theorem tail_succ_iff {low high : UInt8} :
    tail (n + 1) low high acc bs = (some v, rest) ↔
      ∃ b r, bs = b :: r ∧ low.toNat ≤ b.toNat ∧ b.toNat ≤ high.toNat ∧
        tail n 0x80 0xBF (acc * 64 + (b.toNat - 0x80)) r = (some v, rest) := by
  cases bs with
  | nil => simp [tail]
  | cons b r =>
    simp only [tail, Bool.and_eq_true, decide_eq_true_eq, UInt8.le_iff_toNat_le]
    constructor
    · intro h
      split at h
      · rename_i hb
        exact ⟨b, r, rfl, hb.1, hb.2, h⟩
      · cases h
    · rintro ⟨b', r', heq, hlow, hhigh, h⟩
      cases heq
      rwa [if_pos ⟨hlow, hhigh⟩]

theorem tail_zero_iff {low high : UInt8} :
    tail 0 low high acc bs = (some v, rest) ↔ acc = v ∧ bs = rest := by
  simp [tail]

theorem next_eq_some_iff :
    next b bs = (some c, rest) ↔
      ∃ l v, Leads b l ∧ tail l.extra l.low l.high l.bits bs = (some v, rest) ∧
        Char.ofNat v = c := by
  constructor
  · intro h
    unfold next at h
    split at h
    · cases h
    · rename_i l hl
      split at h
      · rename_i v r ht
        cases h
        exact ⟨l, v, lead?_eq_some_iff.mp hl, ht, rfl⟩
      · cases h
  · rintro ⟨l, v, hl, ht, rfl⟩
    simp only [next, lead?_eq_some_iff.mpr hl, ht]

theorem eq_ofNat (h : b.toNat = n) : b = UInt8.ofNat n := by
  rw [← h, UInt8.ofNat_toNat]

theorem encodeChar_ofNat (h : v.isValidChar) :
    encodeChar (Char.ofNat v) =
      if v ≤ 0x7F then [.ofNat v]
      else if v ≤ 0x7FF then [.ofNat (v / 64 % 32 + 192), .ofNat (v % 64 + 128)]
      else if v ≤ 0xFFFF then
        [.ofNat (v / 4096 % 16 + 224), .ofNat (v / 64 % 64 + 128), .ofNat (v % 64 + 128)]
      else
        [.ofNat (v / 262144 % 8 + 240), .ofNat (v / 4096 % 64 + 128), .ofNat (v / 64 % 64 + 128),
          .ofNat (v % 64 + 128)] := by
  have hv : (Char.ofNat v).val.toNat = v := by
    rw [Char.ofNat, dif_pos h]
    rfl
  rw [encodeChar, String.utf8EncodeChar, hv]

theorem encodeChar_of_next (h : next b bs = (some c, rest)) : b :: bs = encodeChar c ++ rest := by
  obtain ⟨l, v, hl, ht, rfl⟩ := next_eq_some_iff.mp h
  cases hl with
  | one hb =>
    obtain ⟨hv, rfl⟩ := tail_zero_iff.mp ht
    simp only at hv
    rw [encodeChar_ofNat (.inl (by omega)), if_pos (by omega), ← eq_ofNat hv]
    rfl
  | two low high =>
    obtain ⟨b₁, r, rfl, low₁, high₁, ht⟩ := tail_succ_iff.mp ht
    obtain ⟨hv, rfl⟩ := tail_zero_iff.mp ht
    simp only [UInt8.reduceToNat] at low₁ high₁ hv
    rw [encodeChar_ofNat (.inl (by omega)), if_neg (by omega), if_pos (by omega),
      ← eq_ofNat (b := b) (by omega), ← eq_ofNat (b := b₁) (by omega)]
    rfl
  | three low high =>
    obtain ⟨b₁, r, rfl, low₁, high₁, ht⟩ := tail_succ_iff.mp ht
    obtain ⟨b₂, r, rfl, low₂, high₂, ht⟩ := tail_succ_iff.mp ht
    obtain ⟨hv, rfl⟩ := tail_zero_iff.mp ht
    simp only [UInt8.reduceToNat, apply_ite UInt8.toNat] at low₁ high₁ low₂ high₂ hv
    have hlow : 0x80 ≤ b₁.toNat ∧ (b.toNat = 0xE0 → 0xA0 ≤ b₁.toNat) := by grind
    have hhigh : b₁.toNat ≤ 0xBF ∧ (b.toNat = 0xED → b₁.toNat ≤ 0x9F) := by grind
    have hvalid : v.isValidChar := by
      unfold Nat.isValidChar
      omega
    rw [encodeChar_ofNat hvalid, if_neg (by omega), if_neg (by omega), if_pos (by omega),
      ← eq_ofNat (b := b) (by omega), ← eq_ofNat (b := b₁) (by omega),
      ← eq_ofNat (b := b₂) (by omega)]
    rfl
  | four low high =>
    obtain ⟨b₁, r, rfl, low₁, high₁, ht⟩ := tail_succ_iff.mp ht
    obtain ⟨b₂, r, rfl, low₂, high₂, ht⟩ := tail_succ_iff.mp ht
    obtain ⟨b₃, r, rfl, low₃, high₃, ht⟩ := tail_succ_iff.mp ht
    obtain ⟨hv, rfl⟩ := tail_zero_iff.mp ht
    simp only [UInt8.reduceToNat, apply_ite UInt8.toNat] at low₁ high₁ low₂ high₂ low₃ high₃ hv
    have hlow : 0x80 ≤ b₁.toNat ∧ (b.toNat = 0xF0 → 0x90 ≤ b₁.toNat) := by grind
    have hhigh : b₁.toNat ≤ 0xBF ∧ (b.toNat = 0xF4 → b₁.toNat ≤ 0x8F) := by grind
    have hvalid : v.isValidChar := by
      unfold Nat.isValidChar
      omega
    rw [encodeChar_ofNat hvalid, if_neg (by omega), if_neg (by omega), if_neg (by omega),
      ← eq_ofNat (b := b) (by omega), ← eq_ofNat (b := b₁) (by omega),
      ← eq_ofNat (b := b₂) (by omega), ← eq_ofNat (b := b₃) (by omega)]
    rfl

theorem toNat_further (n : Nat) : (UInt8.ofNat (n % 64 + 128)).toNat = n % 64 + 128 := by
  rw [UInt8.toNat_ofNat']
  omega

theorem next_of_encodeChar (h : b :: bs = encodeChar c ++ rest) : next b bs = (some c, rest) := by
  have hvalid : c.toNat.isValidChar := c.valid
  rw [← Char.ofNat_toNat c, encodeChar_ofNat hvalid] at h
  generalize hv : c.toNat = v at h hvalid
  have hc : Char.ofNat v = c := by rw [← hv, Char.ofNat_toNat]
  unfold Nat.isValidChar at hvalid
  rw [next_eq_some_iff]
  -- One case for each number of bytes, in the order of the rows of `Leads`.
  split at h
  · cases h
    have hb : (UInt8.ofNat v).toNat = v := by
      rw [UInt8.toNat_ofNat']
      omega
    exact ⟨_, v, .one (by omega), tail_zero_iff.mpr ⟨hb, rfl⟩, hc⟩
  · split at h
    · cases h
      have hb : (UInt8.ofNat (v / 64 % 32 + 192)).toNat = v / 64 + 192 := by
        rw [UInt8.toNat_ofNat']
        omega
      refine ⟨_, v, .two (by omega) (by omega), tail_succ_iff.mpr ⟨_, _, rfl, ?_, ?_,
        tail_zero_iff.mpr ⟨?_, rfl⟩⟩, hc⟩
      all_goals
        simp only [UInt8.reduceToNat, toNat_further]
        omega
    · split at h
      · cases h
        have hb : (UInt8.ofNat (v / 4096 % 16 + 224)).toNat = v / 4096 + 224 := by
          rw [UInt8.toNat_ofNat']
          omega
        refine ⟨_, v, .three (by omega) (by omega), tail_succ_iff.mpr ⟨_, _, rfl, ?_, ?_,
          tail_succ_iff.mpr ⟨_, _, rfl, ?_, ?_, tail_zero_iff.mpr ⟨?_, rfl⟩⟩⟩, hc⟩
        all_goals
          simp only [UInt8.reduceToNat, toNat_further, apply_ite UInt8.toNat]
          grind
      · cases h
        have hb : (UInt8.ofNat (v / 262144 % 8 + 240)).toNat = v / 262144 + 240 := by
          rw [UInt8.toNat_ofNat']
          omega
        refine ⟨_, v, .four (by omega) (by omega), tail_succ_iff.mpr ⟨_, _, rfl, ?_, ?_,
          tail_succ_iff.mpr ⟨_, _, rfl, ?_, ?_, tail_succ_iff.mpr ⟨_, _, rfl, ?_, ?_,
            tail_zero_iff.mpr ⟨?_, rfl⟩⟩⟩⟩, hc⟩
        all_goals
          simp only [UInt8.reduceToNat, toNat_further, apply_ite UInt8.toNat]
          grind

theorem decode?_nil : decode? [] = some [] := by
  simp [decode?, pieces]

theorem decode?_cons (b : UInt8) (bs : Bytes) :
    decode? (b :: bs) =
      (next b bs).1.bind fun c => (decode? (next b bs).2).map fun s => c :: s := by
  rw [decode?, pieces, List.mapM_cons]
  cases (next b bs).1 with
  | none => rfl
  | some c =>
    rw [decode?]
    cases List.mapM id (pieces (next b bs).2) <;> rfl

theorem encode_cons (c : Char) (s : List Char) : encode (c :: s) = encodeChar c ++ encode s :=
  List.flatMap_cons

theorem decode?_eq_some_iff : decode? bs = some s ↔ bs = encode s := by
  constructor
  · intro h
    induction bs using pieces.induct generalizing s with
    | case1 =>
      rw [decode?_nil] at h
      cases h
      rfl
    | case2 b bs ih =>
      rw [decode?_cons] at h
      obtain ⟨c, hc, h⟩ := Option.bind_eq_some_iff.mp h
      obtain ⟨r, hr, rfl⟩ := Option.map_eq_some_iff.mp h
      rw [encode_cons, ← ih hr]
      exact encodeChar_of_next (Prod.ext hc rfl)
  · rintro rfl
    induction s with
    | nil => exact decode?_nil
    | cons c s ih =>
      obtain ⟨b, t, ht⟩ := List.exists_cons_of_ne_nil (String.utf8EncodeChar_ne_nil (c := c))
      have hnext : next b (t ++ encode s) = (some c, encode s) := by
        apply next_of_encodeChar
        rw [encodeChar, ht, List.cons_append]
      rw [encode_cons, encodeChar, ht, List.cons_append, decode?_cons, hnext, Option.bind_some, ih]
      rfl

/-- Bytes that are no encoding are no text, and an encoding is the text it was made of. -/
theorem decodeText?_eq_some_iff {v : String} : decodeText? bs = some v ↔ bs = encodeText v := by
  rw [decodeText?, Option.map_eq_some_iff, encodeText]
  constructor
  · rintro ⟨s, hs, rfl⟩
    rw [String.toList_ofList]
    exact decode?_eq_some_iff.mp hs
  · intro h
    exact ⟨v.toList, decode?_eq_some_iff.mpr h, String.ofList_toList⟩

end TracedService.Text.Utf8

namespace TracedService.Environment

/-- A variable has a text exactly if its bytes are that text in UTF-8. -/
theorem text?_eq_some_iff {env : Environment} {name v : String} :
    env.text? name = some v ↔ env.bytes? name = some (Text.Utf8.encodeText v) := by
  rw [text?, Option.bind_eq_some_iff]
  constructor
  · rintro ⟨bs, hbs, hv⟩
    rw [hbs, Text.Utf8.decodeText?_eq_some_iff.mp hv]
  · intro h
    exact ⟨_, h, Text.Utf8.decodeText?_eq_some_iff.mpr rfl⟩

end TracedService.Environment
