import TracedService.Text.Ascii
import TracedService.Text.Blank
import TracedService.Text.Percent

/-! Codes are read back: plain ASCII as UTF-8, hexadecimal numbers, and percent encoding. -/

namespace TracedService.Text

variable {c : Char} {s : List Char}

theorem isAscii_iff : isAscii c = true ↔ c.toNat < 128 := by
  simp [isAscii]

theorem forall_isAscii {P : Char → Prop} (h : ∀ n < 128, P (Char.ofNat n)) (hc : isAscii c = true) :
    P c := by
  rw [← Char.ofNat_toNat c]
  exact h c.toNat (isAscii_iff.mp hc)

theorem lower_of_isAscii_eq_false (h : isAscii c = false) : lower c = c := by
  have hcapital : isCapital c = false := by
    simp only [isCapital, Bool.and_eq_false_iff, decide_eq_false_iff_not]
    right
    intro hle
    have hascii : isAscii c = true := isAscii_iff.mpr (Nat.lt_of_le_of_lt hle (by decide))
    cases hascii.symm.trans h
  rw [lower, hcapital]
  rfl

theorem toNat_ofNat_of_lt {n : Nat} (h : n < 128) : (Char.ofNat n).toNat = n := by
  have hv : n.isValidChar := .inl (by omega)
  rw [Char.ofNat, dif_pos hv]
  rfl

theorem Utf8.encodeChar_of_isAscii (h : isAscii c = true) :
    encodeChar c = [UInt8.ofNat c.toNat] := by
  have hc : c.toNat ≤ 127 := Nat.le_of_lt_succ (isAscii_iff.mp h)
  simp [encodeChar, String.utf8EncodeChar, hc]

theorem Utf8.encode_of_isAscii (h : ∀ c ∈ s, isAscii c = true) :
    encode s = s.map fun c => UInt8.ofNat c.toNat := by
  induction s with
  | nil => rfl
  | cons c r ih =>
    rw [encode, List.flatMap_cons, encodeChar_of_isAscii (h c (by simp))]
    exact congrArg _ (ih fun d hd => h d (List.mem_cons_of_mem _ hd))

/-- Bytes below 128 stand for themselves only. -/
theorem Utf8.le_toNat_of_mem_encodeChar {b : UInt8} (h : isAscii c = false)
    (hb : b ∈ encodeChar c) : 128 ≤ b.toNat := by
  have hc : ¬ c.val.toNat ≤ 127 := fun hle => by
    rw [isAscii_iff.mpr (Nat.lt_succ_of_le hle)] at h
    cases h
  simp only [encodeChar, String.utf8EncodeChar, if_neg hc] at hb
  split at hb
  · simp only [List.mem_cons, List.not_mem_nil, or_false] at hb
    rcases hb with rfl | rfl <;> simp <;> omega
  · split at hb
    · simp only [List.mem_cons, List.not_mem_nil, or_false] at hb
      rcases hb with rfl | rfl | rfl <;> simp <;> omega
    · simp only [List.mem_cons, List.not_mem_nil, or_false] at hb
      rcases hb with rfl | rfl | rfl | rfl <;> simp <;> omega

theorem toNat_ofNat_of_isAscii (h : isAscii c = true) : (UInt8.ofNat c.toNat).toNat = c.toNat := by
  have := isAscii_iff.mp h
  simp
  omega

theorem Utf8.decode?_of_isAscii (h : ∀ c ∈ s, isAscii c = true) :
    decode? (s.map fun c => UInt8.ofNat c.toNat) = some s := by
  induction s with
  | nil => simp [decode?, pieces]
  | cons c r ih =>
    have hc := h c (by simp)
    have hnext : next (UInt8.ofNat c.toNat) (r.map fun c => UInt8.ofNat c.toNat) =
        (some c, r.map fun c => UInt8.ofNat c.toNat) := by
      have hle : UInt8.ofNat c.toNat ≤ 0x7F := by
        rw [UInt8.le_iff_toNat_le, toNat_ofNat_of_isAscii hc]
        exact Nat.le_of_lt_succ (isAscii_iff.mp hc)
      simp only [next, lead?, if_pos hle, tail, toNat_ofNat_of_isAscii hc, Char.ofNat_toNat]
    rw [decode?] at ih ⊢
    rw [List.map_cons, pieces, hnext]
    simp only [List.mapM_cons, id]
    rw [ih fun d hd => h d (List.mem_cons_of_mem _ hd)]
    rfl

namespace Hex

theorem value?_digit : ∀ n < 16, value? (digit n) = some n := by
  decide

theorem forall_mem_padded {P : Char → Prop} (h : ∀ n < 16, P (digit n)) (width n : Nat) :
    ∀ c ∈ padded width n, P c := by
  induction width generalizing n with
  | zero => exact nofun
  | succ width ih =>
    intro c hc
    rcases List.mem_append.mp hc with hc | hc
    · exact ih _ c hc
    · rw [List.mem_singleton.mp hc]
      exact h _ (Nat.mod_lt _ (by decide))

theorem length_padded (width n : Nat) : (padded width n).length = width := by
  induction width generalizing n with
  | zero => rfl
  | succ width ih => rw [padded, List.length_append, ih, List.length_singleton]

theorem readFrom?_append (acc : Nat) (a b : List Char) :
    readFrom? acc (a ++ b) = (readFrom? acc a).bind fun n => readFrom? n b := by
  induction a generalizing acc with
  | nil => rfl
  | cons c r ih =>
    rw [List.cons_append, readFrom?, readFrom?]
    cases value? c with
    | none => rfl
    | some d => exact ih _

theorem readFrom?_padded (acc width n : Nat) :
    readFrom? acc (padded width n) = some (acc * Nat.pow 16 width + n % Nat.pow 16 width) := by
  induction width generalizing n with
  | zero => simp [padded, readFrom?, Nat.mod_one]
  | succ width ih =>
    have hpow : Nat.pow 16 (width + 1) = 16 * Nat.pow 16 width := Nat.mul_comm _ _
    rw [padded, readFrom?_append, ih, Option.bind_some, readFrom?,
      value?_digit _ (Nat.mod_lt _ (by decide)), Option.bind_some, readFrom?, hpow, Nat.mod_mul,
      Nat.mul_left_comm]
    congr 1
    omega

theorem read?_padded {limit width n : Nat} (hpos : 0 < width) (hn : n < Nat.pow 16 width)
    (hlimit : n < limit) : read? limit (padded width n) = some n := by
  have hdigits : ∀ c ∈ padded width n, c ≠ '+' := forall_mem_padded (by decide) width n
  have hlength := length_padded width n
  have hread : readFrom? 0 (padded width n) = some n := by
    rw [readFrom?_padded, Nat.mod_eq_of_lt hn, Nat.zero_mul, Nat.zero_add]
  cases hp : padded width n with
  | nil =>
    rw [hp] at hlength
    exact absurd hlength (Nat.ne_of_lt hpos)
  | cons c r =>
    rw [hp] at hdigits hread
    have hc : c ≠ '+' := hdigits c (by simp)
    rw [read?, hread]
    · simp [hlimit]
    · intro r' he
      cases he
      exact absurd rfl hc

end Hex

namespace Percent

theorem bytes_cons (h : c ≠ '%') (s : List Char) :
    bytes (c :: s) = Utf8.encodeChar c ++ bytes s := by
  rw [bytes]
  intro a b r he
  cases he
  exact absurd rfl h

theorem bytes_triplet_append (b : UInt8) (s : List Char) :
    bytes (triplet b ++ s) = b :: bytes s := by
  have hdigit : ∀ n < 16, Hex.value? (capitalDigit n) = some n := by decide
  have hb : b.toNat < 256 := b.toNat_lt
  have hbyte : UInt8.ofNat (b.toNat / 16 * 16 + b.toNat % 16) = b := by
    rw [Nat.div_add_mod']
    exact UInt8.ofNat_toNat
  simp only [triplet, List.cons_append, List.nil_append, bytes]
  rw [hdigit _ (by omega), hdigit _ (by omega)]
  exact congrArg (· :: bytes s) hbyte

theorem bytes_triplets_append (bs : Utf8.Bytes) (s : List Char) :
    bytes (bs.flatMap triplet ++ s) = bs ++ bytes s := by
  induction bs with
  | nil => rfl
  | cons b bs ih =>
    rw [List.flatMap_cons, List.append_assoc, bytes_triplet_append, ih, List.cons_append]

/-- Whatever is escaped, the bytes are those of the text, unless it holds percent signs itself. -/
theorem bytes_encode (plain : Char → Bool) (h : '%' ∉ s) :
    bytes (encode plain s) = Utf8.encode s := by
  induction s with
  | nil => simp [encode, bytes, Utf8.encode]
  | cons c r ih =>
    rw [List.mem_cons, not_or] at h
    have ih := ih h.2
    rw [encode] at ih ⊢
    rw [List.flatMap_cons, Utf8.encode, List.flatMap_cons]
    split
    · rw [List.singleton_append, bytes_cons (Ne.symm h.1), ih]
      rfl
    · rw [bytes_triplets_append, ih]
      rfl

theorem decode?_encode (plain : Char → Bool) (ha : ∀ c ∈ s, isAscii c = true) (hp : '%' ∉ s) :
    decode? (encode plain s) = some s := by
  rw [decode?, bytes_encode plain hp, Utf8.encode_of_isAscii ha, Utf8.decode?_of_isAscii ha]

theorem decode?_of_isAscii (ha : ∀ c ∈ s, isAscii c = true) (hp : '%' ∉ s) :
    decode? s = some s := by
  have hself : encode (fun _ => true) s = s := by
    simp [encode]
  have := decode?_encode (fun _ => true) ha hp
  rwa [hself] at this

/-- What a code is made of: characters let through, the percent sign, and capital digits. -/
theorem forall_mem_encode {P : Char → Prop} {plain : Char → Bool}
    (hplain : ∀ c, plain c = true → P c) (hsign : P '%') (hdigit : ∀ n < 16, P (capitalDigit n)) :
    ∀ c ∈ encode plain s, P c := by
  intro c hc
  obtain ⟨d, _, hd⟩ := List.mem_flatMap.mp hc
  split at hd
  · rename_i hp
    rw [List.mem_singleton.mp hd]
    exact hplain d hp
  · obtain ⟨b, _, hb⟩ := List.mem_flatMap.mp hd
    have hlt : b.toNat < 256 := b.toNat_lt
    simp only [triplet, List.mem_cons, List.not_mem_nil, or_false] at hb
    rcases hb with rfl | rfl | rfl
    · exact hsign
    · exact hdigit _ (by omega)
    · exact hdigit _ (by omega)

end Percent

end TracedService.Text
