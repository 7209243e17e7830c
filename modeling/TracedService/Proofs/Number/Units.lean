import Mathlib
import TracedService.Proofs.Number.Numeral

/-! Doubles by what they count. Main statements: clamping is clamping of the count, and a double
that was read can be multiplied by a power of two without rounding. -/

namespace TracedService

namespace Binary64

variable {x : Binary64} {n : Nat}

/-- The count of units, between the two infinities. What is no number has none. -/
def units? : Binary64 → Option (WithBot (WithTop Int))
  | nan => none
  | infinite true => some ⊥
  | infinite false => some ((⊤ : WithTop Int) : WithBot (WithTop Int))
  | finite true units => some (((-(units : Int) : Int) : WithTop Int) : WithBot (WithTop Int))
  | finite false units => some (((units : Int) : WithTop Int) : WithBot (WithTop Int))

/-- The count brought into the range from zero to one. -/
def clampUnits (v : WithBot (WithTop Int)) : WithBot (WithTop Int) :=
  max (((0 : Int) : WithTop Int) : WithBot (WithTop Int))
    (min v (((one : Int) : WithTop Int) : WithBot (WithTop Int)))

theorem one_eq_mul {j k : Nat} (h : j + k = 1074) : one = Nat.pow 2 j * Nat.pow 2 k := by
  unfold one
  rw [← h]
  exact Nat.pow_add 2 j k

theorem one_pos : 0 < one := by
  rw [one_eq_mul (Nat.zero_add 1074)]
  generalize 1074 = k
  exact Nat.mul_pos (Nat.two_pow_pos 0) (Nat.two_pow_pos k)

theorem clampUnits_coe (v : Int) : clampUnits ((v : WithTop Int) : WithBot (WithTop Int)) =
    (((max 0 (min v one) : Int) : WithTop Int) : WithBot (WithTop Int)) := by
  unfold clampUnits
  norm_cast

theorem mul_pow_div_one {j k : Nat} (h : j + k = 1074) (n : Nat) :
    n * Nat.pow 2 j / one = n / Nat.pow 2 k := by
  rw [one_eq_mul h, Nat.mul_comm (Nat.pow 2 j)]
  exact Nat.mul_div_mul_right n (Nat.pow 2 k) (Nat.two_pow_pos j)

/-- Clamping a number clamps what it counts. -/
theorem units?_clampUnit (x : Binary64) : x.clampUnit.units? = x.units?.map clampUnits := by
  cases x with
  | nan => rfl
  | infinite negative =>
    cases negative
    · simp [clampUnit, units?, clampUnits]
    · simp [clampUnit, units?, clampUnits]
  | finite negative units =>
    cases negative with
    | true =>
      have hclamp : max 0 (min (-(units : Int)) one) = 0 := by omega
      rw [units?, Option.map_some, clampUnits_coe, hclamp]
      by_cases hunits : units = 0
      · subst hunits
        simp [clampUnit, units?]
      · simp [clampUnit, units?, hunits]
    | false =>
      rw [units?, Option.map_some, clampUnits_coe]
      by_cases hone : one < units
      · have hclamp : max 0 (min (units : Int) one) = one := by omega
        rw [hclamp]
        simp [clampUnit, units?, hone]
      · have hclamp : max 0 (min (units : Int) one) = units := by omega
        rw [hclamp]
        simp [clampUnit, units?, hone]

/-- What is no number is comparable to nothing. -/
instance : LE Binary64 where
  le x y := ∃ v w, x.units? = some v ∧ y.units? = some w ∧ v ≤ w

theorem clampUnit_le {y : Binary64} (h : x ≤ y) : x.clampUnit ≤ y.clampUnit := by
  obtain ⟨v, w, hv, hw, hle⟩ := h
  refine ⟨clampUnits v, clampUnits w, ?_, ?_, max_le_max_left _ (min_le_min_right _ hle)⟩
  · rw [units?_clampUnit, hv, Option.map_some]
  · rw [units?_clampUnit, hw, Option.map_some]

/-- Of the clamped numbers only zero may have a minus. -/
theorem clampUnit_negative (h : x.clampUnit = .finite true n) : n = 0 := by
  unfold clampUnit at h
  split at h
  · cases h
  · split at h
    · cases h
    · cases h
  · split at h
    · cases h
    · rename_i hunits
      split at h
      · cases h
      · cases h
        simpa using hunits

/-- At most 53 significant bits. -/
def Significant (n : Nat) : Prop :=
  ∃ m k, m < Nat.pow 2 53 ∧ n = m * Nat.pow 2 k

theorem Significant.of_le {m k : Nat} (h : m ≤ Nat.pow 2 53) : Significant (m * Nat.pow 2 k) := by
  rcases Nat.lt_or_eq_of_le h with hlt | rfl
  · exact ⟨m, k, hlt, rfl⟩
  · refine ⟨1, 53 + k, by decide, ?_⟩
    rw [Nat.one_mul]
    exact (Nat.pow_add 2 53 k).symm

theorem Significant.mul_pow (h : Significant n) (j : Nat) : Significant (n * Nat.pow 2 j) := by
  obtain ⟨m, k, hm, rfl⟩ := h
  refine ⟨m, k + j, hm, ?_⟩
  rw [Nat.mul_assoc]
  exact congrArg (m * ·) (Nat.pow_add 2 k j).symm

theorem roundDiv_le (num den : Nat) : roundDiv num den ≤ num / den + 1 := by
  unfold roundDiv
  dsimp only
  split
  · omega
  · split
    · omega
    · split <;> omega

theorem roundDiv_mul {den : Nat} (h : 0 < den) (q : Nat) : roundDiv (q * den) den = q := by
  simp [roundDiv, h]

theorem div_step_lt (q : Nat) : q / Nat.pow 2 (q.log2 - 52) < Nat.pow 2 53 := by
  apply Nat.div_lt_of_lt_mul
  calc q < Nat.pow 2 (q.log2 + 1) := Nat.lt_log2_self
    _ ≤ Nat.pow 2 (q.log2 - 52 + 53) := Nat.pow_le_pow_right (by decide) (by omega)
    _ = Nat.pow 2 (q.log2 - 52) * Nat.pow 2 53 := Nat.pow_add 2 _ _

theorem significant_nearestUnits (num den : Nat) : Significant (nearestUnits num den) := by
  unfold nearestUnits
  dsimp only
  split
  · rename_i hsmall
    have hle : roundDiv num den ≤ Nat.pow 2 53 := (roundDiv_le num den).trans hsmall
    have hbits : Significant (roundDiv num den * Nat.pow 2 0) := Significant.of_le hle
    rwa [show Nat.pow 2 0 = 1 from rfl, Nat.mul_one] at hbits
  · apply Significant.of_le
    refine (roundDiv_le _ _).trans ?_
    rw [← Nat.div_div_eq_div_mul]
    exact div_step_lt _

theorem Significant.step_dvd (h : Significant n) : Nat.pow 2 (n.log2 - 52) ∣ n := by
  obtain ⟨m, k, hm, rfl⟩ := h
  rcases Nat.eq_zero_or_pos m with rfl | hpos
  · rw [Nat.zero_mul]
    exact Nat.dvd_zero _
  · have hlog : (m * Nat.pow 2 k).log2 < 53 + k := by
      have hne : m * Nat.pow 2 k ≠ 0 := (Nat.mul_pos hpos (Nat.two_pow_pos k)).ne'
      apply (Nat.log2_lt hne).mpr
      calc m * Nat.pow 2 k < Nat.pow 2 53 * Nat.pow 2 k :=
            Nat.mul_lt_mul_of_pos_right hm (Nat.two_pow_pos k)
        _ = Nat.pow 2 (53 + k) := (Nat.pow_add 2 53 k).symm
    exact Nat.dvd_trans (Nat.pow_dvd_pow 2 (by omega)) (Nat.dvd_mul_left _ m)

theorem Significant.nearestUnits_mul (h : Significant n) {den : Nat} (hden : 0 < den) :
    nearestUnits (n * den) den = n := by
  unfold nearestUnits
  dsimp only
  rw [Nat.mul_div_cancel n hden]
  split
  · exact roundDiv_mul hden n
  · have hstep : 0 < Nat.pow 2 (n.log2 - 52) := Nat.two_pow_pos _
    have hdvd := h.step_dvd
    generalize Nat.pow 2 (n.log2 - 52) = step at hstep hdvd
    obtain ⟨d, rfl⟩ := hdvd
    have hnum : step * d * den = d * (den * step) := by
      rw [Nat.mul_comm step d, Nat.mul_assoc, Nat.mul_comm step den]
    rw [hnum, roundDiv_mul (Nat.mul_pos hden hstep), Nat.mul_comm]

theorem timesUnits_pow (h : Significant n) (k : Nat) :
    timesUnits n (Nat.pow 2 k * one) = n * Nat.pow 2 k := by
  rw [timesUnits, ← Nat.mul_assoc]
  exact (h.mul_pow k).nearestUnits_mul one_pos

theorem significant_one : Significant one := by
  rw [one_eq_mul (Nat.zero_add 1074)]
  generalize 1074 = k
  exact ⟨Nat.pow 2 0, k, by decide, rfl⟩

/-- The units of a finite number have 53 bits. -/
def Representable : Binary64 → Prop
  | finite _ units => Significant units
  | _ => True

theorem representable_ofDecimal (negative : Bool) (digits : Nat) (exponent : Int) :
    (ofDecimal negative digits exponent).Representable := by
  have hzero : Significant 0 := ⟨0, 0, by decide, rfl⟩
  unfold ofDecimal
  dsimp only
  split
  · exact hzero
  · split
    · exact hzero
    · split
      · trivial
      · split
        · split
          · exact significant_nearestUnits _ _
          · trivial
        · split
          · exact significant_nearestUnits _ _
          · trivial

theorem Representable.clampUnit (h : x.Representable) : x.clampUnit.Representable := by
  have hzero : Significant 0 := ⟨0, 0, by decide, rfl⟩
  unfold Binary64.clampUnit
  split
  · trivial
  · split
    · exact hzero
    · exact significant_one
  · split
    · exact hzero
    · split
      · exact significant_one
      · exact h

end Binary64

namespace Number

variable {s rest : List Char} {x : Binary64}

theorem representable_of_leading? (h : leading? s = some (x, rest)) : x.Representable := by
  obtain ⟨p, -, hlongest⟩ := leading?_eq_some_iff.mp h
  have hnumeral := read?_eq_some_iff.mp hlongest.reads
  cases hnumeral with
  | mk mark s negative x marked unsigned =>
    cases unsigned with
    | infinite word h => trivial
    | nan word h => trivial
    | decimal m whole fraction u e mantissa exponent => exact Binary64.representable_ofDecimal _ _ _

end Number

end TracedService
