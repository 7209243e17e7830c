import Mathlib.Data.Set.Defs
import TracedService.Proofs.Sampling.Rate
import TracedService.Proofs.Trace.Recorder

/-! Which traces are sampled under a rate text. Main statement: `sampling_threshold`, those whose
number is below a bound, and the bound grows with the rate. -/

namespace TracedService

namespace SamplingPolicy

open Binary64 (one Significant timesUnits)

variable {p : SamplingPolicy} {rate rate' : String} {id : TraceId} {negative : Bool} {units : Nat}

/-- A span with which a trace begins, under the policy of a rate text. -/
inductive Root (rate : String) (id : TraceId) : ActiveSpan → Prop
  | start (t : Tracing) (r : Recorder) (request : SpanRequest) (parent : Context)
      (policy : t.policy = (read rate).1) (begins : parent.active = none)
      (trace : t.ids.trace r.traces = id) : Root rate id (r.start t request parent).1

def rootTraces (rate : String) : Set TraceId :=
  {id | ∃ a, Root rate id a ∧ a.context.sampled = true}

/-- The bound of a rate text. -/
structure Threshold (rate : String) (bound : Nat) : Prop where
  le : bound ≤ Nat.pow 2 63
  root : ∀ id a, Root rate id a →
    (a.context.sampled = true ↔ ((id.setWidth 64) >>> 1).toNat < bound)
  traces : ∀ id, id ∈ rootTraces rate ↔ ((id.setWidth 64) >>> 1).toNat < bound
  always : (read rate).1 = .alwaysOn → bound = Nat.pow 2 63
  full : (read rate).1.ratio = .finite false one → bound = Nat.pow 2 63
  zero : ∀ negative, (read rate).1.ratio = .finite negative 0 → bound = 0
  /-- The product of the ratio and 2^63, as doubles, cut to an integer. -/
  product : ∀ negative units, (read rate).1.ratio = .finite negative units →
    bound = timesUnits units (Nat.pow 2 63 * one) / one

/-- Under the policy of a rate text a span from outside hands down its decision. -/
def FollowsRemote (rate : String) : Prop :=
  ∀ ratio, (read rate).1 = .parentRatio ratio →
    ∀ (t : Tracing) (r : Recorder) (request : SpanRequest) (parent : Context) (a : ActiveSpan),
      t.policy = (read rate).1 → parent.active = some a → a.context.remote = true →
        (r.start t request parent).1.context.sampled = a.context.sampled

/-- How the traces of two rate texts lie to each other. -/
structure Nested (rate rate' : String) : Prop where
  comparable : rootTraces rate ⊆ rootTraces rate' ∨ rootTraces rate' ⊆ rootTraces rate
  larger : (read rate).1.ratio ≤ (read rate').1.ratio → rootTraces rate ⊆ rootTraces rate'
  number : ∀ x y, leadingNumber? rate = some x → leadingNumber? rate' = some y → x ≤ y →
    rootTraces rate ⊆ rootTraces rate'

/-- The ratio is a count of units from zero to one, and the threshold is its share of 2^63. -/
structure Share (p : SamplingPolicy) (negative : Bool) (units : Nat) : Prop where
  ratio : p.ratio = .finite negative units
  le : units ≤ one
  bits : Significant units
  sign : negative = true → units = 0
  threshold : p.threshold = units * Nat.pow 2 63 / one

theorem share_le (h : units ≤ one) : units * Nat.pow 2 63 / one ≤ Nat.pow 2 63 :=
  Nat.div_le_of_le_mul (Nat.mul_le_mul_right _ h)

theorem share_one : one * Nat.pow 2 63 / one = Nat.pow 2 63 :=
  Nat.mul_div_cancel_left _ Binary64.one_pos

theorem share_alwaysOn : Share .alwaysOn false one where
  ratio := rfl
  le := Nat.le_refl one
  bits := Binary64.significant_one
  sign := nofun
  threshold := share_one.symm

theorem share_parentRatio {x : Binary64} (h : x ≠ .nan) (hx : x.Representable) :
    ∃ negative units, Share (.parentRatio x.clampUnit) negative units := by
  obtain ⟨negative, units, hclamp, hle⟩ := Binary64.clampUnit_finite x h
  have hbits := hx.clampUnit
  rw [hclamp] at hbits
  have hsign : negative = true → units = 0 := by
    rintro rfl
    exact Binary64.clampUnit_negative hclamp
  refine ⟨negative, units, hclamp, hle, hbits, hsign, ?_⟩
  rw [hclamp, SamplingPolicy.threshold]
  cases negative with
  | true =>
    rw [hsign rfl, if_pos rfl, Nat.zero_mul, Nat.zero_div]
  | false =>
    have hcut := Binary64.mul_pow_div_one (j := 63) (k := 1011) (by decide) units
    generalize 1011 = k at hcut ⊢
    have hshare := share_le hle
    rw [hcut] at hshare ⊢
    exact Nat.min_eq_left hshare

theorem exists_share (rate : String) : ∃ negative units, Share (read rate).1 negative units := by
  unfold read
  split
  · exact ⟨_, _, share_alwaysOn⟩
  · split
    · exact ⟨_, _, share_alwaysOn⟩
    · exact ⟨_, _, share_alwaysOn⟩
    · rename_i x hx hnumber
      obtain ⟨⟨y, rest⟩, hleading, rfl⟩ := Option.map_eq_some_iff.mp hnumber
      exact share_parentRatio hx (Number.representable_of_leading? hleading)

theorem traceNumber_eq (id : TraceId) : traceNumber id = ((id.setWidth 64) >>> 1).toNat := by
  rw [traceNumber, BitVec.toNat_ushiftRight, BitVec.toNat_setWidth, Nat.shiftRight_eq_div_pow]

theorem traceNumber_lt (id : TraceId) : traceNumber id < Nat.pow 2 63 := by
  have hlow : id.toNat % Nat.pow 2 64 < Nat.pow 2 64 := Nat.mod_lt _ (by decide)
  rw [traceNumber]
  exact Nat.div_lt_of_lt_mul hlow

theorem samples_iff {parent : Context} (h : parent.active = none) :
    p.samples parent id = true ↔ traceNumber id < p.threshold := by
  cases p with
  | alwaysOn => exact iff_of_true rfl (traceNumber_lt id)
  | parentRatio ratio => simp [samples, h]

theorem sampled_of_root {a : ActiveSpan} (h : Root rate id a) :
    a.context.sampled = true ↔ traceNumber id < (read rate).1.threshold := by
  obtain ⟨t, r, request, parent, policy, begins, rfl⟩ := h
  have htrace : r.traceId t parent = t.ids.trace r.traces := by
    rw [Recorder.traceId, begins]
  rw [Recorder.start_context, Recorder.nextContext_sampled, Recorder.sampled, begins, htrace,
    policy]
  exact samples_iff begins

theorem exists_root (rate : String) (id : TraceId) : ∃ a, Root rate id a :=
  ⟨_, .start ⟨(read rate).1, ⟨fun _ => id, fun _ => 0⟩⟩ {} ⟨"", "", .internal, []⟩ {} rfl rfl rfl⟩

theorem mem_rootTraces : id ∈ rootTraces rate ↔ traceNumber id < (read rate).1.threshold := by
  constructor
  · rintro ⟨a, hroot, hsampled⟩
    exact (sampled_of_root hroot).mp hsampled
  · intro h
    obtain ⟨a, hroot⟩ := exists_root rate id
    exact ⟨a, hroot, (sampled_of_root hroot).mpr h⟩

theorem rootTraces_subset (h : (read rate).1.threshold ≤ (read rate').1.threshold) :
    rootTraces rate ⊆ rootTraces rate' := by
  intro id hid
  rw [mem_rootTraces] at hid ⊢
  exact Nat.lt_of_lt_of_le hid h

theorem threshold_of_read (rate : String) : Threshold rate (read rate).1.threshold := by
  obtain ⟨negative, units, hshare⟩ := exists_share rate
  have hratio {n u} (h : (read rate).1.ratio = .finite n u) :
      (read rate).1.threshold = u * Nat.pow 2 63 / one := by
    obtain ⟨-, rfl⟩ := Binary64.finite.inj (h.symm.trans hshare.ratio)
    exact hshare.threshold
  refine ⟨?_, ?_, ?_, ?_, ?_, ?_, ?_⟩
  · rw [hshare.threshold]
    exact share_le hshare.le
  · intro id a hroot
    rw [sampled_of_root hroot, traceNumber_eq]
  · intro id
    rw [mem_rootTraces, traceNumber_eq]
  · intro halways
    rw [halways]
    rfl
  · intro hfull
    rw [hratio hfull, share_one]
  · intro negative hzero
    rw [hratio hzero, Nat.zero_mul, Nat.zero_div]
  · intro n u h
    obtain ⟨-, rfl⟩ := Binary64.finite.inj (h.symm.trans hshare.ratio)
    rw [Binary64.timesUnits_pow hshare.bits]
    exact hshare.threshold

theorem Share.units?_ratio (h : Share p negative units) :
    p.ratio.units? = some (((units : Int) : WithTop Int) : WithBot (WithTop Int)) := by
  rw [h.ratio]
  cases negative with
  | false => rfl
  | true =>
    rw [h.sign rfl]
    rfl

theorem threshold_mono (h : (read rate).1.ratio ≤ (read rate').1.ratio) :
    (read rate).1.threshold ≤ (read rate').1.threshold := by
  obtain ⟨negative, units, hshare⟩ := exists_share rate
  obtain ⟨negative', units', hshare'⟩ := exists_share rate'
  obtain ⟨v, w, hv, hw, hle⟩ := h
  rw [hshare.units?_ratio, Option.some.injEq] at hv
  rw [hshare'.units?_ratio, Option.some.injEq] at hw
  subst hv hw
  have hunits : units ≤ units' := by exact_mod_cast hle
  rw [hshare.threshold, hshare'.threshold]
  exact Nat.div_le_div_right (Nat.mul_le_mul_right _ hunits)

theorem ratio_of_number {x : Binary64} (h : leadingNumber? rate = some x) (hx : x ≠ .nan) :
    (read rate).1.ratio = x.clampUnit := by
  obtain ⟨p, hlongest⟩ := leadingNumber?_eq_some_iff.mp h
  rw [read_of_longest hlongest, ofNumber_of_ne hx]
  rfl

theorem nested_of_read (rate rate' : String) : Nested rate rate' where
  comparable := by
    rcases Nat.le_total (read rate).1.threshold (read rate').1.threshold with h | h
    · exact .inl (rootTraces_subset h)
    · exact .inr (rootTraces_subset h)
  larger h := rootTraces_subset (threshold_mono h)
  number x y hx hy hle := by
    have hclamp := Binary64.clampUnit_le hle
    obtain ⟨v, w, hv, hw, -⟩ := hle
    have hne : x ≠ .nan := by
      rintro rfl
      cases hv
    have hne' : y ≠ .nan := by
      rintro rfl
      cases hw
    rw [← ratio_of_number hx hne, ← ratio_of_number hy hne'] at hclamp
    exact rootTraces_subset (threshold_mono hclamp)

theorem followsRemote_of_read (rate : String) : FollowsRemote rate := by
  intro ratio hread t r request parent a hpolicy hactive hremote
  rw [Recorder.start_context, Recorder.nextContext_sampled, Recorder.sampled, hactive]
  simp only [hremote, if_true]
  rw [hpolicy, hread]
  simp only [samples, hactive]

/-- Which traces are sampled under a rate text is decided by a bound on the trace number; of two
rate texts the one with the larger ratio keeps what the other keeps, and a span from outside hands
down its decision whatever the ratio. -/
theorem sampling_threshold (rate : String) :
    (∃ bound, Threshold rate bound) ∧ (∀ rate', Nested rate rate') ∧ FollowsRemote rate :=
  ⟨⟨_, threshold_of_read rate⟩, nested_of_read rate, followsRemote_of_read rate⟩

end SamplingPolicy

end TracedService
