import Mathlib
import RuleScan.Config

/-!
# Time spans in the settings

A configuration keeps time spans as whole milliseconds in a word of 64 bits, while a span has a word
of 64 bits for its seconds alone. A span whose milliseconds fit is kept, but for what comes after
its last whole millisecond (`Duration.floorMillis`); of any other one the remainder modulo `2 ^ 64`
is left, so that a longer span may become a shorter bound or a shorter pause. The main result is
`Config.durations_kept_iff`.
-/

namespace RuleScan

/-! ## Spans -/

namespace Duration

/-- Spans in their order: seconds are compared first. -/
instance : LE Duration := ⟨fun d e => d.secs < e.secs ∨ d.secs = e.secs ∧ d.nanos ≤ e.nanos⟩

theorem le_iff {d e : Duration} : d ≤ e ↔ d.toNanos ≤ e.toNanos := by
  have hd := d.nanos_lt
  have he := e.nanos_lt
  show d.secs < e.secs ∨ d.secs = e.secs ∧ d.nanos ≤ e.nanos ↔ _
  rw [toNanos, toNanos, UInt64.lt_iff_toNat_lt, ← UInt64.toNat_inj]
  omega

theorem toNanos_inj {d e : Duration} : d.toNanos = e.toNanos ↔ d = e := by
  refine ⟨fun h => ?_, congrArg toNanos⟩
  obtain ⟨secs, nanos, hd⟩ := d
  obtain ⟨secs', nanos', he⟩ := e
  simp only [toNanos] at h
  obtain rfl : secs = secs' := UInt64.toNat_inj.1 (by omega)
  obtain rfl : nanos = nanos' := by omega
  rfl

/-- A span without what comes after its last whole millisecond. -/
def floorMillis (d : Duration) : Duration :=
  ⟨d.secs, d.nanos / 1000000 * 1000000, by have := d.nanos_lt; omega⟩

theorem wholeMillis_eq (d : Duration) : d.wholeMillis = d.toNanos / 1000000 := by
  rw [wholeMillis, toNanos]
  omega

theorem wholeMillis_mono {d e : Duration} (h : d ≤ e) : d.wholeMillis ≤ e.wholeMillis := by
  rw [wholeMillis_eq, wholeMillis_eq]
  exact Nat.div_le_div_right (le_iff.1 h)

theorem toNanos_floorMillis (d : Duration) : d.floorMillis.toNanos = d.wholeMillis * 1000000 := by
  show d.secs.toNat * 1000000000 + d.nanos / 1000000 * 1000000 = _
  rw [wholeMillis]
  omega

theorem isZero_iff {d : Duration} : d.isZero ↔ d.toNanos = 0 := by
  rw [isZero, toNanos, Bool.and_eq_true, beq_iff_eq, beq_iff_eq, ← UInt64.toNat_inj]
  have hzero : (0 : UInt64).toNat = 0 := rfl
  omega

/-- Nanoseconds are kept exactly where their seconds fit. -/
theorem toNanos_ofNanos {n : Nat} (h : n / 1000000000 < 2 ^ 64) : (ofNanos n).toNanos = n := by
  show (n / 1000000000).toUInt64.toNat * 1000000000 + n % 1000000000 = n
  rw [Nat.toUInt64_eq, UInt64.toNat_ofNat']
  omega

/-- The seconds of milliseconds fit. -/
theorem toNanos_ofMillis (ms : UInt64) : (ofMillis ms).toNanos = ms.toNat * 1000000 := by
  have hms := ms.toNat_lt
  exact toNanos_ofNanos (by omega)

theorem toNat_toMillis (d : Duration) : d.toMillis.toNat = d.wholeMillis % 2 ^ 64 := by
  rw [toMillis, Nat.toUInt64_eq, UInt64.toNat_ofNat']

/-- What is had back from the milliseconds of a span. -/
theorem toNanos_ofMillis_toMillis (d : Duration) :
    (ofMillis d.toMillis).toNanos = d.wholeMillis % 2 ^ 64 * 1000000 := by
  rw [toNanos_ofMillis, toNat_toMillis]

/-- **A span is only rounded down** just when its milliseconds fit. -/
theorem ofMillis_toMillis_eq_iff {d : Duration} :
    ofMillis d.toMillis = d.floorMillis ↔ d.wholeMillis < 2 ^ 64 := by
  rw [← toNanos_inj, toNanos_ofMillis_toMillis, toNanos_floorMillis]
  omega

end Duration

/-! ## Settings -/

/-- How many milliseconds a pace pauses for before each buffer. -/
def Pace.millis : Pace → Nat
  | unthrottled => 0
  | fixedDelay ms => ms.toNat

namespace Config

variable (c : Config) (d : Duration)

theorem timeout_withTimeout : (c.withTimeout d).timeout = some (.ofMillis d.toMillis) := rfl

theorem pace_withFixedDelay_of_isZero {d : Duration} (h : d.isZero) :
    (c.withFixedDelay d).pace = .unthrottled :=
  if_pos h

theorem pace_withFixedDelay {d : Duration} (h : d.isZero = false) :
    (c.withFixedDelay d).pace = .fixedDelay d.toMillis :=
  if_neg (by rw [h]; exact Bool.false_ne_true)

theorem millis_withFixedDelay : (c.withFixedDelay d).pace.millis = d.wholeMillis % 2 ^ 64 := by
  cases h : d.isZero with
  | true =>
    rw [pace_withFixedDelay_of_isZero c h, Pace.millis, Duration.wholeMillis_eq,
      Duration.isZero_iff.1 h, Nat.zero_div, Nat.zero_mod]
  | false => rw [pace_withFixedDelay c h, Pace.millis, Duration.toNat_toMillis]

/-- Of all spans up to some one none has a greater remainder, if and only if that one fits or has
the greatest remainder there is. -/
theorem remainder_mono_iff :
    (∀ e ≤ d, e.wholeMillis % 2 ^ 64 ≤ d.wholeMillis % 2 ^ 64) ↔
      d.wholeMillis < 2 ^ 64 ∨ d.wholeMillis % 2 ^ 64 = 2 ^ 64 - 1 := by
  constructor
  · intro h
    by_contra hnot
    -- the longest span that fits is no longer than `d`
    let e := Duration.ofNanos ((2 ^ 64 - 1) * 1000000)
    have he : e.toNanos = (2 ^ 64 - 1) * 1000000 := Duration.toNanos_ofNanos (by omega)
    have hmillis := e.wholeMillis_eq
    have hd := d.wholeMillis_eq
    have hremainder := h e (by rw [Duration.le_iff, he]; omega)
    omega
  · rintro h e he
    have hmono := Duration.wholeMillis_mono he
    omega

/-- What becomes of a span as a bound on the time of scans and as a pause between them. -/
structure DurationKept : Prop where
  /-- The bound that is left of a span. -/
  timeout_eq : ∃ t, (c.withTimeout d).timeout = some t ∧
    t.toNanos = d.wholeMillis % 2 ^ 64 * 1000000
  /-- The pause that is left of a span. -/
  delay_eq : (c.withFixedDelay d).pace.millis = d.wholeMillis % 2 ^ 64
  timeout_exact : (c.withTimeout d).timeout = some d.floorMillis ↔ d.wholeMillis < 2 ^ 64
  delay_exact : (∃ ms, (c.withFixedDelay d).pace = .fixedDelay ms ∧ ms.toNat = d.wholeMillis) ↔
    d.isZero = false ∧ d.wholeMillis < 2 ^ 64
  /-- When no shorter span becomes a longer bound. -/
  timeout_mono :
    (∀ e ≤ d, ∃ s t, (c.withTimeout e).timeout = some s ∧ (c.withTimeout d).timeout = some t ∧
      s ≤ t) ↔ d.wholeMillis < 2 ^ 64 ∨ d.wholeMillis % 2 ^ 64 = 2 ^ 64 - 1
  /-- When no shorter span becomes a longer pause. -/
  delay_mono : (∀ e ≤ d, (c.withFixedDelay e).pace.millis ≤ (c.withFixedDelay d).pace.millis) ↔
    d.wholeMillis < 2 ^ 64 ∨ d.wholeMillis % 2 ^ 64 = 2 ^ 64 - 1

/-- **Spans are kept as long as their milliseconds fit into 64 bits**: then they are rounded down to
whole milliseconds and keep their order, as a bound and as a pause. Of a longer one the remainder is
left, and shorter spans are then kept as longer ones, unless it is the greatest remainder. -/
theorem durations_kept_iff : DurationKept c d where
  timeout_eq := ⟨_, timeout_withTimeout c d, d.toNanos_ofMillis_toMillis⟩
  delay_eq := millis_withFixedDelay c d
  timeout_exact := by
    rw [timeout_withTimeout, Option.some_inj]
    exact Duration.ofMillis_toMillis_eq_iff
  delay_exact := by
    cases h : d.isZero with
    | true =>
      rw [pace_withFixedDelay_of_isZero c h]
      simp
    | false =>
      have hms := d.toNat_toMillis
      rw [pace_withFixedDelay c h]
      simp only [Pace.fixedDelay.injEq, exists_eq_left', true_and]
      omega
  timeout_mono := by
    rw [← remainder_mono_iff d]
    refine forall₂_congr fun e _ => ?_
    have he := e.toNanos_ofMillis_toMillis
    have hd := d.toNanos_ofMillis_toMillis
    simp only [timeout_withTimeout, Option.some.injEq, exists_and_left, exists_eq_left',
      Duration.le_iff]
    omega
  delay_mono := by
    rw [← remainder_mono_iff d]
    exact forall₂_congr fun e _ => by rw [millis_withFixedDelay, millis_withFixedDelay]

/-- A span of a little more than `2 ^ 64` milliseconds becomes a bound and a pause of 384 of them,
which is less than what a second becomes. -/
theorem long_span_wraps :
    let long : Duration := ⟨18446744073709552, 0, by decide⟩
    let second : Duration := ⟨1, 0, by decide⟩
    second ≤ long ∧
      (({} : Config).withTimeout long).timeout = some ⟨0, 384000000, by decide⟩ ∧
      long.floorMillis = long ∧
      (({} : Config).withTimeout second).timeout = some second ∧
      ¬second ≤ ⟨0, 384000000, by decide⟩ ∧
      (({} : Config).withFixedDelay long).pace = .fixedDelay 384 ∧
      (({} : Config).withFixedDelay second).pace = .fixedDelay 1000 := by
  simp only [Duration.le_iff]
  decide

end Config

end RuleScan
