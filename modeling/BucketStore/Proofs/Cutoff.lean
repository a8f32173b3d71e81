import BucketStore.Proofs.Action
import BucketStore.Proofs.Rounding
import BucketStore.Store.Store

/-!
Cutoffs. Milliseconds since the epoch keep the order of instants, are exact on whole seconds, and
are less than one and a half milliseconds off; so a cutoff depends on the instant alone, and a later
instant has no earlier one.
-/

namespace BucketStore

namespace Moment

/-- Clocks are less than a day ahead of UTC or behind it. -/
def IsZoned (m : Moment) : Prop :=
  ∀ offset ∈ m.offset, -microsPerDay < offset ∧ offset < microsPerDay

instance (m : Moment) : Decidable m.IsZoned :=
  inferInstanceAs (Decidable (∀ offset ∈ m.offset, -microsPerDay < offset ∧ offset < microsPerDay))

/-- A magnitude in milliseconds after both roundings, before its fraction is dropped. -/
def roundedMillis (micros : Nat) : ℚ :=
  let (n, d) := (Dyadic64.nearest micros microsPerSecond).ratio
  (Dyadic64.nearest (n * 1000) d).value

theorem millisOfMicros_eq (micros : Nat) : millisOfMicros micros = ⌊roundedMillis micros⌋₊ :=
  Dyadic64.floor_eq _

/-- The quotient that is rounded second. -/
theorem millis_quotient (x : Dyadic64) :
    ((x.ratio.1 * 1000 : Nat) : ℚ) / x.ratio.2 = x.value * 1000 := by
  rw [← x.ratio_div]
  push_cast
  ring

theorem roundedMillis_mono {a b : Nat} (ordered : a ≤ b) : roundedMillis a ≤ roundedMillis b := by
  have seconds : (Dyadic64.nearest a microsPerSecond).value
      ≤ (Dyadic64.nearest b microsPerSecond).value := by
    refine Dyadic64.nearest_mono (by decide) (by decide) ?_
    gcongr
  refine Dyadic64.nearest_mono (Dyadic64.ratio_snd_pos _) (Dyadic64.ratio_snd_pos _) ?_
  refine (millis_quotient _).trans_le (le_trans ?_ (millis_quotient _).ge)
  gcongr

theorem millisOfMicros_mono {a b : Nat} (ordered : a ≤ b) :
    millisOfMicros a ≤ millisOfMicros b := by
  rw [millisOfMicros_eq, millisOfMicros_eq]
  exact Nat.floor_mono (roundedMillis_mono ordered)

/-- Neither rounding moves a whole second. -/
theorem millisOfMicros_seconds {s : Nat} (small : s < 2 ^ 43) :
    millisOfMicros (s * microsPerSecond) = s * 1000 := by
  have seconds : (Dyadic64.nearest (s * microsPerSecond) microsPerSecond).value = s :=
    Dyadic64.nearest_natCast (by decide) rfl (by omega)
  have pos := Dyadic64.ratio_snd_pos (Dyadic64.nearest (s * microsPerSecond) microsPerSecond)
  have whole := Dyadic64.ratio_div (Dyadic64.nearest (s * microsPerSecond) microsPerSecond)
  rw [seconds, div_eq_iff (by exact_mod_cast pos.ne')] at whole
  have whole' : (Dyadic64.nearest (s * microsPerSecond) microsPerSecond).ratio.1 * 1000
      = s * 1000 * (Dyadic64.nearest (s * microsPerSecond) microsPerSecond).ratio.2 := by
    rw [Nat.mul_right_comm]
    congr 1
    exact_mod_cast whole
  have millis : roundedMillis (s * microsPerSecond) = (s * 1000 : Nat) :=
    Dyadic64.nearest_natCast pos whole' (by omega)
  rw [millisOfMicros_eq, millis, Nat.floor_natCast]

/-- The roundings move a magnitude of less than nine thousand years by at most half a
millisecond. -/
theorem roundedMillis_error {micros : Nat} (small : micros < 2 ^ 58) :
    |roundedMillis micros - micros / 1000| ≤ 1 / 2 := by
  rcases Nat.eq_zero_or_pos micros with rfl | pos
  · have zero : roundedMillis 0 = 0 := by
      have start : (Dyadic64.nearest 0 microsPerSecond).ratio.1 = 0 := by decide +kernel
      simp [roundedMillis, start]
    norm_num [zero]
  let seconds := Dyadic64.nearest micros microsPerSecond
  have unit : (microsPerSecond : ℚ) = 1000000 := by norm_num [microsPerSecond]
  have least : (1 : ℚ) / 1000000 ≤ micros / microsPerSecond := by
    rw [unit]
    gcongr
    exact_mod_cast pos
  have most : (micros : ℚ) / microsPerSecond ≤ 2 ^ 58 / 1000000 := by
    rw [unit]
    gcongr
    exact_mod_cast small.le
  have tiny : (2 : ℚ) ^ (-1022 : Int) ≤ 1 / 2000000 :=
    (zpow_le_zpow_right₀ (by norm_num) (by norm_num : (-1022 : Int) ≤ -21)).trans (by norm_num)
  have first : |seconds.value - micros / microsPerSecond| ≤ micros / microsPerSecond / 2 ^ 53 :=
    Dyadic64.nearest_error (by decide) (by linarith)
  have same : (micros : ℚ) / 1000 = micros / microsPerSecond * 1000 := by
    rw [unit]
    ring
  rw [same]
  generalize (micros : ℚ) / microsPerSecond = q at *
  rw [abs_le] at first
  have second := Dyadic64.nearest_error (n := seconds.ratio.1 * 1000) seconds.ratio_snd_pos
    (by rw [millis_quotient]; linarith)
  rw [millis_quotient, abs_le] at second
  change |(Dyadic64.nearest (seconds.ratio.1 * 1000) seconds.ratio.2).value - _| ≤ _
  rw [abs_le]
  constructor <;> linarith

private theorem millisOfMicros_close {micros : Nat} (small : micros < 2 ^ 58) :
    1000 * millisOfMicros micros ≤ micros + 500 ∧ micros < 1000 * millisOfMicros micros + 1500 := by
  obtain ⟨low, high⟩ := abs_le.mp (roundedMillis_error small)
  have nonneg : 0 ≤ roundedMillis micros := Dyadic64.value_nonneg _
  have below := Nat.floor_le nonneg
  have above := Nat.lt_floor_add_one (roundedMillis micros)
  rw [← millisOfMicros_eq] at below above
  constructor
  · have : (1000 * millisOfMicros micros : ℚ) ≤ micros + 500 := by linarith
    exact_mod_cast this
  · have : (micros : ℚ) < 1000 * millisOfMicros micros + 1500 := by linarith
    exact_mod_cast this

theorem epochMillis_mono {a b : Moment} (ordered : a.instant ≤ b.instant) :
    a.epochMillis ≤ b.epochMillis := by
  unfold epochMillis
  dsimp only
  split <;> split
  · have := millisOfMicros_mono (by omega : b.instant.natAbs ≤ a.instant.natAbs)
    omega
  · omega
  · omega
  · have := millisOfMicros_mono (by omega : a.instant.natAbs ≤ b.instant.natAbs)
    omega

private theorem epochMillis_seconds {m : Moment} {s : Int} (whole : m.instant = s * microsPerSecond)
    (small : s.natAbs < 2 ^ 43) : m.epochMillis = s * 1000 := by
  have magnitude : m.instant.natAbs = s.natAbs * microsPerSecond := by
    rw [whole, Int.natAbs_mul]
    rfl
  unfold epochMillis
  rw [magnitude, millisOfMicros_seconds small, whole, microsPerSecond]
  dsimp only
  split <;> omega

/-- Dropping the fraction moves a moment before the epoch forward, and later ones back. -/
theorem epochMillis_close {m : Moment} (small : m.instant.natAbs < 2 ^ 58) :
    1000 * m.epochMillis < m.instant + 1500 ∧
      (0 ≤ m.instant → 1000 * m.epochMillis ≤ m.instant + 500) := by
  obtain ⟨below, above⟩ := millisOfMicros_close small
  unfold epochMillis
  dsimp only
  split <;> omega

theorem before_eq_ok {now m : Moment} {millis : Nat} (reached : now.before millis = .ok m) :
    m.instant = now.instant - millis * 1000 ∧
      (now.IsZoned → m.instant.natAbs < 2 ^ 58) := by
  unfold before at reached
  dsimp only at reached
  split at reached
  · rename_i nameable
    cases reached
    refine ⟨by unfold instant; dsimp only; omega, fun zoned => ?_⟩
    have first : earliest = -62135596800000000 := by decide
    have last : beyond = 253402300800000000 := by decide
    rw [first, last] at nameable
    unfold instant
    dsimp only
    cases given : now.offset with
    | none =>
      rw [Option.getD_none]
      omega
    | some offset =>
      have bound := zoned offset given
      rw [microsPerDay] at bound
      rw [Option.getD_some]
      omega
  · cases reached

end Moment

namespace Store

variable {now now' : Moment} {retention : Nat} {c c' : Int}

theorem cutoff_eq_ok (reached : cutoff now retention = .ok c) :
    ∃ m, now.before retention = .ok m ∧ m.epochMillis = c :=
  Result.map_eq_ok reached

/-- A later instant has no earlier cutoff. -/
theorem cutoff_mono (reached : cutoff now retention = .ok c)
    (reached' : cutoff now' retention = .ok c') (ordered : now.instant ≤ now'.instant) :
    c ≤ c' := by
  obtain ⟨m, early, rfl⟩ := cutoff_eq_ok reached
  obtain ⟨m', late, rfl⟩ := cutoff_eq_ok reached'
  have first := (Moment.before_eq_ok early).1
  have last := (Moment.before_eq_ok late).1
  exact Moment.epochMillis_mono (by omega)

/-- A whole second that is past its retention is not after the cutoff. -/
theorem second_le_cutoff (reached : cutoff now retention = .ok c) (zoned : now.IsZoned) {s : Int}
    (past : s * Moment.microsPerSecond ≤ now.instant - retention * 1000) : s * 1000 ≤ c := by
  obtain ⟨m, before, rfl⟩ := cutoff_eq_ok reached
  obtain ⟨instant, bounded⟩ := Moment.before_eq_ok before
  have small := bounded zoned
  -- Seconds so early that no float tells them apart are before a second that is still exact.
  let exact : Int := max s (-8000000000000)
  let second : Moment := { clock := exact * Moment.microsPerSecond }
  have whole : second.instant = exact * Moment.microsPerSecond := by
    simp [second, Moment.instant]
  rw [Moment.microsPerSecond] at past
  have ordered : second.instant ≤ m.instant := by
    rw [whole, Moment.microsPerSecond]
    omega
  have kept := Moment.epochMillis_mono ordered
  rw [Moment.epochMillis_seconds whole (by omega)] at kept
  omega

/-- A timestamp one and a half milliseconds after the retention is after the cutoff; one millisecond
is enough for a cutoff that is not before the epoch. -/
theorem cutoff_lt (reached : cutoff now retention = .ok c) (zoned : now.IsZoned) {timestamp : Int}
    (later : now.instant - retention * 1000 + 1500 ≤ timestamp * 1000 ∨
      0 ≤ now.instant - retention * 1000 ∧
        now.instant - retention * 1000 + 1000 ≤ timestamp * 1000) : c < timestamp := by
  obtain ⟨m, before, rfl⟩ := cutoff_eq_ok reached
  obtain ⟨instant, bounded⟩ := Moment.before_eq_ok before
  obtain ⟨near, nearer⟩ := Moment.epochMillis_close (bounded zoned)
  omega

end Store

end BucketStore
