import BucketStore.Proofs.Purge
import Mathlib.Tactic.IntervalCases

/-!
The boundary of a purge. Milliseconds since the epoch come from a float of seconds, and where that
float is too coarse for its product by a thousand they are one millisecond short.
-/

namespace BucketStore

namespace Moment

/-- Whole milliseconds of which the roundings lose one. -/
def FallsShort (millis : Nat) : Prop :=
  let binade := (millis / 1000).log2
  let rest := millis * 2 ^ (52 - binade) % 1000
  1000 ≤ millis ∧ millis < 1024 * 2 ^ binade ∧ 256 < rest ∧ rest < 500

instance (millis : Nat) : Decidable (FallsShort millis) :=
  inferInstanceAs (Decidable (_ ∧ _ ∧ _ ∧ _))

/-- A thousand times the whole number nearest to a thousandth. -/
theorem roundHalfEven_thousand (n : Nat) (eighth : n % 8 = 0) :
    roundHalfEven n 1000 * 1000
      = if n % 1000 < 500 then n - n % 1000 else n + (1000 - n % 1000) := by
  unfold roundHalfEven
  dsimp only
  split
  · split <;> omega
  · split <;> split <;> omega

/-- The product of rounded seconds by a thousand, on the coarser grid of the two that it can be
on. -/
def productOf (seconds : Nat) : Nat :=
  if seconds * 1000 < 2 ^ 62 then roundHalfEven (seconds * 1000) 512 / 2
  else roundHalfEven (seconds * 1000) 1024

/-- Less than half a place is made good on the coarser grid, and up to a quarter on the finer
one. -/
theorem productOf_eq {seconds k : Nat} (low : 1024 * k ≤ seconds * 1000 + 511)
    (high : seconds * 1000 ≤ 1024 * k + 511)
    (near : seconds * 1000 < 2 ^ 62 → 1024 * k ≤ seconds * 1000 + 256) : productOf seconds = k := by
  unfold productOf roundHalfEven
  dsimp only
  generalize seconds * 1000 = n at *
  split
  · split
    · omega
    · split <;> omega
  · split
    · omega
    · split <;> omega

/-- More than a quarter of a place is lost on the finer grid. -/
theorem productOf_eq_pred {seconds k : Nat} (fine : seconds * 1000 < 2 ^ 62)
    (low : 1024 * k ≤ seconds * 1000 + 511) (high : seconds * 1000 + 256 < 1024 * k) :
    productOf seconds = k - 1 := by
  unfold productOf roundHalfEven
  dsimp only
  generalize seconds * 1000 = n at *
  rw [if_pos fine]
  split
  · omega
  · split <;> omega

private theorem productOf_rounded {scaled : Nat} :
    productOf (roundHalfEven (scaled * 1024) 1000)
      = if scaled < 2 ^ 52 ∧ 256 < scaled * 1024 % 1000 ∧ scaled * 1024 % 1000 < 500 then scaled - 1
        else scaled := by
  have product := roundHalfEven_thousand (scaled * 1024) (by omega)
  split
  · rename_i short
    rw [if_pos short.2.2] at product
    exact productOf_eq_pred (by omega) (by omega) (by omega)
  · rename_i kept
    rcases Nat.lt_or_ge (scaled * 1024 % 1000) 500 with down | up
    · rw [if_pos down] at product
      exact productOf_eq (by omega) (by omega) (by omega)
    · rw [if_neg (not_lt.mpr up)] at product
      exact productOf_eq (by omega) (by omega) (by omega)

/-- Both roundings of whole milliseconds, whose seconds have `spare + 10` binary places. -/
theorem millisOfMicros_scaled {millis : Nat} (spare : Nat)
    (low : 1000 * 2 ^ 42 ≤ millis * 2 ^ spare)
    (high : millis * 2 ^ spare < 2000 * 2 ^ 42) (normal : spare < 1000) :
    millisOfMicros (millis * 1000)
      = productOf (roundHalfEven (millis * 2 ^ spare * 1024) 1000) / 2 ^ spare := by
  have scaled : millis * 1000 * 2 ^ (spare + 10) = millis * 2 ^ spare * 1024 * 1000 := by
    rw [pow_add]
    ring
  have unit : microsPerSecond = 1000 * 1000 := rfl
  have seconds : Dyadic64.nearest (millis * 1000) microsPerSecond
      = ⟨roundHalfEven (millis * 2 ^ spare * 1024) 1000, -(spare + 10 : Nat)⟩ := by
    rw [Dyadic64.nearest_of_places (spare + 10) (by decide) (by rw [scaled, unit]; omega)
      (by rw [scaled, unit]; omega) (by omega), scaled, unit,
      roundHalfEven_mul_right _ _ (by decide)]
  have product := roundHalfEven_thousand (millis * 2 ^ spare * 1024) (by omega)
  have bounds : 2 ^ 61 ≤ roundHalfEven (millis * 2 ^ spare * 1024) 1000 * 1000 ∧
      roundHalfEven (millis * 2 ^ spare * 1024) 1000 * 1000 < 2 ^ 63 := by
    split at product <;> omega
  rw [millisOfMicros, seconds, Dyadic64.ratio_places, productOf]
  dsimp only
  split
  · rename_i fine
    rw [Dyadic64.floor_nearest_of_dropped 9 bounds.1 fine (by omega) (by omega),
      Nat.div_div_eq_div_mul, ← pow_succ']
    rfl
  · rename_i coarse
    rw [Dyadic64.floor_nearest_of_dropped 10 (not_lt.mp coarse) bounds.2 (by omega)
      (by omega), Nat.add_sub_cancel]
    rfl

/-- Less than a second loses nothing. -/
theorem millisOfMicros_fraction {millis : Nat} (small : millis < 1000) :
    millisOfMicros (millis * 1000) = millis := by
  rcases Nat.eq_zero_or_pos millis with rfl | pos
  · decide +kernel
  obtain ⟨up, few, low, high⟩ : ∃ up < 10, 500 ≤ millis * 2 ^ up ∧ millis * 2 ^ up < 1000 := by
    have some : 0 < 999 / millis := Nat.div_pos (by omega) pos
    have fits := Nat.log2_self_le some.ne'
    have most := Nat.lt_log2_self (n := 999 / millis)
    rw [Nat.le_div_iff_mul_le pos, Nat.mul_comm] at fits
    rw [Nat.div_lt_iff_lt_mul pos, pow_succ, Nat.mul_right_comm, Nat.mul_comm _ millis] at most
    refine ⟨(999 / millis).log2, ?_, by omega, by omega⟩
    have := Nat.div_le_self 999 millis
    rw [Nat.log2_lt some.ne']
    omega
  have scaled : millis * 2 ^ (up + 43) = millis * 2 ^ up * 2 ^ 43 := by
    rw [pow_add, Nat.mul_assoc]
  rw [millisOfMicros_scaled (up + 43) (by rw [scaled]; omega) (by rw [scaled]; omega)
    (by omega), productOf_rounded, if_neg ?_, Nat.mul_div_cancel _ (by positivity)]
  rw [scaled]
  generalize millis * 2 ^ up = half at *
  rintro ⟨fine, lost, down⟩
  have few : half < 512 := by omega
  interval_cases half <;> omega

/-- Whole milliseconds are kept, but for those that lose one. -/
theorem millisOfMicros_millis {millis : Nat} (small : millis * 1000 < 2 ^ 58) :
    millisOfMicros (millis * 1000) = if FallsShort millis then millis - 1 else millis := by
  rcases Nat.lt_or_ge millis 1000 with early | later
  · rw [millisOfMicros_fraction early, if_neg fun short => by have := short.1; omega]
  have low := Nat.log2_self_le (n := millis / 1000) (by omega)
  have high := Nat.lt_log2_self (n := millis / 1000)
  have coarse : (millis / 1000).log2 < 42 := by
    rw [Nat.log2_lt (by omega)]
    omega
  obtain ⟨spare, all⟩ : ∃ spare, (millis / 1000).log2 + spare = 42 :=
    ⟨42 - (millis / 1000).log2, by omega⟩
  have pos : 0 < 2 ^ spare := by positivity
  have scales (c : Nat) : c * 2 ^ (millis / 1000).log2 * 2 ^ spare = c * 2 ^ 42 := by
    rw [Nat.mul_assoc, ← pow_add, all]
  have fine : millis < 1024 * 2 ^ (millis / 1000).log2 ↔ millis * 2 ^ spare < 2 ^ 52 := by
    rw [← Nat.mul_lt_mul_right pos, scales]
    rfl
  have rest : millis * 2 ^ (52 - (millis / 1000).log2) = millis * 2 ^ spare * 1024 := by
    rw [show 52 - (millis / 1000).log2 = spare + 10 by omega, pow_add, ← Nat.mul_assoc]
    rfl
  have short : FallsShort millis ↔ millis * 2 ^ spare < 2 ^ 52 ∧
      256 < millis * 2 ^ spare * 1024 % 1000 ∧ millis * 2 ^ spare * 1024 % 1000 < 500 := by
    simp only [FallsShort, later, fine, rest, true_and]
  have scaled_low : 1000 * 2 ^ 42 ≤ millis * 2 ^ spare := by
    rw [← scales]
    exact Nat.mul_le_mul_right _ (by omega)
  have scaled_high : millis * 2 ^ spare < 2000 * 2 ^ 42 := by
    rw [← scales, Nat.mul_lt_mul_right pos]
    omega
  rw [millisOfMicros_scaled spare scaled_low scaled_high (by omega), productOf_rounded]
  simp only [short]
  split
  · refine Nat.div_eq_of_lt_le ?_ ?_
    · rw [Nat.sub_mul]
      omega
    · rw [Nat.sub_add_cancel (by omega)]
      have := Nat.mul_pos (by omega : 0 < millis) pos
      omega
  · exact Nat.mul_div_cancel millis pos

theorem FallsShort.window {millis : Nat} (short : FallsShort millis) :
    ∃ binade, 1000 * 2 ^ binade ≤ millis ∧ millis < 1024 * 2 ^ binade := by
  refine ⟨(millis / 1000).log2, ?_, short.2.1⟩
  have := Nat.log2_self_le (n := millis / 1000) (by have := short.1; omega)
  omega

/-- Seconds that are a whole number of eighths need no rounding. -/
theorem FallsShort.not_dvd {millis : Nat} (short : FallsShort millis)
    (small : millis * 1000 < 2 ^ 58) : ¬ 125 ∣ millis := by
  rintro ⟨eighths, rfl⟩
  obtain ⟨later, -, lost, -⟩ := short
  have binade : (125 * eighths / 1000).log2 < 42 := by
    rw [Nat.log2_lt (by omega)]
    omega
  have places : 2 ^ (52 - (125 * eighths / 1000).log2)
      = 8 * 2 ^ (49 - (125 * eighths / 1000).log2) := by
    rw [show 52 - (125 * eighths / 1000).log2 = 3 + (49 - (125 * eighths / 1000).log2) by omega,
      pow_add]
    rfl
  rw [places, Nat.mul_mul_mul_comm, Nat.mul_mod_right] at lost
  omega

/-- Whole milliseconds since the epoch after the roundings. -/
def shortened (millis : Int) : Int :=
  if FallsShort millis.natAbs then millis - millis.sign else millis

private theorem epochMillis_millis {m : Moment} {millis : Int} (whole : m.instant = millis * 1000)
    (small : m.instant.natAbs < 2 ^ 58) : m.epochMillis = shortened millis := by
  have magnitude : m.instant.natAbs = millis.natAbs * 1000 := by
    rw [whole, Int.natAbs_mul]
    rfl
  have kept := millisOfMicros_millis (magnitude ▸ small)
  unfold epochMillis shortened
  rw [magnitude, kept, whole]
  dsimp only
  rcases Int.lt_trichotomy millis 0 with past | rfl | later
  · rw [if_pos (by omega), Int.sign_eq_neg_one_of_neg past]
    split
    · rename_i short
      have := short.1
      omega
    · omega
  · rfl
  · rw [if_neg (by omega), Int.sign_eq_one_of_pos later]
    split
    · rename_i short
      have := short.1
      omega
    · omega

end Moment

namespace Store

variable {σ : Type} [Surroundings σ]

/-- At a whole number of milliseconds a cutoff is exact, unless the roundings lose one millisecond
of it. They do that in the first 24 of the thousand parts of a binade of seconds only, and never to
a multiple of an eighth of a second. A purge keeps the rows after its cutoff. -/
theorem purge_boundary {now past : Moment} {g : Granularity} {retention : Nat} {millis : Int}
    (kept : g.retention? = some retention) (zoned : now.IsZoned)
    (reached : now.before retention = .ok past) (whole : now.instant = millis * 1000) :
    (¬ Moment.FallsShort (millis - retention).natAbs →
      cutoff now retention = .ok (millis - retention)) ∧
    (Moment.FallsShort (millis - retention).natAbs →
      cutoff now retention = .ok (millis - retention - (millis - retention).sign) ∧
        ¬ 125 ∣ millis - retention ∧
        ∃ binade, 1000 * 2 ^ binade ≤ (millis - retention).natAbs ∧
          (millis - retention).natAbs < 1024 * 2 ^ binade) ∧
    ∀ {m : Manager} {policy : Policy} {w : World σ} {r : BatchResult} {w' : World σ},
      m.isEnabled = true → Purges m (some now) policy w r w' → ∀ row ∈ w.database.rows g,
        (row ∈ w'.database.rows g ↔ Moment.shortened (millis - retention) < row.timestamp) ∧
        (¬ Moment.FallsShort (millis - retention).natAbs →
          (row.timestamp = millis - retention → row ∉ w'.database.rows g) ∧
          (row.timestamp = millis - retention + 1 → row ∈ w'.database.rows g)) := by
  obtain ⟨instant, bounded⟩ := Moment.before_eq_ok reached
  have small := bounded zoned
  have whole' : past.instant = (millis - retention) * 1000 := by omega
  have found : cutoff now retention = .ok (Moment.shortened (millis - retention)) := by
    rw [cutoff, reached, ← Moment.epochMillis_millis whole' small]
    rfl
  have exact (keeps : ¬ Moment.FallsShort (millis - retention).natAbs) :
      Moment.shortened (millis - retention) = millis - retention := if_neg keeps
  refine ⟨fun keeps => exact keeps ▸ found, fun short => ⟨?_, ?_, short.window⟩, ?_⟩
  · rw [found, Moment.shortened, if_pos short]
  · intro divides
    exact short.not_dvd (by omega) (by omega)
  · intro m policy w r w' enabled purges row stored
    obtain ⟨c, sent, left⟩ := purges.table enabled kept
    obtain rfl : Moment.shortened (millis - retention) = c := Except.ok.inj (found.symm.trans sent)
    have stays : row ∈ w'.database.rows g ↔
        Moment.shortened (millis - retention) < row.timestamp := by
      rw [left, List.mem_filter, decide_eq_true_iff]
      exact and_iff_right stored
    refine ⟨stays, fun keeps => ?_⟩
    rw [stays, exact keeps]
    exact ⟨fun _ => by omega, fun _ => by omega⟩

end Store

namespace Calm

/-- A row with a timestamp. -/
def stamped (timestamp : Int) : Row :=
  ⟨"ada", 1, 2, "v", timestamp, 1.5⟩

/-- A calm world with minute rows of given timestamps. -/
def stampedWorld (timestamps : List Int) : World Calm :=
  { world with database := { rows := fun
    | .minute => timestamps.map stamped
    | _ => [] } }

end Calm

theorem Store.purge_boundary_noon : ∃ r w',
    Store.Purges Calm.manager (some Calm.noon) .tolerant
      (Calm.stampedWorld [31557540000, 31557540001]) r w' ∧
      Store.cutoff Calm.noon 21660000 = .ok 31557540000 ∧
      Calm.stamped 31557540000 ∉ w'.database.rows .minute ∧
      Calm.stamped 31557540001 ∈ w'.database.rows .minute := by
  obtain ⟨r, purges⟩ := Store.Purges.of_ended Calm.manager (some Calm.noon) .tolerant
    (Calm.stampedWorld [31557540000, 31557540001]) (by decide +kernel)
  have exact : ¬ Moment.FallsShort (31579200000 - 21660000 : Int).natAbs := by decide +kernel
  have kept : Granularity.minute.retention? = some 21660000 := rfl
  have whole : Calm.noon.instant = 31579200000 * 1000 := rfl
  have boundary := Store.purge_boundary (σ := Calm) kept (by decide) rfl whole
  refine ⟨r, _, purges, boundary.1 exact, ?_, ?_⟩
  · exact ((boundary.2.2 rfl purges _ (List.mem_cons_self ..)).2 exact).1 rfl
  · exact ((boundary.2.2 rfl purges _ (List.mem_cons_of_mem _ (List.mem_cons_self ..))).2 exact).2
      rfl

/-- One millisecond after 19:38:04 on the tenth of January 2004. -/
def Calm.january : Moment := { clock := 1073763484001000 }

/-- The first millisecond of a binade of seconds is lost: the cutoff is a millisecond early, and the
row that lies exactly at its retention stays. -/
theorem Store.purge_boundary_january : ∃ past r w',
    Calm.january.before 21660000 = .ok past ∧ past.instant = 1073741824001 * 1000 ∧
      Store.cutoff Calm.january 21660000 = .ok 1073741824000 ∧
      Store.Purges Calm.manager (some Calm.january) .tolerant
        (Calm.stampedWorld [1073741824001]) r w' ∧
      Granularity.minute.retention? = some 21660000 ∧
      Calm.stamped 1073741824001 ∈ w'.database.rows .minute := by
  obtain ⟨r, purges⟩ := Store.Purges.of_ended Calm.manager (some Calm.january) .tolerant
    (Calm.stampedWorld [1073741824001]) (by decide +kernel)
  have found : Store.cutoff Calm.january 21660000 = .ok 1073741824000 := by decide +kernel
  refine ⟨_, r, _, rfl, rfl, found, purges, rfl, ?_⟩
  obtain ⟨c, sent, left⟩ := purges.table rfl (rfl : Granularity.minute.retention? = some 21660000)
  obtain rfl : 1073741824000 = c := Except.ok.inj (found.symm.trans sent)
  rw [left]
  exact List.mem_filter.mpr ⟨List.mem_cons_self .., rfl⟩

end BucketStore
