import BucketStore.Number.Binary64
import Mathlib.Algebra.Order.Field.Power
import Mathlib.Algebra.Order.Floor.Semifield
import Mathlib.Data.Rat.Floor
import Mathlib.Tactic.FieldSimp
import Mathlib.Tactic.Linarith
import Mathlib.Tactic.NormNum
import Mathlib.Tactic.Positivity
import Mathlib.Tactic.Ring

/-!
Rounding to binary64: it keeps the order of quotients, it keeps whole numbers of up to 53 bits, and
it moves a quotient of usual size by at most one part in 2⁵³.
-/

namespace BucketStore

/-- `m` is a whole number nearest to `q`, and even if there are two. -/
structure HalfEven (q : ℚ) (m : Nat) : Prop where
  lower : m - 1 / 2 ≤ q
  upper : q ≤ m + 1 / 2
  even : q = m - 1 / 2 ∨ q = m + 1 / 2 → m % 2 = 0

namespace HalfEven

theorem natCast (k : Nat) : HalfEven k k := by
  refine ⟨by linarith, by linarith, ?_⟩
  rintro (half | half) <;> linarith

theorem mono {q q' : ℚ} {m m' : Nat} (first : HalfEven q m) (last : HalfEven q' m')
    (ordered : q ≤ q') : m ≤ m' := by
  by_contra crossed
  have above : m' + 1 ≤ m := by omega
  have above' : (m' : ℚ) + 1 ≤ m := by exact_mod_cast above
  have := first.lower
  have := last.upper
  -- Only a half between two neighbours could be rounded both ways, and one of them is odd.
  have neighbours : (m : ℚ) = m' + 1 := by linarith
  have neighbours' : m = m' + 1 := by exact_mod_cast neighbours
  have even := first.even (.inl (by linarith))
  have even' := last.even (.inr (by linarith))
  omega

end HalfEven

theorem roundHalfEven_halfEven (n : Nat) {d : Nat} (pos : 0 < d) :
    HalfEven (n / d) (roundHalfEven n d) := by
  have divided := Nat.div_add_mod n d
  have rest := Nat.mod_lt n pos
  unfold roundHalfEven
  generalize n / d = q at *
  generalize n % d = r at *
  have quotient : (n : ℚ) / d = q + r / d := by
    rw [← divided]
    push_cast
    field_simp
  have pos' : (0 : ℚ) < d := by exact_mod_cast pos
  have bound : (r : ℚ) / d < 1 := by
    rw [div_lt_one pos']
    exact_mod_cast rest
  have start : (0 : ℚ) ≤ r / d := by positivity
  rw [quotient]
  dsimp only
  split
  · rename_i below
    have below' : (r : ℚ) / d < 1 / 2 := by
      rw [div_lt_div_iff₀ pos' (by norm_num)]
      exact_mod_cast (by omega : r * 2 < 1 * d)
    refine ⟨by linarith, by linarith, ?_⟩
    rintro (half | half) <;> linarith
  · split
    · rename_i above
      have above' : 1 / 2 < (r : ℚ) / d := by
        rw [div_lt_div_iff₀ (by norm_num) pos']
        exact_mod_cast (by omega : 1 * d < r * 2)
      refine ⟨by push_cast; linarith, by push_cast; linarith, ?_⟩
      rintro (half | half) <;> push_cast at half <;> linarith
    · have half : (r : ℚ) / d = 1 / 2 := by
        rw [div_eq_div_iff pos'.ne' (by norm_num)]
        exact_mod_cast (by omega : r * 2 = 1 * d)
      rcases Nat.mod_two_eq_zero_or_one q with even | odd
      · rw [even, half]
        exact ⟨by push_cast; linarith, by push_cast; linarith, fun _ => even⟩
      · rw [odd, half]
        exact ⟨by push_cast; linarith, by push_cast; linarith, fun _ => by omega⟩

/-- Rounding does not depend on how a quotient is written. -/
theorem roundHalfEven_mul_right (n d : Nat) {c : Nat} (pos : 0 < c) :
    roundHalfEven (n * c) (d * c) = roundHalfEven n d := by
  have below : 2 * (n % d * c) < d * c ↔ 2 * (n % d) < d := by
    rw [← Nat.mul_assoc, Nat.mul_lt_mul_right pos]
  have above : 2 * (n % d * c) > d * c ↔ 2 * (n % d) > d := by
    rw [gt_iff_lt, ← Nat.mul_assoc, Nat.mul_lt_mul_right pos]
  unfold roundHalfEven
  simp only [Nat.mul_div_mul_right _ _ pos, Nat.mul_mod_mul_right, below, above]

private theorem numerator_pos {n d : Nat} (pos : (0 : ℚ) < n / d) : 0 < n := by
  refine Nat.pos_of_ne_zero ?_
  rintro rfl
  simp at pos

private theorem two_zpow_eq_div (k : Int) : (2 : ℚ) ^ k = 2 ^ k.toNat / 2 ^ (-k).toNat := by
  rcases Int.le_total 0 k with up | down
  · obtain ⟨n, rfl⟩ := Int.eq_ofNat_of_zero_le up
    simp
  · obtain ⟨n, same⟩ := Int.eq_ofNat_of_zero_le (a := -k) (by omega)
    obtain rfl : k = -n := by omega
    simp

namespace Dyadic64

/-- What the number denotes. -/
def value (x : Dyadic64) : ℚ :=
  x.mantissa * 2 ^ x.exponent

theorem ratio_snd_pos (x : Dyadic64) : 0 < x.ratio.2 := by
  simp [ratio, Nat.shiftLeft_eq]

theorem ratio_div (x : Dyadic64) : (x.ratio.1 : ℚ) / x.ratio.2 = x.value := by
  simp only [ratio, value, two_zpow_eq_div x.exponent, Nat.shiftLeft_eq]
  push_cast
  ring

theorem floor_eq (x : Dyadic64) : x.floor = ⌊x.value⌋₊ := by
  rw [← ratio_div, Nat.floor_div_eq_div]
  rfl

/-- The binade of a quotient. -/
theorem floorLog2_spec {n d : Nat} (n_pos : 0 < n) (d_pos : 0 < d) :
    (2 : ℚ) ^ floorLog2 n d ≤ n / d ∧ (n : ℚ) / d < 2 ^ (floorLog2 n d + 1) := by
  have d_pos' : (0 : ℚ) < d := by exact_mod_cast d_pos
  have two : (2 : ℚ) ≠ 0 := by norm_num
  have n_low : (2 : ℚ) ^ (n.log2 : Int) ≤ n := by
    rw [zpow_natCast]
    exact_mod_cast Nat.log2_self_le n_pos.ne'
  have n_high : (n : ℚ) < 2 ^ (n.log2 + 1 : Int) := by
    rw [← Nat.cast_succ, zpow_natCast]
    exact_mod_cast Nat.lt_log2_self
  have d_low : (2 : ℚ) ^ (d.log2 : Int) ≤ d := by
    rw [zpow_natCast]
    exact_mod_cast Nat.log2_self_le d_pos.ne'
  have d_high : (d : ℚ) < 2 ^ (d.log2 + 1 : Int) := by
    rw [← Nat.cast_succ, zpow_natCast]
    exact_mod_cast Nat.lt_log2_self
  have high : (n : ℚ) / d < 2 ^ ((n.log2 : Int) - d.log2 + 1) := by
    rw [div_lt_iff₀ d_pos']
    calc (n : ℚ) < 2 ^ (n.log2 + 1 : Int) := n_high
      _ = 2 ^ ((n.log2 : Int) - d.log2 + 1) * 2 ^ (d.log2 : Int) := by
        rw [← zpow_add₀ two]
        congr 1
        omega
      _ ≤ 2 ^ ((n.log2 : Int) - d.log2 + 1) * d := by gcongr
  have low : (2 : ℚ) ^ ((n.log2 : Int) - d.log2 - 1) ≤ n / d := by
    rw [le_div_iff₀ d_pos']
    calc (2 : ℚ) ^ ((n.log2 : Int) - d.log2 - 1) * d
        ≤ 2 ^ ((n.log2 : Int) - d.log2 - 1) * 2 ^ (d.log2 + 1 : Int) := by gcongr
      _ = 2 ^ (n.log2 : Int) := by
        rw [← zpow_add₀ two]
        congr 1
        omega
      _ ≤ n := n_low
  have test (k : Int) : d <<< k.toNat ≤ n <<< (-k).toNat ↔ (2 : ℚ) ^ k ≤ n / d := by
    rw [two_zpow_eq_div, div_le_div_iff₀ (by positivity) d_pos', Nat.shiftLeft_eq, Nat.shiftLeft_eq,
      mul_comm d]
    norm_cast
  unfold floorLog2
  dsimp only
  split
  · rename_i reached
    exact ⟨(test _).mp reached, high⟩
  · rename_i missed
    refine ⟨low, ?_⟩
    rw [Int.sub_add_cancel]
    exact not_le.mp fun reached => missed ((test _).mpr reached)

private theorem floorLog2_eq {n d : Nat} (n_pos : 0 < n) (d_pos : 0 < d) {k : Int}
    (low : (2 : ℚ) ^ k ≤ n / d) (high : (n : ℚ) / d < 2 ^ (k + 1)) : floorLog2 n d = k := by
  obtain ⟨low', high'⟩ := floorLog2_spec n_pos d_pos
  have below := (zpow_lt_zpow_iff_right₀ (by norm_num : (1 : ℚ) < 2)).mp (low.trans_lt high')
  have above := (zpow_lt_zpow_iff_right₀ (by norm_num : (1 : ℚ) < 2)).mp (low'.trans_lt high)
  omega

private theorem floorLog2_mono {n d n' d' : Nat} (n_pos : 0 < n) (d_pos : 0 < d) (n'_pos : 0 < n')
    (d'_pos : 0 < d') (ordered : (n : ℚ) / d ≤ n' / d') : floorLog2 n d ≤ floorLog2 n' d' := by
  have low := (floorLog2_spec n_pos d_pos).1
  have high := (floorLog2_spec n'_pos d'_pos).2
  have := (zpow_lt_zpow_iff_right₀ (by norm_num : (1 : ℚ) < 2)).mp
    (low.trans_lt (ordered.trans_lt high))
  omega

/-- On the grid of its size a quotient is rounded to an integer. -/
theorem nearest_halfEven {n d : Nat} (n_pos : 0 < n) (d_pos : 0 < d) :
    HalfEven (n / d / 2 ^ gridExponent n d) (nearest n d).mantissa := by
  have rounded := roundHalfEven_halfEven (n <<< (-gridExponent n d).toNat)
    (d := d <<< (gridExponent n d).toNat) (by simp [Nat.shiftLeft_eq, d_pos])
  have scaled : ((n <<< (-gridExponent n d).toNat : Nat) : ℚ)
        / (d <<< (gridExponent n d).toNat : Nat)
      = n / d / 2 ^ gridExponent n d := by
    rw [two_zpow_eq_div, Nat.shiftLeft_eq, Nat.shiftLeft_eq]
    push_cast
    field_simp
  rw [scaled] at rounded
  rw [nearest, if_neg n_pos.ne']
  exact rounded

/-- The number nearest to a quotient that has `places` binary places. -/
theorem nearest_of_places {n d : Nat} (places : Nat) (d_pos : 0 < d)
    (low : 2 ^ 52 * d ≤ n * 2 ^ places) (high : n * 2 ^ places < 2 ^ 53 * d)
    (normal : places ≤ 1074) :
    nearest n d = ⟨roundHalfEven (n * 2 ^ places) d, -places⟩ := by
  have n_pos : 0 < n := by
    refine Nat.pos_of_ne_zero ?_
    rintro rfl
    omega
  have d_pos' : (0 : ℚ) < d := by exact_mod_cast d_pos
  have binade : floorLog2 n d = 52 - places := by
    refine floorLog2_eq n_pos d_pos ?_ ?_
    · rw [zpow_sub₀ (by norm_num), zpow_natCast, div_le_div_iff₀ (by positivity) d_pos']
      exact_mod_cast low
    · rw [show (52 - places + 1 : Int) = (53 : Nat) - places by omega, zpow_sub₀ (by norm_num),
        zpow_natCast, zpow_natCast, div_lt_div_iff₀ d_pos' (by positivity)]
      exact_mod_cast high
  have grid : gridExponent n d = -places := by
    unfold gridExponent
    omega
  rw [nearest, if_neg n_pos.ne', grid]
  simp [Nat.shiftLeft_eq]

theorem ratio_places (m places : Nat) : ratio ⟨m, -places⟩ = (m, 2 ^ places) := by
  simp [ratio, Nat.shiftLeft_eq]

private theorem floor_places (m places : Nat) : floor ⟨m, -places⟩ = m / 2 ^ places := by
  rw [floor, ratio_places]

/-- The whole part of the number nearest to a quotient that has `places` binary places, of which
`dropped` ones are lost. -/
theorem floor_nearest_of_dropped {n places : Nat} (dropped : Nat) (low : 2 ^ (52 + dropped) ≤ n)
    (high : n < 2 ^ (53 + dropped)) (some : dropped ≤ places) (normal : places ≤ 1074) :
    (nearest n (2 ^ places)).floor = roundHalfEven n (2 ^ dropped) / 2 ^ (places - dropped) := by
  have split : 2 ^ places = 2 ^ dropped * 2 ^ (places - dropped) := by
    rw [← pow_add]
    congr 1
    omega
  have pos : 0 < 2 ^ (places - dropped) := by positivity
  rw [nearest_of_places (places - dropped) (by positivity) ?_ ?_ (by omega),
    floor_places, split, roundHalfEven_mul_right _ _ pos]
  · rw [split, ← Nat.mul_assoc, ← pow_add]
    exact Nat.mul_le_mul_right _ low
  · rw [split, ← Nat.mul_assoc, ← pow_add]
    exact Nat.mul_lt_mul_of_pos_right high pos

private theorem nearest_exponent {n : Nat} (n_pos : 0 < n) (d : Nat) :
    (nearest n d).exponent = gridExponent n d := by
  rw [nearest, if_neg n_pos.ne']

theorem nearest_value {n : Nat} (n_pos : 0 < n) (d : Nat) :
    (nearest n d).value = (nearest n d).mantissa * 2 ^ gridExponent n d := by
  rw [value, nearest_exponent n_pos]

theorem value_nonneg (x : Dyadic64) : 0 ≤ x.value := by
  unfold value
  positivity

@[simp] theorem nearest_zero_value (d : Nat) : (nearest 0 d).value = 0 := by
  simp [nearest, value]

/-- A number of the grid that lies above a quotient lies above its rounding. -/
theorem nearest_value_le {n d : Nat} (n_pos : 0 < n) (d_pos : 0 < d) {k : Nat}
    (below : (n : ℚ) / d ≤ k * 2 ^ gridExponent n d) :
    (nearest n d).value ≤ k * 2 ^ gridExponent n d := by
  have onGrid : (n : ℚ) / d / 2 ^ gridExponent n d ≤ k := by
    rwa [div_le_iff₀ (by positivity)]
  have rounded := (nearest_halfEven n_pos d_pos).mono (.natCast k) onGrid
  rw [nearest_value n_pos]
  gcongr

private theorem le_nearest_value {n d : Nat} (n_pos : 0 < n) (d_pos : 0 < d) {k : Nat}
    (above : k * 2 ^ gridExponent n d ≤ (n : ℚ) / d) :
    k * 2 ^ gridExponent n d ≤ (nearest n d).value := by
  have onGrid : (k : ℚ) ≤ n / d / 2 ^ gridExponent n d := by
    rwa [le_div_iff₀ (by positivity)]
  have rounded := (HalfEven.natCast k).mono (nearest_halfEven n_pos d_pos) onGrid
  rw [nearest_value n_pos]
  gcongr

/-- Powers of two from the grid's own on are numbers of the grid. -/
theorem exists_grid_eq {e k : Int} (reached : e ≤ k) : ∃ m : Nat, (2 : ℚ) ^ k = m * 2 ^ e := by
  refine ⟨2 ^ (k - e).toNat, ?_⟩
  push_cast
  rw [← zpow_natCast, ← zpow_add₀ (by norm_num : (2 : ℚ) ≠ 0), Int.toNat_of_nonneg (by omega)]
  congr 1
  omega

/-- Rounding keeps the order. -/
theorem nearest_mono {n d n' d' : Nat} (d_pos : 0 < d) (d'_pos : 0 < d')
    (ordered : (n : ℚ) / d ≤ n' / d') : (nearest n d).value ≤ (nearest n' d').value := by
  rcases Nat.eq_zero_or_pos n with rfl | n_pos
  · rw [nearest_zero_value]
    exact value_nonneg _
  have n'_pos : 0 < n' := numerator_pos (lt_of_lt_of_le (by positivity) ordered)
  have binades := floorLog2_mono n_pos d_pos n'_pos d'_pos ordered
  rcases lt_or_ge (gridExponent n d) (gridExponent n' d') with coarser | notCoarser
  · -- A power of two stands between the two binades, and it is on both grids.
    have grid' : gridExponent n' d' = floorLog2 n' d' - 52 := by
      unfold gridExponent at *
      omega
    have apart : floorLog2 n d + 1 ≤ floorLog2 n' d' := by
      unfold gridExponent at *
      omega
    obtain ⟨m, between⟩ := exists_grid_eq (by omega : gridExponent n d ≤ floorLog2 n' d')
    obtain ⟨m', between'⟩ := exists_grid_eq (by omega : gridExponent n' d' ≤ floorLog2 n' d')
    have below : (n : ℚ) / d ≤ 2 ^ floorLog2 n' d' :=
      (floorLog2_spec n_pos d_pos).2.le.trans (zpow_le_zpow_right₀ (by norm_num) apart)
    have above := (floorLog2_spec n'_pos d'_pos).1
    calc (nearest n d).value ≤ m * 2 ^ gridExponent n d :=
          nearest_value_le n_pos d_pos (between ▸ below)
      _ = m' * 2 ^ gridExponent n' d' := between.symm.trans between'
      _ ≤ (nearest n' d').value := le_nearest_value n'_pos d'_pos (between' ▸ above)
  · have same : gridExponent n d = gridExponent n' d' := by
      unfold gridExponent at *
      omega
    have onGrid : (n : ℚ) / d / 2 ^ gridExponent n d ≤ n' / d' / 2 ^ gridExponent n' d' := by
      rw [same]
      gcongr
    have rounded := (nearest_halfEven n_pos d_pos).mono (nearest_halfEven n'_pos d'_pos) onGrid
    rw [nearest_value n_pos, nearest_value n'_pos, same]
    gcongr

/-- Whole numbers of up to 53 bits are kept. -/
theorem nearest_natCast {n d k : Nat} (d_pos : 0 < d) (whole : n = k * d) (small : k < 2 ^ 53) :
    (nearest n d).value = k := by
  rcases Nat.eq_zero_or_pos k with rfl | k_pos
  · simp [whole]
  have n_pos : 0 < n := whole ▸ Nat.mul_pos k_pos d_pos
  have quotient : (n : ℚ) / d = k := by
    rw [whole]
    push_cast
    field_simp
  have fine : gridExponent n d ≤ 0 := by
    have low := (floorLog2_spec n_pos d_pos).1
    have small' : (k : ℚ) < 2 ^ (53 : Int) := by exact_mod_cast small
    rw [quotient] at low
    have := (zpow_lt_zpow_iff_right₀ (by norm_num : (1 : ℚ) < 2)).mp (low.trans_lt small')
    unfold gridExponent
    omega
  obtain ⟨unit, one⟩ := exists_grid_eq fine
  have onGrid : (k : ℚ) = (k * unit : Nat) * 2 ^ gridExponent n d := by
    push_cast
    rw [mul_assoc, ← one, zpow_zero, mul_one]
  refine le_antisymm ?_ ?_
  · rw [onGrid]
    exact nearest_value_le n_pos d_pos (quotient.trans onGrid).le
  · rw [onGrid]
    exact le_nearest_value n_pos d_pos (onGrid.symm.trans quotient.symm).le

/-- Above the subnormal numbers rounding moves a quotient by at most one part in 2⁵³. -/
theorem nearest_error {n d : Nat} (d_pos : 0 < d) (normal : (2 : ℚ) ^ (-1022 : Int) ≤ n / d) :
    |(nearest n d).value - n / d| ≤ n / d / 2 ^ 53 := by
  have n_pos : 0 < n := numerator_pos (lt_of_lt_of_le (by positivity) normal)
  obtain ⟨low, high⟩ := floorLog2_spec n_pos d_pos
  have above := (zpow_lt_zpow_iff_right₀ (by norm_num : (1 : ℚ) < 2)).mp (normal.trans_lt high)
  have grid : gridExponent n d = floorLog2 n d - 52 := by
    unfold gridExponent
    omega
  have rounded := nearest_halfEven n_pos d_pos
  have step : (2 : ℚ) ^ gridExponent n d ≤ n / d / 2 ^ 52 := by
    rw [grid, zpow_sub₀ (by norm_num)]
    gcongr
    norm_num
  have pos : (0 : ℚ) < 2 ^ gridExponent n d := by positivity
  have lower := rounded.lower
  have upper := rounded.upper
  rw [le_div_iff₀ pos] at lower
  rw [div_le_iff₀ pos] at upper
  rw [nearest_value n_pos, abs_le]
  constructor <;> linarith

end Dyadic64

end BucketStore
