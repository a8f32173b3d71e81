import BucketStore.Pool.Retry

/-!
Pauses between attempts: none is longer than ten seconds, whatever the backoff.
-/

namespace BucketStore

open Float.Model (UnpackedFloat)

theorem lt_iff_unpack {a b : Float} :
    a < b ↔ a.toModel.unpack.compare b.toModel.unpack = some .lt := by
  change decide (a.toModel.unpack.lt b.toModel.unpack = true) = true ↔ _
  rw [decide_eq_true_iff, UnpackedFloat.lt]
  generalize a.toModel.unpack.compare b.toModel.unpack = order
  cases order with
  | none => simp
  | some order => cases order <;> simp

private theorem le_iff_unpack {a b : Float} :
    a ≤ b ↔ ∃ order, a.toModel.unpack.compare b.toModel.unpack = some order ∧ order.isLE := by
  change decide (a.toModel.unpack.le b.toModel.unpack = true) = true ↔ _
  rw [decide_eq_true_iff, UnpackedFloat.le, Option.any_eq_true]

/-- A positive float is infinite, or has a mantissa and an exponent. -/
theorem unpack_of_positive {a : Float} (positive : 0.0 < a) :
    a.toModel.unpack = .infinity .positive ∨
      ∃ m e h, a.toModel.unpack = .finite .positive m e h := by
  have zero : (0.0 : Float).toModel.unpack = .zero .positive := rfl
  rw [lt_iff_unpack, zero] at positive
  cases unpacked : a.toModel.unpack with
  | notANumber => rw [unpacked] at positive; cases positive
  | zero sign => rw [unpacked] at positive; cases positive
  | infinity sign =>
    cases sign
    · rw [unpacked] at positive; cases positive
    · exact .inl rfl
  | finite sign m e h =>
    cases sign
    · rw [unpacked] at positive; cases positive
    · exact .inr ⟨m, e, h, rfl⟩

/-- Positive floats are in order. -/
theorem le_of_not_lt_of_positive {a b : Float} (positiveA : 0.0 < a) (positiveB : 0.0 < b)
    (notLess : ¬ a < b) : b ≤ a := by
  rw [lt_iff_unpack] at notLess
  rw [le_iff_unpack]
  rcases unpack_of_positive positiveA with unpackedA | ⟨m, e, h, unpackedA⟩ <;>
    rcases unpack_of_positive positiveB with unpackedB | ⟨n, f, k, unpackedB⟩ <;>
    rw [unpackedA, unpackedB] at notLess ⊢
  · exact ⟨.eq, rfl, rfl⟩
  · exact ⟨.lt, rfl, rfl⟩
  · exact absurd rfl notLess
  · have order : (compare e f).then (compare m n) ≠ .lt := fun less => notLess (congrArg some less)
    refine ⟨(compare f e).then (compare n m), rfl, ?_⟩
    rw [Std.OrientedOrd.eq_swap (a := f), Std.OrientedOrd.eq_swap (a := n), ← Ordering.swap_then]
    cases ordered : (compare e f).then (compare m n) with
    | lt => exact absurd ordered order
    | eq => rfl
    | gt => rfl

namespace Retry

private theorem bounded_le (pause : Float) : bounded pause ≤ longestPause := by
  have least : 0.0 ≤ longestPause := by decide +kernel
  have most : longestPause ≤ longestPause := by decide +kernel
  have positive : 0.0 < longestPause := by decide +kernel
  rw [bounded]
  by_cases long : longestPause < pause
  · simp only [if_pos long, gt_iff_lt, if_pos positive]
    exact most
  · simp only [if_neg long]
    split
    · rename_i some
      exact le_of_not_lt_of_positive positive some long
    · exact least

private theorem pauseOfFloat_le (backoff : Float) (made : Nat) :
    pauseOfFloat backoff made ≤ longestPause := by
  rw [pauseOfFloat]
  split
  · decide +kernel
  · exact bounded_le _

private theorem pauseOfInt_le (backoff : Int) (made : Nat) :
    pauseOfInt backoff made ≤ longestPause := by
  simp only [pauseOfInt]
  generalize backoff * growth made = grown
  split
  · decide +kernel
  split
  · decide +kernel
  · rename_i positive small
    have few : ∀ n : Fin 10, Float.ofInt (n : Nat) ≤ longestPause := by decide +kernel
    have fits : grown = (grown.toNat : Int) := by omega
    rw [fits]
    exact few ⟨grown.toNat, by omega⟩

/-- A numeric backoff gives a pause after any number of attempts. -/
theorem pauseAfter_of_number {r : Retry}
    (number : (∃ f, r.backoff = .float f) ∨ ∃ i, r.backoff = .int i) (made : Nat) :
    ∃ pause, r.pauseAfter made = .ok pause ∧ pause ≤ longestPause := by
  rcases number with ⟨f, given⟩ | ⟨i, given⟩
  · exact ⟨_, by rw [pauseAfter, given], pauseOfFloat_le f made⟩
  · exact ⟨_, by rw [pauseAfter, given], pauseOfInt_le i made⟩

end Retry

end BucketStore
