import BucketStore.Random.Twister

namespace BucketStore

abbrev Draw := StateM Twister

namespace Draw

/-- The highest `count` bits of a word; at most 32 of them. -/
def bits (count : Nat) : Draw Nat :=
  fun t => let (w, t) := t.next; (w.toNat >>> (32 - count), t)

end Draw

/-- The first draw below `n`, if there is one: draws that fall beyond are made again. -/
def Twister.firstBelow? (n count : Nat) (t : Twister) : Option (Nat × Twister) :=
  let drawn := Draw.bits count t
  if drawn.1 < n then some drawn else drawn.2 |>.firstBelow? n count
partial_fixpoint

private theorem Twister.firstBelow?_lt {n count : Nat} {t : Twister} {drawn : Nat × Twister}
    (found : t.firstBelow? n count = some drawn) : drawn.1 < n := by
  refine firstBelow?.partial_correctness n count (fun _ drawn => drawn.1 < n)
    (fun search ih t drawn found => ?_) t drawn found
  dsimp only at found
  split at found
  next small => exact Option.some.inj found ▸ small
  · exact ih _ _ found

namespace Draw

/-- An integer below `n`, all alike. A search without an end has zero in its place. -/
def below (n : Nat) : Draw Nat :=
  if n = 0 then pure 0 else fun t => (t.firstBelow? n (n.log2 + 1)).getD (0, t)

theorem below_lt (n : Nat) (hn : 0 < n) (t : Twister) : (below n t).1 < n := by
  rw [below, if_neg (Nat.ne_of_gt hn)]
  cases found : t.firstBelow? n (n.log2 + 1) with
  | none => exact hn
  | some drawn => exact Twister.firstBelow?_lt found

def between (low high : Nat) : Draw Nat := do
  return low + (← below (high + 1 - low))

/-- A fraction from zero up to one, in steps of `2⁻⁵³`. -/
def fraction : Draw Float := do
  let high ← bits 27
  let low ← bits 26
  return Float.ofNat (high * 0x4000000 + low) / 0x20000000000000

def times {α : Type} (d : Draw α) : Nat → Draw (List α)
  | 0 => pure []
  | n + 1 => do
    let a ← d
    return a :: (← times d n)

end Draw

end BucketStore
