import BucketStore.Console.Cell
import BucketStore.Number.Binary64

/-!
Widths of the columns of a table. Columns that are too wide together are made narrower: first the
widest of those whose text may wrap, down to the next widest, and so on; then all of them alike.
-/

namespace BucketStore.Console

/-- Take `total` off some widths, shared out by weight; no width loses more than its limit. Each
entry is a weight, a limit and a width. -/
def shareOut (total weights : Nat) : List (Nat × Nat × Nat) → List Nat
  | [] => []
  | (weight, limit, size) :: rest =>
    if weight > 0 ∧ weights > 0 then
      let loss := min limit (roundHalfEven (weight * total) weights)
      (size - loss) :: shareOut (total - loss) (weights - weight) rest
    else size :: shareOut total weights rest

/-- Take `total` off some widths; a limit of zero takes a width out. -/
def reduce (total : Nat) (entries : List (Nat × Nat × Nat)) : List Nat :=
  let entries := entries.map fun (weight, limit, size) =>
    (if limit = 0 then 0 else weight, limit, size)
  let weights := totalWidth (entries.map (·.1))
  if weights = 0 then entries.map (·.2.2) else shareOut total weights entries

/-- Make the widest wrapping columns narrower, until the widths fit or nothing more can be done.
Each column says whether it wraps. -/
def collapse (total : Nat) : Nat → List (Bool × Nat) → List Nat
  | 0, columns => columns.map (·.2)
  | fuel + 1, columns =>
    let widths := columns.map (·.2)
    let excess := totalWidth widths - total
    let wrapping := (columns.filter (·.1)).map (·.2)
    let most : Nat := wrapping.foldl max 0
    let second : Nat := (wrapping.filter (· ≠ most)).foldl max 0
    if excess = 0 ∨ wrapping.isEmpty ∨ most = second then widths
    else
      let entries := columns.map fun (wraps, size) =>
        (if wraps ∧ size = most then 1 else 0, min excess (most - second), size)
      collapse total fuel ((columns.map (·.1)).zip (reduce excess entries))

/-- The widths that columns get out of `total` cells, if they want the given ones. -/
def columnWidths (total : Nat) (columns : List (Bool × Nat)) : List Nat :=
  let wanted := columns.map fun (wraps, size) => (wraps, max 1 (min total size))
  let widths := wanted.map (·.2)
  if totalWidth widths ≤ total then widths
  else
    let widths := collapse total (totalWidth widths) wanted
    let widths :=
      if totalWidth widths > total then
        reduce (totalWidth widths - total) (widths.map fun size => (1, size, size))
      else widths
    (widths.zip columns).map fun (given, _, size) => min given size

end BucketStore.Console
