import BucketStore.Bucket.Key
import BucketStore.Bucket.Tally
import BucketStore.Entries

namespace BucketStore

structure Row where
  username : String
  dashboard : Int
  pin : Int
  pinKind : String
  timestamp : Int
  average : Float

structure Row.Identity where
  username : String
  dashboard : Int
  pin : Int
  pinKind : String
  timestamp : Int
deriving Repr, DecidableEq

def Row.identity (r : Row) : Row.Identity :=
  ⟨r.username, r.dashboard, r.pin, r.pinKind, r.timestamp⟩

def BucketKey.row (g : Granularity) (key : BucketKey) (average : Float) : Row :=
  ⟨key.username, key.dashboard, key.pin.val, key.pinKind.letter, key.timestamp g, average⟩

def Row.ofEntry (g : Granularity) (key : BucketKey) (value : Averaged) : Except Fault Row := do
  let average ← value.average
  return key.row g average

/-- The rows of a batch, in order; the first average that fails ends it. -/
def Row.ofEntries (g : Granularity) : List (BucketKey × Averaged) → Except Fault (List Row)
  | [] => .ok []
  | (key, value) :: rest => do
    let row ← Row.ofEntry g key value
    let rows ← Row.ofEntries g rest
    return row :: rows

structure Point where
  timestamp : Int
  value : Float

end BucketStore
