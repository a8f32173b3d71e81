import BucketStore.Value
import BucketStore.Fault

/-!
Reporting granularities: the width of their buckets, and how long their rows are kept. Retention
keeps one extra bucket, so that a bucket still being filled is never deleted.
-/

namespace BucketStore

inductive Granularity where
  | minute
  | hourly
  | daily
deriving Repr, DecidableEq, Inhabited

namespace Granularity

def all : List Granularity := [.minute, .hourly, .daily]

theorem mem_all (g : Granularity) : g ∈ all := by
  cases g <;> decide

def word : Granularity → String
  | .minute => "minute"
  | .hourly => "hourly"
  | .daily => "daily"

def title : Granularity → String
  | .minute => "MINUTE"
  | .hourly => "HOURLY"
  | .daily => "DAILY"

/-- The width of a bucket in milliseconds. -/
def period : Granularity → Nat
  | .minute => 60000
  | .hourly => 3600000
  | .daily => 86400000

theorem period_pos (g : Granularity) : 0 < g.period := by
  cases g <;> decide

/-- How many whole buckets are kept; daily buckets are kept for ever. -/
def keptBuckets? : Granularity → Option Nat
  | .minute => some (360 + 1)
  | .hourly => some (168 + 1)
  | .daily => none

/-- How long rows are kept, in milliseconds. -/
def retention? (g : Granularity) : Option Nat :=
  g.keptBuckets?.map (· * g.period)

def ofWord? (s : String) : Option Granularity :=
  all.find? (·.word == s)

/-- Select a granularity by a value, which has to be its word. -/
def ofValue (v : Value) : Except Problem Granularity :=
  match v with
  | .text s =>
    match ofWord? s with
    | some g => .ok g
    | none => .error (.notAGranularity v.shown)
  | _ => .error (.notAGranularity v.shown)

end Granularity

end BucketStore
