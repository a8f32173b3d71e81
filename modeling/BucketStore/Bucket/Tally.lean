import BucketStore.Value.Number

namespace BucketStore

/-- The sum and the number of the samples of one bucket. -/
structure Tally where
  sum : Float := 0.0
  count : Nat := 0

namespace Tally

/-- A sample has to be a number; texts do not count as such. -/
def sample : Value → Except Problem Float
  | .float f => .ok f
  | .int i => Value.intToFloat i
  | .bool b => Value.intToFloat (Value.ofBool b)
  | v => .error (.operands "+=" "float" v.kind)

def add (t : Tally) (v : Value) : Except Problem Tally := do
  let f ← sample v
  return ⟨t.sum + f, t.count + 1⟩

/-- Add samples until one is refused: the tallies passed through, and the refusal. -/
def addEach (t : Tally) : List Value → List Tally × Option Problem
  | [] => ([], none)
  | v :: rest =>
    match t.add v with
    | .error p => ([], some p)
    | .ok next =>
      let (later, refusal) := next.addEach rest
      (next :: later, refusal)

def average (t : Tally) : Float :=
  if t.count = 0 then 0.0 else t.sum / Float.ofNat t.count

def shown (t : Tally) : String :=
  "AggregationValue(sum=" ++ floatText t.sum ++ ", count=" ++ intText t.count ++ ")"

end Tally

/-- What may stand for the value of a bucket when its average is asked for. -/
inductive Averaged where
  | tally (t : Tally)
  /-- Something that gives the same average each time. -/
  | constant (v : Value)
  /-- Something whose average cannot be taken. -/
  | failing (fault : Fault)
  /-- Something that has no average. -/
  | bare (v : Value)

def Averaged.average : Averaged → Except Fault Float
  | .tally t => .ok t.average
  | .constant v => v.toFloat.mapError Fault.problem
  | .failing fault => .error fault
  | .bare v => .error (.problem (.noMember v.kind "calc_average"))

end BucketStore
