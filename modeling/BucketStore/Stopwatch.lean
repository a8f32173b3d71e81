import BucketStore.World
import BucketStore.Value.Number

namespace BucketStore

/-- The readings before and after an action, in seconds. -/
structure Stopwatch where
  started : Float
  ended : Float

namespace Stopwatch

def seconds (s : Stopwatch) : Float :=
  s.ended - s.started

def wholeMillis (seconds : Float) : Except Problem Int :=
  Value.floatToInt (seconds * 1000.0)

def millis (s : Stopwatch) : Except Problem Int :=
  wholeMillis s.seconds

/-- Run an action between two readings. Its fault becomes part of the result. -/
def measure {σ α : Type} [Surroundings σ] (a : Action σ α) :
    Action σ (Except Fault α × Stopwatch) := do
  let started ← Action.ask Surroundings.tick
  let result ← Action.attempt a
  let ended ← Action.ask Surroundings.tick
  return (result, ⟨started, ended⟩)

end Stopwatch

end BucketStore
