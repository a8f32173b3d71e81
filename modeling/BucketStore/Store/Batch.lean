import BucketStore.Pool.Manager
import BucketStore.Stopwatch

/-!
Batches: work on one connection that is committed once. The policy decides how a failure is
reported: a tolerant batch tells of it in its result, a strict one ends in it.
-/

namespace BucketStore

inductive Policy where
  | tolerant
  | strict
deriving Repr, DecidableEq

/-- The policy of a given name; any other name is tolerant. -/
def Policy.ofName (name : String) : Policy :=
  if name == "strict" then .strict else .tolerant

/-- The summary of a batch. `rows` counts what was written or removed: nothing unless the batch
succeeded. -/
structure BatchResult where
  operation : String
  rows : Int := 0
  /-- Duration in seconds. -/
  seconds : Float := 0.0
  skipped : Bool := false
  error : Option String := none
  /-- Further details, missing where nothing ran. -/
  details : Option (List (String × Value)) := none
  /-- Rows removed from each table, by a purge. -/
  removed : Option (List (Granularity × Int)) := none

namespace BatchResult

def nothing (operation : String) : BatchResult :=
  { operation, skipped := true }

/-- An error without a text does not count as one. -/
def showsError (r : BatchResult) : Bool :=
  r.error.any (!·.isEmpty)

end BatchResult

namespace Batch

variable {σ α : Type}

/-- The error that a batch reports for a fault: the driver's are wrapped. -/
def reported (operation : String) (fault : Fault) : Fault :=
  if fault.isDriver then
    .store .batchFailed (operation ++ ": " ++ fault.message) (some fault)
  else fault

def inform (message : String) (details : List (String × Value)) : Action σ Unit :=
  Action.log { level := .info, logger := .store, message, details }

def logTimed (millis : Except Problem Int) (entry : String → LogEntry) : Action σ Unit := do
  let text ← Action.ofExcept ((millis.map intText).mapError Fault.problem)
  Action.log (entry text)

/-- Sum a batch up in the log, unless it shows an error. -/
def finish (summary : BatchResult) (message : String → String) (details : List (String × Value)) :
    Action σ BatchResult := do
  if !summary.showsError then
    logTimed (Stopwatch.wholeMillis summary.seconds) fun millis =>
      { level := .info, logger := .store, message := message millis, details }
  return summary

def logRaised (operation : String) (watch : Stopwatch) (error : Fault) : Action σ Unit :=
  logTimed watch.millis fun millis =>
    { level := .error, logger := .store,
      message := operation ++ " failed. Time " ++ millis ++ " ms.",
      details := [("operation", .text operation), ("error_type", .text error.name)] }

/-- Log a failure that is going to be told in the result. -/
def logTolerated (operation : String) (attempted : Int) (watch : Stopwatch) (error : Fault)
    (details : List (String × Value)) : Action σ Unit :=
  let own : List (String × Value) :=
    [("operation", .text operation), ("attempted", .int attempted),
      ("error_type", .text error.name)]
  logTimed watch.millis fun millis =>
    { level := .error, logger := .store,
      message := "Error in " ++ operation ++ ". Time " ++ millis ++ " ms. Records attempted "
        ++ intText attempted ++ ".",
      details := putEntries own details,
      fault := some error }

/-- Work on a connection, and then commit it. -/
def block [Surroundings σ] (work : Nat → Action σ α) (connection : Nat) : Action σ α := do
  let outcome ← work connection
  Connection.commit connection
  return outcome

/-- Tell how a batch ended, as the policy wants it. -/
def conclude (operation : String) (attempted : Int) (policy : Policy)
    (details : List (String × Value)) (result : Except Fault α) (watch : Stopwatch) :
    Action σ (BatchResult × Option α) :=
  match result with
  | .ok outcome =>
    let summary : BatchResult :=
      { operation, rows := attempted, seconds := watch.seconds, details := some details }
    return (summary, some outcome)
  | .error fault =>
    if !fault.isError then throw fault
    else do
      let error := reported operation fault
      match policy with
      | .strict =>
        logRaised operation watch error
        throw error
      | .tolerant =>
        logTolerated operation attempted watch error details
        let summary : BatchResult :=
          { operation, seconds := watch.seconds, error := some error.message,
            details := some (putEntry details "error_type" (.text error.name)) }
        return (summary, none)

def run [Surroundings σ] (m : Manager) (operation : String) (attempted : Int) (policy : Policy)
    (details : List (String × Value)) (work : Nat → Action σ α) :
    Action σ (BatchResult × Option α) := do
  let (result, watch) ← Stopwatch.measure (m.withConnection (block work))
  conclude operation attempted policy details result watch

end Batch

end BucketStore
