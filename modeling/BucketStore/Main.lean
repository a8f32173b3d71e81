import BucketStore.CommandLine.Administration
import BucketStore.CommandLine.Generation
import BucketStore.Schedule
import Std.Time.DateTime.Timestamp

/-!
The program itself. It works on a database in memory, which is empty at its start. With `generate`
as its first argument it is the generator, and else the administration program.
-/

namespace BucketStore.Program

open CommandLine

/-- The variables in a block of `NAME=value` texts, each of which ends in a zero byte. -/
def environmentOf (block : List UInt8) : List (String × String) :=
  let entries := (block.splitOn 0).filter (!·.isEmpty)
  entries.map fun bytes =>
    let cs := (Text.decodeLossy bytes).toList
    let name := cs.takeWhile (· != '=')
    (String.ofList name, String.ofList (cs.drop (name.length + 1)))

/-- The width of the screen; a line has 80 cells if nothing is known. -/
def screenOf (environment : List (String × String)) : Nat :=
  match environment.find? (·.1 == "COLUMNS") with
  | some (_, columns) => columns.toNat?.getD 80
  | none => 80

structure Outcome where
  output : String
  complaints : String
  code : Nat

/-- The logging that a run has configured; before that nothing is logged. -/
def loggingOf (events : List Event) : Option Log.Configuration :=
  events.findSome? fun
    | .configureLogging level json => (Log.configureProgram level json).toOption
    | _ => none

/-- The last words of a run that a fault has ended. -/
def crashText (fault : Fault) : String :=
  fault.headline ++ "\n"

/-- What is to be written of a finished run. The log stands before all complaints. -/
def outcomeOf (created : Int) (result : Except Fault Nat) (w : World Schedule) : Outcome :=
  let log := ((loggingOf w.events).map (·.transcript (.int created) w.journal)).getD ""
  match Ending.ofResult result with
  | .exit code => ⟨w.output, log ++ w.complaints, code⟩
  | .crash fault => ⟨w.output, log ++ w.complaints ++ crashText fault, 1⟩

def run (host : Host) (now : Moment) (args : List String) : Outcome :=
  let world : World Schedule := { surroundings := { now } }
  let (result, w) := match args with
    | "generate" :: args => generate host args world
    | _ => administer host args world
  outcomeOf (Int.fdiv now.instant Moment.microsPerSecond) result w

end BucketStore.Program

open BucketStore BucketStore.Program

def readPropertiesFile (path : String) : IO Properties.File := do
  try
    let bytes ← IO.FS.readBinFile path
    return .content bytes.toList
  catch e =>
    match e with
    | .noFileOrDirectory .. => return .missing
    | .invalidArgument _ 36 _ => return .tooLong
    | _ => return .directory

/-- The text of a file, if there is one. -/
def readText? (path : String) : IO (Option String) := do
  match ← readPropertiesFile path with
  | .content bytes => return some (Text.decodeLossy bytes)
  | _ => return none

def main (args : List String) : IO UInt32 := do
  let environment := match ← readPropertiesFile "/proc/self/environ" with
    | .content block => environmentOf block
    | _ => []
  let environmentFile ← readText? ".env"
  let file ← match Settings.read { environment, file := environmentFile } with
    | .ok settings => readPropertiesFile settings.propertiesFile
    | .error _ => pure .missing
  let micros := (← Std.Time.Timestamp.now).toNanosecondsSinceUnixEpoch.val / 1000
  let host : CommandLine.Host :=
    { environment, environmentFile, file := fun _ => file, screen := screenOf environment }
  let outcome := run host ⟨micros, some 0⟩ args
  IO.print outcome.output
  IO.eprint outcome.complaints
  return outcome.code.toUInt32
