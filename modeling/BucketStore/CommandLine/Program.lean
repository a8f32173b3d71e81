import BucketStore.CommandLine.Arguments
import BucketStore.CommandLine.Echo
import BucketStore.Configuration.Settings
import BucketStore.Log.Configuration
import BucketStore.Pool.Manager

namespace BucketStore.CommandLine

/-- What a program finds when it starts. -/
structure Host where
  environment : List (String × String) := []
  /-- The text of the environment file, if there is one. -/
  environmentFile : Option String := none
  /-- The properties file at a path. -/
  file : String → Properties.File := fun _ => .missing
  /-- What comes of configuring the log with a level and with, or without, lines of JSON. -/
  logging : String → Bool → Except Problem Log.Configuration := Log.configureProgram
  /-- The cells in a line of the screen. -/
  screen : Nat := 120
  /-- The fault that keeps a text off the screen, if there is one. What stands there already comes
  first. -/
  obstacle? : String → String → Option Fault := fun _ _ => none

inductive Ending where
  | exit (code : Nat)
  /-- A fault that nothing has caught. -/
  | crash (fault : Fault)

/-- The code of a program that the user has stopped. -/
def interrupted : Nat := 130

/-- The code of a program that was called in a wrong way. -/
def misused : Nat := 2

def Ending.ofResult : Except Fault Nat → Ending
  | .ok code => .exit code
  | .error (.interrupt _) => .exit interrupted
  | .error fault => .crash fault

/-- An order to a program, or none if help is asked for. -/
abbrev Order (α : Type) := Except Misuse (Option α)

/-- The order that arguments with the given options make, unless they ask for help. -/
def readOrder {α : Type} (names : List OptionNames) (args : List String)
    (order : Arguments → Except Misuse α) : Order α :=
  match readArguments names true {} args with
  | .error misuse => .error misuse
  | .ok a => if a.help then .ok none else (order a).map some

def noPlain (a : Arguments) : Except Misuse Unit :=
  if a.plain.isEmpty then .ok () else .error (.extraArguments a.plain)

def intOption (a : Arguments) (option : String) (fallback : Int) : Except Misuse Int :=
  match a.value? option with
  | none => .ok fallback
  | some s =>
    match Rule.intOfText s with
    | .ok i => .ok i
    | .error _ => .error (.badValue option s)

section

variable {σ : Type} (host : Host)

/-- Print a text, unless something stands in its way. -/
def Host.print (text : String) : Action σ Unit := do
  match host.obstacle? (← get).output text with
  | none => Action.print text
  | some fault => throw fault

def Host.complain (line : String) : Action σ Unit := do
  match host.obstacle? (← get).complaints line with
  | none => Action.complain line
  | some fault => throw fault

def Host.say (text : String) : Action σ Unit :=
  host.print (told text)

end

section

variable {σ α : Type} [Surroundings σ]

def Host.connect (host : Host) : Action σ (Settings × Manager) := do
  let settings ← Action.ofExcept
    (Settings.read { environment := host.environment, file := host.environmentFile })
  Action.record (.configureLogging settings.logLevel settings.logJson)
  let _ ← Action.ofProblem (host.logging settings.logLevel settings.logJson)
  let manager ← Manager.ofSettings settings host.file
  return (settings, manager)

def obey (usage : String) (order : Order α) (perform : α → Action σ Nat) : Action σ Nat :=
  match order with
  | .error misuse => do
    Action.complain ("Error: " ++ misuse.message)
    return misused
  | .ok none => do
    Action.print usage
    return 0
  | .ok (some order) => perform order

omit [Surroundings σ] in
/-- A stop that the user asks for before an order is carried out. -/
def cancelled : Action σ Nat := do
  Action.complain "Cancelled by user."
  return interrupted

end

end BucketStore.CommandLine
