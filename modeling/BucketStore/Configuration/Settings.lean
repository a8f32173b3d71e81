import BucketStore.Validation
import BucketStore.Configuration.EnvironmentFile
import BucketStore.Text.Case

/-!
Settings of the process. A field is taken from the arguments, else from the environment, else from
the environment file, else it has its default. Names are compared without regard to case.
-/

namespace BucketStore

structure Settings where
  propertiesFile : String
  connectAttempts : Int
  connectBackoff : Float
  logLevel : String
  logJson : Bool

namespace Settings

def propertiesFileField : Field String :=
  { key := "DB_PROPERTIES_FILE", alternative := "db_properties_file", rule := Rule.text,
    default? := some "db.properties" }

def connectAttemptsField : Field Int :=
  { key := "DB_CONNECT_ATTEMPTS", alternative := "db_connect_attempts", rule := Rule.intFrom 1,
    default? := some 1 }

def connectBackoffField : Field Float :=
  { key := "DB_CONNECT_BACKOFF_SECONDS", alternative := "db_connect_backoff_seconds",
    rule := Rule.floatFrom 0, default? := some 1.0 }

def logLevelField : Field String :=
  { key := "LOG_LEVEL", alternative := "log_level", rule := Rule.text, default? := some "INFO" }

def logJsonField : Field Bool :=
  { key := "LOG_JSON", alternative := "log_json", rule := Rule.bool, default? := some false }

/-- Names are equal if their lower case is. -/
def sameName (a b : String) : Bool :=
  Text.lower a.toList == Text.lower b.toList

/-- The last value under a name, in any case. -/
def lookupName (names : List (String × String)) (name : String) : Option String :=
  (names.reverse.find? fun entry => sameName entry.1 name).map (·.2)

structure Sources where
  arguments : List (String × Value) := []
  environment : List (String × String) := []
  /-- The text of the environment file, if there is one. -/
  file : Option String := none

/-- The assignments of the environment file that have a value; of names that differ in case only,
the last one counts, even if it has none. -/
def fileValue (values : EnvironmentFile.Values) (name : String) : Option String :=
  (values.reverse.find? fun entry => sameName entry.1 name).bind (·.2)

/-- A value for a field outside the arguments. -/
def ambient (sources : Sources) (name : String) : Option String :=
  (lookupName sources.environment name).or
    (sources.file.bind fun text =>
      fileValue (EnvironmentFile.read sources.environment text) name)

/-- The last argument whose name differs from a field's in case only. -/
def similarArgument (sources : Sources) (name : String) : Option Value :=
  (sources.arguments.reverse.find? fun entry => sameName entry.1 name).map (·.2)

/-- The values that a field is checked on. Arguments that bear its very names come first. -/
def given {α : Type} (sources : Sources) (field : Field α) : List (String × Value) :=
  let isGiven (key : String) := (Value.lookup sources.arguments key).isSome
  if isGiven field.key || isGiven field.alternative then sources.arguments
  else
    match (similarArgument sources field.key).or ((ambient sources field.key).map .text) with
    | some v => [(field.key, v)]
    | none => []

def take {α : Type} (sources : Sources) (field : Field α) : Checked α :=
  field.check (given sources field)

def title : String := "Settings"

def read (sources : Sources) : Except Fault Settings :=
  let checked := (take sources propertiesFileField).both <|
    (take sources connectAttemptsField).both <|
    (take sources connectBackoffField).both <|
    (take sources logLevelField).both <|
    take sources logJsonField
  (checked.map fun (file, attempts, backoff, level, json) =>
    ⟨file, attempts, backoff, level, json⟩).run title

end Settings

end BucketStore
