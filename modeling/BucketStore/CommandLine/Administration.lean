import BucketStore.Calendar.Timestamp
import BucketStore.CommandLine.Program
import BucketStore.Report

namespace BucketStore.CommandLine

inductive Command where
  | info
  | purge (now : Option Moment)
  | query (g : Granularity) (since limit : Int)
  | execute (sql : String)

namespace Command

def usage : String := "Usage: bucketstore info
       bucketstore purge [--now INSTANT]
       bucketstore query [-g minute|hourly|daily] [--since MILLIS] [-l LIMIT]
       bucketstore execute SQL
"

def nowOption : OptionNames := { long := "--now" }

def granularityOption : OptionNames := { long := "--graph-type", letter? := some 'g' }

def sinceOption : OptionNames := { long := "--since" }

def limitOption : OptionNames := { long := "--limit", letter? := some 'l' }

def momentOf (a : Arguments) : Except Misuse (Option Moment) :=
  match a.value? nowOption.long with
  | none => .ok none
  | some s =>
    match Timestamp.read? s with
    | some m => .ok (some m)
    | none => .error (.badValue nowOption.long s)

/-- The granularity of a query, in any case of letters. -/
def granularityOf (a : Arguments) : Except Misuse Granularity :=
  match a.value? granularityOption.long with
  | none => .ok .minute
  | some s =>
    match Granularity.ofWord? (s.map Char.toLower) with
    | some g => .ok g
    | none => .error (.badValue granularityOption.long s)

def limitOf (a : Arguments) : Except Misuse Int := do
  let limit ← intOption a limitOption.long 100
  if limit < 1 then throw (.badValue limitOption.long (intText limit)) else return limit

def readInfo (args : List String) : Order Command :=
  readOrder [] args fun a => do
    noPlain a
    return .info

def readPurge (args : List String) : Order Command :=
  readOrder [nowOption] args fun a => do
    let now ← momentOf a
    noPlain a
    return .purge now

def readQuery (args : List String) : Order Command :=
  readOrder [granularityOption, sinceOption, limitOption] args fun a => do
    let g ← granularityOf a
    let since ← intOption a sinceOption.long 0
    let limit ← limitOf a
    noPlain a
    return .query g since limit

def readExecute (args : List String) : Order Command :=
  readOrder [] args fun a => match a.plain with
    | [] => .error (.missingArgument "SQL")
    | [sql] => .ok (.execute sql)
    | _ :: extra => .error (.extraArguments extra)

def readNamed (name : String) (args : List String) : Order Command :=
  match name with
  | "info" => readInfo args
  | "purge" => readPurge args
  | "query" => readQuery args
  | "execute" => readExecute args
  | _ => .error (.unknownCommand name)

def read (args : List String) : Order Command :=
  match readArguments [] false {} args with
  | .error misuse => .error misuse
  | .ok a =>
    if a.help then .ok none
    else match a.plain with
      | [] => .error .missingCommand
      | name :: args => readNamed name args

end Command

section

variable {σ : Type}

def printReport (host : Host) (report : Except Problem String) : Action σ Unit := do
  let text ← Action.ofExcept (report.mapError Fault.problem)
  host.print text

def printBatch (host : Host) (r : BatchResult) : Action σ Unit :=
  printReport host (Report.printResult host.screen (Report.fieldsOf r))

def infoText (settings : Settings) (m : Manager) : String :=
  let enabled := (Value.bool m.isEnabled).shown
  let first := "properties=" ++ settings.propertiesFile ++ " enabled=" ++ enabled ++ "\n"
  match m.settings? with
  | none => first
  | some db =>
    first ++ "DB=" ++ db.url ++ " user=" ++ db.user.getD "None" ++ " pool=" ++ intText db.poolSize
      ++ " timeout=" ++ conciseText db.timeout ++ "s\n"

variable [Surroundings σ]

/-- Execute a statement; an error of the store is only complained about. -/
def executeStatement (host : Host) (m : Manager) (sql : String) :
    Action σ (Option BatchResult) := do
  match ← Action.attempt (Store.executeSql m sql) with
  | .ok result => return some result
  | .error fault =>
    if fault.isStore then
      host.complain (told ("Error: " ++ fault.message))
      match fault.cause? with
      | some cause => host.complain (told ("Cause: " ++ cause.message))
      | none => pure ()
      return none
    else throw fault

/-- Carry out a command; the answer is the code to exit with. -/
def Command.perform (host : Host) (command : Command) : Action σ Nat := do
  let (settings, m) ← host.connect
  match command with
  | .info =>
    Action.ensuring (host.say (infoText settings m)) m.close
    return 0
  | .purge now =>
    let work : Action σ Unit := do
      let result ← Store.purge m now .tolerant
      printBatch host result
    Action.ensuring work m.close
    return 0
  | .query g since limit =>
    let work : Action σ Unit := do
      let points ← Store.selectPoints m since limit g .tolerant
      let cells := points.map fun p => (Value.int p.timestamp, Value.float p.value)
      printReport host (Report.printPoints host.screen g cells)
    Action.ensuring work m.close
    return 0
  | .execute sql =>
    match ← Action.ensuring (executeStatement host m sql) m.close with
    | some result =>
      printBatch host result
      return 0
    | none => return 1

def administer (host : Host) (args : List String) : Action σ Nat :=
  obey Command.usage (Command.read args) (Command.perform host)

end

end BucketStore.CommandLine
