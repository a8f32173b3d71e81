import BucketStore.Log.Template
import BucketStore.Journal

namespace BucketStore

inductive LogRecord.Failure where
  /-- A fault and behind it the faults that caused it, or none. -/
  | faults (faults : List Fault)
  /-- A value put in the place of a fault: kind, fault and trace one after the other. -/
  | value (v : Value)

structure LogRecord where
  logger : Value
  level : Value
  levelName : Value
  template : Value
  arguments : Template.Arguments
  failure : LogRecord.Failure := .faults []
  /-- A text that stands for the failure's own. -/
  failureText : Value := .null
  stack : Value := .null
  /-- Seconds since the epoch. -/
  created : Value := .int 0
  attributes : List (String × Value) := []

namespace LogRecord

def levelNames : List (Int × String) :=
  [(50, "CRITICAL"), (40, "ERROR"), (30, "WARNING"), (20, "INFO"), (10, "DEBUG"), (0, "NOTSET")]

def nameOfLevel (level : Int) : String :=
  match levelNames.find? (·.1 = level) with
  | some (_, name) => name
  | none => "Level " ++ intText level

/-- Arguments of a call. A single object that is not empty is asked for keys. -/
def argumentsOf : List Value → Template.Arguments
  | [v] =>
    match v with
    | .object (_ :: _) => .one v
    | _ => .many [v]
  | values => .many values

def argumentsOfValue (v : Value) : Template.Arguments :=
  if v.truth then .one v else .many []

/-- The message: the template, filled if there are arguments. -/
def message (r : LogRecord) : Except Problem String :=
  match r.arguments with
  | .many [] => .ok r.template.plain
  | arguments => Template.fill r.template.plain arguments

def attach (r : LogRecord) (name : String) (v : Value) : LogRecord :=
  match name with
  | "name" => { r with logger := v }
  | "levelname" => { r with levelName := v }
  | "levelno" => { r with level := v }
  | "msg" => { r with template := v }
  | "args" => { r with arguments := argumentsOfValue v }
  | "stack_info" => { r with stack := v }
  | "exc_text" => { r with failureText := v }
  | "exc_info" => { r with failure := .value v }
  | "created" => { r with created := v }
  | _ => { r with attributes := r.attributes ++ [(name, v)] }

def attachAll (r : LogRecord) (attributes : List (String × Value)) : LogRecord :=
  attributes.foldl (fun r (name, v) => r.attach name v) r

end LogRecord

/-- The module that a kind of fault is shown with. -/
def DriverFault.home : DriverFault → String
  | .uniqueViolation | .syntaxError => "psycopg.errors."
  | .poolTimeout | .poolClosed => "psycopg_pool."
  | _ => "psycopg."

def Fault.home : Fault → String
  | .driver kind _ => kind.home
  | .store _ _ _ => "reportstore.errors."
  | _ => ""

/-- The last line of a fault's report. -/
def Fault.headline (fault : Fault) : String :=
  let name := fault.home ++ fault.name
  if fault.message.isEmpty then name else name ++ ": " ++ fault.message

/-- What stands between a fault and the one it caused. -/
def causeRemark : String :=
  "\n\nThe above exception was the direct cause of the following exception:\n\n"

/-- A fault and its causes, the first cause in front. -/
def faultReport (faults : List Fault) : String :=
  causeRemark.intercalate (faults.reverse.map Fault.headline)

namespace LogRecord.Failure

/-- The third item of a value, which is the trace of a failure. -/
def trace : Value → Except Problem Value
  | .list items =>
    match items[2]? with
    | some v => .ok v
    | none => .error (.beyondEnd "list")
  | .text s =>
    match s.toList[2]? with
    | some c => .ok (.text (String.singleton c))
    | none => .error (.beyondEnd "string")
  | .object _ => .error (.missingNumber 2)
  | v => .error (.noItems v.kind)

/-- The report of a value in the place of a fault. Only one without a fault and without a trace
can be reported. -/
def valueReport (v : Value) : Except Problem String := do
  match ← trace v with
  | .null =>
    match v with
    | .list (_ :: .null :: _) => .ok "NoneType: None"
    | .list (_ :: fault :: _) => .error (.noMember fault.kind "__suppress_context__")
    | _ => .error (.beyondEnd "list")
  | tracing => .error (.noMember tracing.kind "tb_frame")

/-- The report of a failure, if there is one. -/
def report? : Failure → Except Problem (Option String)
  | .faults [] => .ok none
  | .faults (fault :: causes) => .ok (some (faultReport (fault :: causes)))
  | .value v => if v.truth then (valueReport v).map some else .ok none

end LogRecord.Failure

/-- The faults behind a fault, itself first. -/
def Fault.history (fault : Fault) : List Fault :=
  fault :: match fault.cause? with
    | some cause => [cause]
    | none => []

def LogLevel.number : LogLevel → Int
  | .debug => 10
  | .info => 20
  | .warning => 30
  | .error => 40

/-- The record of a log entry; its message is complete. -/
def LogEntry.record (e : LogEntry) (created : Value) : LogRecord :=
  { logger := .text e.logger.name, level := .int e.level.number, levelName := .text e.level.name,
    template := .text e.message, arguments := .many [],
    failure := .faults ((e.fault.map Fault.history).getD []), created, attributes := e.details }

end BucketStore
