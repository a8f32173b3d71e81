import BucketStore.Log.JsonLine
import BucketStore.Calendar.Stamp

namespace BucketStore.Log

/-- A configuration. Without a level the root keeps the one it had. -/
structure Configuration where
  handlerLevel : Int
  rootLevel : Int
  json : Bool
  /-- The kind of value that the level was given as. -/
  levelKind : String := (Value.int 0).kind
deriving Repr, DecidableEq

def namedLevels : List (String × Int) :=
  [("CRITICAL", 50), ("FATAL", 50), ("ERROR", 40), ("WARN", 30), ("WARNING", 30), ("INFO", 20),
    ("DEBUG", 10), ("NOTSET", 0)]

/-- The level of the driver's pool. -/
def poolLevel : Int := 30

/-- A level given by number or name, or none. -/
def levelOf : Value → Except Problem (Option Int)
  | .null => .ok none
  | .int i => .ok (some i)
  | .bool b => .ok (some (Value.ofBool b))
  | .text name =>
    match namedLevels.find? (·.1 == name) with
    | some (_, level) => .ok (some level)
    | none => .error .badLevel
  | _ => .error .badLevel

/-- The kind of a level: a truth value stays one. -/
def levelKindOf : Value → String
  | .bool b => (Value.bool b).kind
  | _ => (Value.int 0).kind

def configure (rootBefore : Int) (level json : Value) : Except Problem Configuration := do
  let number ← levelOf level
  return ⟨number.getD 0, number.getD rootBefore, json.truth, levelKindOf level⟩

/-- The logging of a program. Before it starts, the root is heard from warnings upwards. -/
def configureProgram (level : String) (json : Bool) : Except Problem Configuration :=
  configure 30 (.text level) (.bool json)

def isBelow (name ancestor : String) : Bool :=
  name == ancestor || (ancestor ++ ".").toList.isPrefixOf name.toList

def Configuration.effectiveLevel (c : Configuration) (logger : String) : Int :=
  if isBelow logger "psycopg.pool" then poolLevel else c.rootLevel

def Configuration.isEnabled (c : Configuration) (logger : String) (level : Int) : Bool :=
  0 < level && c.effectiveLevel logger ≤ level

def addParagraph (text more : String) : String :=
  (if text.endsWith "\n" then text else text ++ "\n") ++ more

/-- A second on a calendar that has years up to the limits of 32 bits, counted from 1900. -/
def secondText (second : Int) : Except Problem String :=
  let year := (Date.ofDays (Int.fdiv second 86400)).year
  if year < -0x7ffff894 ∨ 0x7fffffff < year then .error .instantTooLarge
  else .ok (Stamp.ofSecond second)

def timeText (created : Value) : Except Problem String :=
  match created with
  | .int i => secondText i
  | .bool b => secondText (Value.ofBool b)
  | .float f => do
    let whole ← Value.floatToInt f.floor
    secondText whole
  | v => .error (.noInt v.kind)

/-- A text that a line goes on with, if there is one; it has to be a text. -/
def addendum? (v : Value) : Except Problem (Option String) :=
  match v with
  | .text s => .ok (if s.isEmpty then none else some s)
  | v => if v.truth then .error (.operands "+" (Value.text "").kind v.kind) else .ok none

def consoleText (r : LogRecord) : Except Problem String := do
  let message ← r.message
  let time ← timeText r.created
  let line := " | ".intercalate [time, r.levelName.plain, r.logger.plain, message]
  let failure ← match ← addendum? r.failureText with
    | some text => pure (some text)
    | none => r.failure.report?
  let stack ← addendum? r.stack
  return [failure, stack].foldl (fun line more? => (more?.map (addParagraph line)).getD line) line

def Configuration.isHandled (c : Configuration) (level : Value) : Except Problem Bool :=
  match level with
  | .int i => .ok (c.handlerLevel ≤ i)
  | .bool b => .ok (c.handlerLevel ≤ Value.ofBool b)
  | .float f => .ok (Float.ofInt c.handlerLevel ≤ f)
  | v => .error (.comparison ">=" v.kind c.levelKind)

/-- What the handler writes of a record. A record that cannot be formatted leaves nothing, but its
level has to be a number. -/
def Configuration.write (c : Configuration) (r : LogRecord) : Except Problem String := do
  if !(← c.isHandled r.level) then return ""
  match if c.json then r.jsonLine else consoleText r with
  | .ok line => return line ++ "\n"
  | .error _ => return ""

def Configuration.transcript (c : Configuration) (created : Value) (journal : List LogEntry) :
    String :=
  let heard := journal.filter fun e => c.isEnabled e.logger.name e.level.number
  String.join (heard.map fun e => (c.write (e.record created)).toOption.getD "")

end BucketStore.Log
