import BucketStore.Entries
import BucketStore.Log.Record
import BucketStore.Json.Writer

/-!
Log records as objects on one line: level, logger and message, then what is there of fault and
stack, the attributes, and the entries of an attribute called `extra`. A later entry replaces an
earlier one of the same name in its place.
-/

namespace BucketStore.LogRecord

/-- Names of a record's own fields, which no attribute of a line comes from. -/
def ownNames : List String :=
  ["name", "msg", "args", "levelname", "levelno", "pathname", "filename", "module", "exc_info",
    "exc_text", "stack_info", "lineno", "funcName", "created", "msecs", "relativeCreated",
    "thread", "threadName", "processName", "process", "message", "asctime", "taskName"]

def circumstances (r : LogRecord) : Except Problem (List (String × Value)) := do
  let report ← r.failure.report?
  return (report.map fun text => ("exc_info", .text text)).toList
    ++ (if r.stack.truth then [("stack_info", r.stack)] else [])

def shownAttributes (r : LogRecord) : List (String × Value) :=
  r.attributes.filter fun entry =>
    entry.1 != "extra" && !ownNames.contains entry.1

/-- The entries of the attribute called `extra`, if that is an object. -/
def nestedEntries (r : LogRecord) : List (String × Value) :=
  match Value.lookup r.attributes "extra" with
  | some (.object entries) => entries
  | _ => []

def entries (r : LogRecord) : Except Problem (List (String × Value)) := do
  let message ← r.message
  let start : List (String × Value) :=
    [("level", r.levelName), ("logger", r.logger), ("message", .text message)]
  let circumstances ← r.circumstances
  return putEntries start (circumstances ++ r.shownAttributes ++ r.nestedEntries)

def jsonLine (r : LogRecord) : Except Problem String := do
  return Json.write (.object (← r.entries))

end BucketStore.LogRecord
