import BucketStore.Calendar.Moment
import BucketStore.Database
import BucketStore.Journal

/-!
The world that operations act on: the database and its pools on the one side, what happens there
and what is logged about it on the other. Everything that an operation cannot know beforehand comes
from its surroundings: faults, the clock, and answers that do not follow from the database.
-/

namespace BucketStore

/-- The points at which an operation touches the pool or the driver. -/
inductive Contact where
  | openPool
  | closePool
  | takeConnection
  | returnConnection
  | cursor
  | execute (sql : String)
  | executeMany (sql : String)
  | row (sql : String) (index : Nat)
  | commit
  | rollback
deriving Repr, DecidableEq

/-- A fault at a contact; it may leave the connection closed. -/
structure Strike where
  fault : Fault
  closes : Bool := false

class Surroundings (σ : Type) where
  /-- Whether a contact ends in a fault. -/
  strike : Contact → σ → Option Strike × σ
  /-- The next reading of the stopwatch, in seconds. -/
  tick : σ → Float × σ
  /-- An answer of the next query, if it does not come from the database. -/
  answer : σ → Option (List Value) × σ
  /-- The next count of deleted rows, if it does not come from the database. -/
  count : σ → Option Int × σ
  /-- How a free statement is refused, if it is. -/
  refusal? : σ → String → Option (DriverFault × String)
  /-- Whether a connection is tried out before it is handed out. -/
  triesOut : σ → Bool
  /-- The present moment. -/
  now : σ → Moment

inductive Batch where
  | users (users : List (String × String))
  | rows (g : Granularity) (rows : List Row)

/-- What happens between the store, the pool and the driver. Connections are known by numbers. -/
inductive Event where
  | newPool (conninfo : String) (size : Int) (timeout lifetime : Float)
  | openPool (timeout : Float)
  | closePool
  | take (timeout : Float)
  | giveBack (connection : Nat)
  | autocommit (on : Bool)
  | execute (sql : String) (parameters : Option (List Int))
  | executeMany (sql : String) (batch : Batch)
  | commit (connection : Nat)
  | rollback (connection : Nat)
  | sleep (seconds : Float)
  | configureLogging (level : String) (json : Bool)

/-- A contact with a connection that was made, and how it ended. Taking one is kept when it is
decided: with the connection that was handed out, or with the fault in its place. -/
structure Touch where
  contact : Contact
  connection : Option Nat
  fault : Option Fault
  /-- The connection is closed afterwards. -/
  closed : Bool

structure PoolState where
  size : Int
  testQuery : String
  closed : Bool := true
  out : Int := 0
  /-- The pool's owner has asked for its closing. -/
  retired : Bool := false

structure Connection where
  pool : Nat
  closed : Bool := false
  autocommit : Bool := false
  /-- Changes that wait for the commit. -/
  stage : List Change := []

structure World (σ : Type) where
  surroundings : σ
  database : Database := {}
  pools : List PoolState := []
  connections : List Connection := []
  events : List Event := []
  /-- All contacts with connections, in order. -/
  trace : List Touch := []
  /-- The pools that were closed, in order, each with the number of its connections that were out
  when it was. -/
  disposals : List (Nat × Int) := []
  journal : List LogEntry := []
  /-- What was printed. -/
  output : String := ""
  /-- What was printed about errors. -/
  complaints : String := ""

/-- A computation on the world that may end in a fault. The world is kept in either case. -/
abbrev Action (σ : Type) := ExceptT Fault (StateM (World σ))

namespace Action

variable {σ α : Type}

/-- Run an action; a fault becomes part of the result. -/
def attempt (a : Action σ α) : Action σ (Except Fault α) :=
  fun w => let (result, w) := a w; (.ok result, w)

/-- Run an action and then a second one in any case. A fault of the second one counts. -/
def ensuring (a : Action σ α) (cleanup : Action σ Unit) : Action σ α :=
  fun w =>
    let (result, w) := a w
    match cleanup w with
    | (.ok (), w) => (result, w)
    | (.error fault, w) => (.error fault, w)

def update (f : World σ → World σ) : Action σ Unit :=
  fun w => (.ok (), f w)

def record (e : Event) : Action σ Unit :=
  update fun w => { w with events := w.events ++ [e] }

def note (t : Touch) : Action σ Unit :=
  update fun w => { w with trace := w.trace ++ [t] }

def log (entry : LogEntry) : Action σ Unit :=
  update fun w => { w with journal := w.journal ++ [entry] }

def print (text : String) : Action σ Unit :=
  update fun w => { w with output := w.output ++ text }

def complain (line : String) : Action σ Unit :=
  update fun w => { w with complaints := w.complaints ++ line ++ "\n" }

/-- Ask the surroundings. -/
def ask (f : σ → α × σ) : Action σ α :=
  fun w => let (a, s) := f w.surroundings; (.ok a, { w with surroundings := s })

def ofExcept (result : Except Fault α) : Action σ α :=
  fun w => (result, w)

/-- Take a result that a problem may stand in the place of. -/
def ofProblem (result : Except Problem α) : Action σ α :=
  ofExcept (result.mapError Fault.problem)

def fail (p : Problem) : Action σ α :=
  ofProblem (.error p)

end Action

end BucketStore
