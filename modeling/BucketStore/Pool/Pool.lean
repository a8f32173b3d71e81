import BucketStore.Pool.Connection
import BucketStore.DatabaseSettings

namespace BucketStore

namespace PoolState

def refusal? (p : PoolState) : Option Fault :=
  if p.closed then some (.driver .poolClosed "the pool 'reportstore' is already closed")
  else if p.out ≥ p.size then some (.driver .poolTimeout "couldn't get a connection")
  else none

def lend (p : PoolState) : PoolState := { p with out := p.out + 1 }

def takeBack (p : PoolState) : PoolState := { p with out := p.out - 1 }

end PoolState

namespace Pool

variable {σ : Type}

abbrev Id := Nat

def unlimited : Float := 1.0 / 0.0

def get? (id : Id) (w : World σ) : Option PoolState :=
  w.pools[id]?

def modify (id : Id) (f : PoolState → PoolState) : Action σ Unit :=
  Action.update fun w => { w with pools := w.pools.modify id f }

def touch [Surroundings σ] (contact : Contact) : Action σ Unit := do
  match ← Action.ask (Surroundings.strike contact) with
  | none => pure ()
  | some strike => throw strike.fault

def create (conninfo : String) (s : DatabaseSettings) : Action σ Id := do
  Action.record (.newPool conninfo s.poolSize s.timeout (s.maxLifetime.getD unlimited))
  let id := (← get).pools.length
  Action.update fun w =>
    { w with pools := w.pools ++ [{ size := s.poolSize, testQuery := s.testQuery }] }
  return id

/-- Open a pool and wait until its connections are there. -/
def open_ [Surroundings σ] (id : Id) (timeout : Float) : Action σ Unit := do
  Action.record (.openPool timeout)
  touch .openPool
  modify id fun p => { p with closed := false }

def close [Surroundings σ] (id : Id) : Action σ Unit := do
  Action.record .closePool
  Action.update fun w =>
    { w with disposals := w.disposals ++ [(id, ((get? id w).map (·.out)).getD 0)] }
  modify id fun p => { p with closed := true }
  touch .closePool

/-- Make a connection. It counts as out once it has been tried out. -/
def provide [Surroundings σ] (id : Id) (pool : PoolState) : Action σ Nat := do
  let connection := (← get).connections.length
  Action.update fun w => { w with connections := w.connections ++ [{ pool := id }] }
  if Surroundings.triesOut (← get).surroundings then
    Connection.tryOut connection pool.testQuery
  modify id PoolState.lend
  return connection

def handOut [Surroundings σ] (id : Id) : Action σ Nat := do
  touch .takeConnection
  let pool := (get? id (← get)).getD { size := 0, testQuery := "" }
  match pool.refusal? with
  | some fault => throw fault
  | none => provide id pool

def take [Surroundings σ] (id : Id) (timeout : Float) : Action σ Nat := do
  Action.record (.take timeout)
  match ← Action.attempt (handOut id) with
  | .ok connection =>
    Action.note
      { contact := .takeConnection, connection := some connection, fault := none,
        closed := ← Connection.isClosed connection }
    return connection
  | .error fault =>
    Action.note
      { contact := .takeConnection, connection := none, fault := some fault, closed := false }
    throw fault

def giveBack [Surroundings σ] (id : Id) (connection : Nat) : Action σ Unit := do
  Action.record (.giveBack connection)
  modify id PoolState.takeBack
  Connection.touch connection .returnConnection

end Pool

end BucketStore
