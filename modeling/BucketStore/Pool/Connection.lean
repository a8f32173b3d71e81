import BucketStore.World

/-!
Connections: what is executed on one is staged, and a commit applies the stage to the database at
once. A commit or execution that ends in a fault applies nothing.
-/

namespace BucketStore.Connection

variable {σ : Type}

def get? (id : Nat) (w : World σ) : Option Connection :=
  w.connections[id]?

def modify (id : Nat) (f : Connection → Connection) : Action σ Unit :=
  Action.update fun w => { w with connections := w.connections.modify id f }

/-- The changes that wait on a connection. -/
def stageOf (id : Nat) (w : World σ) : List Change :=
  ((get? id w).map (·.stage)).getD []

def hasClosed (id : Nat) (w : World σ) : Bool :=
  ((get? id w).map (·.closed)).getD false

def isClosed (id : Nat) : Action σ Bool := do
  return hasClosed id (← get)

/-- Touch a contact on a connection, which a strike may close. -/
def touch [Surroundings σ] (id : Nat) (contact : Contact) : Action σ Unit := do
  let strike? ← Action.ask (Surroundings.strike contact)
  modify id fun c => { c with closed := c.closed || strike?.any (·.closes) }
  Action.note
    { contact, connection := some id, fault := strike?.map (·.fault), closed := ← isClosed id }
  match strike? with
  | none => pure ()
  | some strike => throw strike.fault

def stageChange (id : Nat) (change : Change) : Action σ Unit :=
  modify id fun c => { c with stage := c.stage ++ [change] }

def setAutocommit (id : Nat) (on : Bool) : Action σ Unit := do
  Action.record (.autocommit on)
  modify id fun c => { c with autocommit := on }

/-- Execute a free statement, unless it is refused. Outside a transaction it leaves nothing
behind. -/
def runFree [Surroundings σ] (id : Nat) (sql : String) : Action σ Unit := do
  let w ← get
  match Surroundings.refusal? w.surroundings sql with
  | some (kind, text) => throw (.driver kind text)
  | none =>
    let autocommit := ((get? id w).map (·.autocommit)).getD false
    if !autocommit then stageChange id (.run sql)

def enter [Surroundings σ] (id : Nat) (sql : String) (parameters : Option (List Int)) :
    Action σ Unit := do
  Action.record (.execute sql parameters)
  touch id (.execute sql)

def cursor [Surroundings σ] (id : Nat) : Action σ Unit :=
  touch id .cursor

/-- Execute a free statement without a cursor of its own. -/
def execute [Surroundings σ] (id : Nat) (sql : String) : Action σ Unit := do
  enter id sql none
  runFree id sql

/-- The newest points of a table, each a row of two columns. -/
def answerPoints [Surroundings σ] (g : Granularity) (since limit : Int) :
    Action σ (List Value) := do
  match ← Action.ask Surroundings.answer with
  | some rows => return rows
  | none =>
    let points := (← get).database.points g since limit
    return points.map fun (timestamp, value) => .list [.int timestamp, .float value]

/-- Stage the removal of rows up to a cutoff; the answer is their number. -/
def stageDeletion [Surroundings σ] (id : Nat) (g : Granularity) (cutoff : Int) :
    Action σ Int := do
  let count := (← get).database.expired g cutoff
  stageChange id (.deleteUntil g cutoff)
  return (← Action.ask Surroundings.count).getD count

/-- What a cursor holds after an execution: the rows of a query, the number of rows it changed. -/
structure Cursor where
  rows : List Value := []
  count : Int := -1

/-- Execute a text with parameters, which has the effect of the statement that it is. -/
def run [Surroundings σ] (id : Nat) (sql : String) (parameters : List Int) :
    Action σ Cursor := do
  enter id sql (some parameters)
  match Statement.ofText sql, parameters with
  | .selectPoints g, [since, limit] => return { rows := ← answerPoints g since limit }
  | .deleteUntil g, [cutoff] => return { count := ← stageDeletion id g cutoff }
  | _, _ =>
    runFree id sql
    return {}

def select [Surroundings σ] (id : Nat) (g : Granularity) (since limit : Int) :
    Action σ (List Value) := do
  return (← run id (Statement.selectPoints g).text [since, limit]).rows

/-- Delete the rows of a table up to a cutoff; the answer is their number. -/
def deleteUntil [Surroundings σ] (id : Nat) (g : Granularity) (cutoff : Int) : Action σ Int := do
  return (← run id (Statement.deleteUntil g).text [cutoff]).count

theorem select_eq [Surroundings σ] (id : Nat) (g : Granularity) (since limit : Int) :
    (select id g since limit : Action σ (List Value))
      = enter id (Statement.selectPoints g).text (some [since, limit]) >>= fun _ =>
        answerPoints g since limit := by
  have read := Statement.ofText_text (s := .selectPoints g) nofun
  simp only [select, run, read, bind_assoc, pure_bind, bind_pure]

theorem deleteUntil_eq [Surroundings σ] (id : Nat) (g : Granularity) (cutoff : Int) :
    (deleteUntil id g cutoff : Action σ Int)
      = enter id (Statement.deleteUntil g).text (some [cutoff]) >>= fun _ =>
        stageDeletion id g cutoff := by
  have read := Statement.ofText_text (s := .deleteUntil g) nofun
  simp only [deleteUntil, run, read, bind_assoc, pure_bind, bind_pure]

def upsertEach [Surroundings σ] (id : Nat) (sql : String) (index : Nat) :
    List (String × String) → Action σ Unit
  | [] => pure ()
  | (name, snapshot) :: rest => do
    touch id (.row sql index)
    stageChange id (.upsert name snapshot)
    upsertEach id sql (index + 1) rest

/-- Stage the rows of a batch one after the other, unless one is there already. -/
def insertEach [Surroundings σ] (id : Nat) (g : Granularity) (sql : String)
    (taken : List Row.Identity) (index : Nat) : List Row → Action σ Unit
  | [] => pure ()
  | row :: rest => do
    touch id (.row sql index)
    if taken.contains row.identity then
      throw (.driver .uniqueViolation
        ("duplicate key value violates unique constraint \"" ++ g.table ++ "_pkey\""))
    stageChange id (.insert g row)
    insertEach id g sql (row.identity :: taken) (index + 1) rest

def insertAll [Surroundings σ] (id : Nat) (g : Granularity) (sql : String) (rows : List Row) :
    Action σ Unit := do
  let taken := ((← get).database.rows g).map Row.identity
  insertEach id g sql taken 0 rows

def handOver [Surroundings σ] (id : Nat) (sql : String) (batch : Batch) : Action σ Unit := do
  Action.record (.executeMany sql batch)
  touch id (.executeMany sql)

def runMany [Surroundings σ] (id : Nat) (sql : String) (batch : Batch) : Action σ Unit := do
  handOver id sql batch
  match Statement.ofText sql, batch with
  | .upsertUser, .users users => upsertEach id sql 0 users
  | .insertRow g, .rows _ rows => insertAll id g sql rows
  | _, _ => runFree id sql

def upsertUsers [Surroundings σ] (id : Nat) (users : List (String × String)) :
    Action σ Unit :=
  runMany id Statement.upsertUser.text (.users users)

def insertRows [Surroundings σ] (id : Nat) (g : Granularity) (rows : List Row) :
    Action σ Unit :=
  runMany id (Statement.insertRow g).text (.rows g rows)

theorem upsertUsers_eq [Surroundings σ] (id : Nat) (users : List (String × String)) :
    (upsertUsers id users : Action σ Unit)
      = let sql := Statement.upsertUser.text
        handOver id sql (.users users) >>= fun _ => upsertEach id sql 0 users := by
  have read := Statement.ofText_text (s := .upsertUser) nofun
  simp only [upsertUsers, runMany, read]

theorem insertRows_eq [Surroundings σ] (id : Nat) (g : Granularity) (rows : List Row) :
    (insertRows id g rows : Action σ Unit)
      = let sql := (Statement.insertRow g).text
        handOver id sql (.rows g rows) >>= fun _ => insertAll id g sql rows := by
  have read := Statement.ofText_text (s := .insertRow g) nofun
  simp only [insertRows, runMany, read]

/-- Apply the stage to the database. -/
def commit [Surroundings σ] (id : Nat) : Action σ Unit := do
  Action.record (.commit id)
  touch id .commit
  Action.update fun w =>
    { w with database := w.database.applyAll (stageOf id w) }
  modify id fun c => { c with stage := [] }

/-- Forget the stage. -/
def rollback [Surroundings σ] (id : Nat) : Action σ Unit := do
  Action.record (.rollback id)
  modify id fun c => { c with stage := [] }
  touch id .rollback

/-- Try a connection out by a query outside any transaction. -/
def tryOut [Surroundings σ] (id : Nat) (query : String) : Action σ Unit := do
  let before := ((get? id (← get)).map (·.autocommit)).getD false
  setAutocommit id true
  Action.ensuring (execute id query) (setAutocommit id before)

/-- Roll back a connection that is given back after a fault. A fault of the driver is only
logged. -/
def rollbackQuietly [Surroundings σ] (id : Nat) : Action σ Unit := do
  if ← isClosed id then pure ()
  else
    match ← Action.attempt (rollback id) with
    | .ok () => pure ()
    | .error fault =>
      if fault.isDriver then
        Action.log
          { level := .debug, logger := .pool,
            message := "Rollback failed on returned connection: " ++ fault.message }
      else throw fault

end BucketStore.Connection
