import BucketStore.Store.Batch
import BucketStore.User

namespace BucketStore.Store

variable {σ : Type}

/-- A user whose snapshot may fail when it is taken. -/
structure UserEntry where
  name : String
  snapshot : Except Fault String

def UserEntry.ofUser (u : User) : UserEntry :=
  ⟨u.name, .ok u.snapshot⟩

def snapshots : List UserEntry → Except Fault (List (String × String))
  | [] => .ok []
  | entry :: rest => do
    let snapshot ← entry.snapshot
    let others ← snapshots rest
    return (entry.name, snapshot) :: others

/-- Write users; of one name the last snapshot counts. -/
def saveUsers [Surroundings σ] (m : Manager) (users : List UserEntry) (policy : Policy) :
    Action σ BatchResult := do
  let operation := "save_users"
  if !m.isEnabled || users.isEmpty then return .nothing operation
  Batch.inform "Storing users..." []
  let (result, _) ← Batch.run m operation users.length policy [] fun connection => do
    let rows ← Action.ofExcept (snapshots users)
    Connection.cursor connection
    Connection.upsertUsers connection rows
  Batch.finish result
    (fun millis =>
      "Storing users finished. Time " ++ millis ++ " ms. Users saved " ++ intText result.rows)
    [("operation", .text operation), ("rows", .int result.rows),
      ("duration_seconds", .float result.seconds)]

def insertAverages [Surroundings σ] (m : Manager) (entries : List (BucketKey × Averaged))
    (g : Granularity) (policy : Policy) : Action σ BatchResult := do
  let operation := "insert_reporting"
  if !m.isEnabled || entries.isEmpty then return .nothing operation
  Batch.inform ("Storing " ++ g.title ++ " reporting...") []
  let details := [("graph_type", Value.text g.title), ("table", .text g.table)]
  let (result, _) ← Batch.run m operation entries.length policy details fun connection => do
    let rows ← Action.ofExcept (Row.ofEntries g entries)
    Connection.cursor connection
    Connection.insertRows connection g rows
  Batch.finish result
    (fun millis =>
      "Storing " ++ g.title ++ " reporting finished. Time " ++ millis ++ " ms. Records saved "
        ++ intText result.rows)
    [("operation", .text operation), ("graph_type", .text g.title), ("rows", .int result.rows),
      ("duration_seconds", .float result.seconds)]

def pointOfRow (row : Value) : Except Problem Point := do
  let (timestamp, value) ← row.pair
  return ⟨← timestamp.toInt, ← value.toFloat⟩

/-- Points out of rows; the first that is none ends it. -/
def pointsOfRows (rows : List Value) : Except Problem (List Point) :=
  rows.mapM pointOfRow

def selectPoints [Surroundings σ] (m : Manager) (since limit : Int) (g : Granularity)
    (policy : Policy) : Action σ (List Point) := do
  if !m.isEnabled || limit ≤ 0 then return []
  let details := [("graph_type", Value.text g.title)]
  let (_, points) ← Batch.run m "select_reporting" 0 policy details fun connection => do
    Connection.cursor connection
    let rows ← Connection.select connection g since limit
    Action.ofExcept ((pointsOfRows rows).mapError Fault.problem)
  return points.getD []

/-- The instant up to which a table's rows are past their retention. -/
def cutoff (now : Moment) (retention : Nat) : Except Problem Int :=
  (now.before retention).map Moment.epochMillis

/-- The cutoffs of all tables whose rows are not kept for ever. -/
def cutoffs (now : Moment) : Except Problem (List (Granularity × Int)) :=
  (Granularity.all.filterMap fun g => g.retention?.map (g, ·)).mapM fun (g, retention) =>
    (cutoff now retention).map (g, ·)

/-- Delete up to the cutoff of each table; the answer has the numbers of removed rows. -/
def deleteExpired [Surroundings σ] (connection : Nat) :
    List (Granularity × Int) → Action σ (List (Granularity × Int))
  | [] => return []
  | (g, cutoff) :: rest => do
    let count ← Connection.deleteUntil connection g cutoff
    let others ← deleteExpired connection rest
    return (g, max count 0) :: others

def removedRows : List (Granularity × Int) → Int
  | [] => 0
  | (_, count) :: rest => count + removedRows rest

def removedFrom (removed : List (Granularity × Int)) (g : Granularity) : Int :=
  ((removed.find? (·.1 = g)).map (·.2)).getD 0

def removedValue (removed : List (Granularity × Int)) : Value :=
  .object (removed.map fun (g, count) => (g.table, .int count))

def purgeAt [Surroundings σ] (m : Manager) (now : Moment) (policy : Policy) :
    Action σ BatchResult := do
  let operation := "clean_old_reporting_records"
  let cutoffs ← Action.ofExcept ((cutoffs now).mapError Fault.problem)
  Batch.inform "Removing old reporting records..." []
  let (result, removed) ← Batch.run m operation 0 policy [] fun connection => do
    Connection.cursor connection
    deleteExpired connection cutoffs
  let removed := removed.getD (cutoffs.map fun (g, _) => (g, 0))
  let result := { result with removed := some removed, rows := removedRows removed }
  Batch.finish result
    (fun millis =>
      "Removing finished. Minute records " ++ intText (removedFrom removed .minute)
        ++ ", hour records " ++ intText (removedFrom removed .hourly) ++ ". Time " ++ millis
        ++ " ms")
    [("operation", .text operation), ("removed", removedValue removed),
      ("duration_seconds", .float result.seconds)]

/-- Remove the rows that are past their retention at the given moment, or at present. -/
def purge [Surroundings σ] (m : Manager) (now : Option Moment) (policy : Policy) :
    Action σ BatchResult := do
  if !m.isEnabled then
    return { BatchResult.nothing "clean_old_reporting_records" with removed := some [] }
  purgeAt m (now.getD (Surroundings.now (← get).surroundings)) policy

def executeSql [Surroundings σ] (m : Manager) (sql : String) (policy : Policy := .strict) :
    Action σ BatchResult := do
  let (result, _) ← Batch.run m "execute_sql" 1 policy [] fun connection =>
    Connection.execute connection sql
  return result

end BucketStore.Store
