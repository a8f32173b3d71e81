import BucketStore.Bucket.Row
import BucketStore.Statement

namespace BucketStore

inductive Change where
  | upsert (name snapshot : String)
  | insert (g : Granularity) (row : Row)
  | deleteUntil (g : Granularity) (cutoff : Int)
  | run (sql : String)

structure Database where
  rows : Granularity → List Row := fun _ => []
  /-- Names with their snapshots, each name once. -/
  users : List (String × String) := []
  /-- Free statements that were committed. -/
  statements : List String := []

namespace Database

def setRows (db : Database) (g : Granularity) (rows : List Row) : Database :=
  { db with rows := fun other => if other = g then rows else db.rows other }

def apply (db : Database) : Change → Database
  | .upsert name snapshot => { db with users := putEntry db.users name snapshot }
  | .insert g row => db.setRows g (db.rows g ++ [row])
  | .deleteUntil g cutoff => db.setRows g ((db.rows g).filter fun row => cutoff < row.timestamp)
  | .run sql => { db with statements := db.statements ++ [sql] }

def applyAll (db : Database) (changes : List Change) : Database :=
  changes.foldl apply db

/-- Rows newer than an instant, newest first; rows of one instant keep their order. -/
def newest (db : Database) (g : Granularity) (since : Int) : List Row :=
  ((db.rows g).filter fun row => since < row.timestamp).mergeSort
    fun a b => b.timestamp ≤ a.timestamp

def points (db : Database) (g : Granularity) (since limit : Int) : List (Int × Float) :=
  ((db.newest g since).take limit.toNat).map fun row => (row.timestamp, row.average)

def expired (db : Database) (g : Granularity) (cutoff : Int) : Nat :=
  ((db.rows g).filter fun row => row.timestamp ≤ cutoff).length

def sortedUsers (db : Database) : List (String × String) :=
  db.users.mergeSort fun a b => a.1 ≤ b.1

end Database

end BucketStore
