import BucketStore.Granularity

/-!
The fixed statements, one table for each granularity, and how their texts are read back. Deleting
includes the cutoff itself.
-/

namespace BucketStore

namespace Granularity

def table : Granularity → String
  | .minute => "reporting_average_minute"
  | .hourly => "reporting_average_hourly"
  | .daily => "reporting_average_daily"

end Granularity

inductive Statement where
  | upsertUser
  | insertRow (g : Granularity)
  | selectPoints (g : Granularity)
  | deleteUntil (g : Granularity)
  /-- Any other text. -/
  | free (text : String)
deriving Repr, DecidableEq

namespace Statement

def text : Statement → String
  | .upsertUser =>
    "INSERT INTO users VALUES (%s, %s) "
      ++ "ON CONFLICT (username) DO UPDATE SET json = EXCLUDED.json"
  | .insertRow g => "INSERT INTO " ++ g.table ++ " VALUES (%s, %s, %s, %s, %s, %s)"
  | .selectPoints g =>
    "SELECT ts, value FROM " ++ g.table ++ " WHERE ts > %s ORDER BY ts DESC LIMIT %s"
  | .deleteUntil g => "DELETE FROM " ++ g.table ++ " WHERE ts <= %s"
  | .free s => s

/-- The statements whose texts are fixed. -/
def fixed : List Statement :=
  .upsertUser :: Granularity.all.flatMap fun g => [.insertRow g, .selectPoints g, .deleteUntil g]

def ofText (sql : String) : Statement :=
  (fixed.find? (·.text == sql)).getD (.free sql)

private theorem mem_fixed {s : Statement} (bound : ∀ sql, s ≠ .free sql) : s ∈ fixed := by
  cases s with
  | free sql => exact absurd rfl (bound sql)
  | upsertUser => exact List.mem_cons_self
  | insertRow g | selectPoints g | deleteUntil g => cases g <;> decide

private theorem ofText_of_mem_fixed : ∀ s ∈ fixed, ofText s.text = s := by
  decide +kernel

/-- The text of a fixed statement is read back as it. -/
theorem ofText_text {s : Statement} (bound : ∀ sql, s ≠ .free sql) : ofText s.text = s :=
  ofText_of_mem_fixed s (mem_fixed bound)

end Statement

end BucketStore
