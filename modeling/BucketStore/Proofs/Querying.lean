import BucketStore.Proofs.Points
import BucketStore.Proofs.Retention
import BucketStore.Proofs.Serenity

/-!
Querying what was stored. After an insertion that returned without an error, a query that nothing
disturbs prints the newest points of the table and ends with the status zero, as long as each of
them has a stamp. Keys may have buckets outside of the years that can be stamped: such a point is
stored, and a query that comes across it fails.
-/

namespace BucketStore

variable {σ τ : Type}

/-- Nothing fails under a schedule without rules, and without answers the database answers. -/
def Schedule.IsSerene (s : Schedule) : Prop :=
  s.rules = [] ∧ s.answer = none

instance : Surroundings.Serene Schedule.IsSerene where
  strike contact s := by
    rintro ⟨unruled, unanswered⟩
    change (Schedule.strike contact s).1 = none ∧ (Schedule.strike contact s).2.IsSerene
    rw [Schedule.strike, unruled]
    exact ⟨rfl, rfl, unanswered⟩
  tick {s} := by
    rintro ⟨unruled, unanswered⟩
    change s.tick.2.IsSerene
    unfold Schedule.tick
    split <;> exact ⟨unruled, unanswered⟩
  answer := by
    rintro s ⟨unruled, unanswered⟩
    exact ⟨unanswered, unruled, rfl⟩

instance : Surroundings.Serene (fun _ : Calm => True) where
  strike _ _ _ := ⟨rfl, trivial⟩
  tick _ := trivial
  answer _ := ⟨rfl, trivial⟩

/-- An insertion without an error adds the rows of its entries to its table. -/
theorem Store.insertAverages_stores [Surroundings σ] {m : Manager} (enabled : m.isEnabled = true)
    {entries : List (BucketKey × Averaged)} {g : Granularity} {policy : Policy} {r : BatchResult}
    {w w' : World σ} (inserted : insertAverages m entries g policy w = (.ok r, w'))
    (clean : r.error = none) : Stores g entries (w.database.rows g) (w'.database.rows g) := by
  obtain ⟨changes, whole, changed⟩ :=
    insertAverages_clean enabled inserted clean (Surroundings.now w.surroundings)
  have stores := w.database.inserts_stores whole g
  rw [if_pos rfl] at stores
  rwa [changed]

namespace CommandLine

variable {host : Host} {report : Except Problem String} {w : World τ}

private theorem printReport_ok (clear : ∀ output text, host.obstacle? output text = none)
    {text : String} (made : report = .ok text) :
    printReport host report w = (.ok (), { w with output := w.output ++ text }) := by
  have found : Action.ofExcept (report.mapError Fault.problem) w = (.ok text, w) := by
    rw [made]
    rfl
  rw [printReport, Action.bind_of_ok found, Host.print, Action.bind_of_ok (Action.get_apply w),
    clear]
  rfl

private theorem printReport_error {p : Problem} (failed : report = .error p) :
    printReport host report w = (.error (.problem p), w) := by
  have found : Action.ofExcept (report.mapError Fault.problem) w = (.error (.problem p), w) := by
    rw [failed]
    rfl
  rw [printReport, Action.bind_of_error found]

section

variable [Surroundings τ] {P : τ → Prop} [Surroundings.Serene P] {db : DatabaseSettings}
  {g : Granularity} {since limit : Int}

/-- The newest points of a table. -/
def pointsOf (db : Database) (g : Granularity) (since limit : Int) : List Point :=
  (db.points g since limit).map fun point => ⟨point.1, point.2⟩

/-- An undisturbed query reports the newest points, and then closes its pool. -/
theorem Command.perform_query (reaches : host.Reaches P db) (start : P w.surroundings)
    (g : Granularity) (since limit : Int) :
    ∃ (m : Manager) (w₁ : World τ), Still P w w₁ ∧
      (Command.query g since limit).perform host w = (Action.ensuring (printReport host
        (Report.printPoints host.screen g (Report.cellsOf (pointsOf w.database g since limit))))
          m.close >>= fun _ => pure 0) w₁ := by
  obtain ⟨settings, pool, w₁, connected, still, kept, ready⟩ := reaches.connect start
  obtain ⟨w₂, selected, still'⟩ :=
    Store.selectPoints_ends ready db since limit g .tolerant still.safe
  rw [kept] at selected
  refine ⟨.enabled pool db, w₂, still.trans still', ?_⟩
  rw [perform, Action.bind_of_ok connected]
  dsimp only
  rw [Action.bind_apply, Action.ensuring_bind_of_ok selected]
  rw [Action.bind_apply]
  rfl

/-- A query that nothing disturbs shows the newest points if they all have stamps. -/
theorem Command.perform_query_ok (reaches : host.Reaches P db) (start : P w.surroundings)
    (clear : ∀ output text, host.obstacle? output text = none)
    (stamped : ∀ p ∈ pointsOf w.database g since limit, Stamp.InCalendar p.timestamp) :
    ∃ text w', Report.printPoints host.screen g
        (Report.cellsOf (pointsOf w.database g since limit)) = .ok text ∧
      (Command.query g since limit).perform host w = (.ok 0, w') ∧
        w'.output = w.output ++ text := by
  obtain ⟨m, w₁, still, performed⟩ := perform_query reaches start g since limit
  obtain ⟨text, made⟩ := Report.printPoints_ok stamped host.screen g
  obtain ⟨_, w₂, closed, still'⟩ := m.close_passes (P := P)
    { w₁ with output := w₁.output ++ text } still.safe
  refine ⟨text, w₂, made, ?_, ?_⟩
  · have ensured : Action.ensuring (printReport host (Report.printPoints host.screen g
        (Report.cellsOf (pointsOf w.database g since limit)))) m.close w₁ = (.ok (), w₂) := by
      simp [Action.ensuring, printReport_ok clear made, closed]
    rw [performed, Action.bind_of_ok ensured]
    rfl
  · rw [still'.output]
    exact congrArg (· ++ text) still.output

/-- One point without a stamp ends it with another status, and nothing is shown. -/
theorem Command.perform_query_error (reaches : host.Reaches P db) (start : P w.surroundings)
    (unstamped : ∃ p ∈ pointsOf w.database g since limit, ¬Stamp.InCalendar p.timestamp) :
    ∃ p w', (Command.query g since limit).perform host w = (.error (.problem p), w') ∧
        w'.output = w.output := by
  obtain ⟨m, w₁, still, performed⟩ := perform_query reaches start g since limit
  obtain ⟨point, member, outside⟩ := unstamped
  obtain ⟨problem, failed⟩ := Report.printPoints_error member outside host.screen g
  obtain ⟨_, w₂, closed, still'⟩ := m.close_passes (P := P) w₁ still.safe
  refine ⟨problem, w₂, ?_, still'.output.trans still.output⟩
  have ensured : Action.ensuring (printReport host (Report.printPoints host.screen g
      (Report.cellsOf (pointsOf w.database g since limit)))) m.close w₁
        = (.error (.problem problem), w₂) := by
    simp [Action.ensuring, printReport_error failed, closed]
  rw [performed, Action.bind_of_error ensured]

/-- What was stored can be queried, as long as it can be shown. After an insertion that returned
without an error, a query on its table that nothing disturbs selects the newest of the rows that
were there and of those that were added. If the selected points lie in the years that have stamps,
then the query prints their table and its status is zero; otherwise it prints nothing, and its
status is not zero. -/
theorem query_status [Surroundings σ] {m : Manager} (enabled : m.isEnabled = true)
    {entries : List (BucketKey × Averaged)} {policy : Policy} {r : BatchResult} {w₀ w₁ : World σ}
    (inserted : Store.insertAverages m entries g policy w₀ = (.ok r, w₁)) (clean : r.error = none)
    (reaches : host.Reaches P db) (clear : ∀ output text, host.obstacle? output text = none)
    {args : List String} (ordered : Command.read args = .ok (some (.query g since limit)))
    (start : P w.surroundings) (later : w.database = w₁.database) :
    let points := pointsOf w.database g since limit
    let ran := administer host args w
    Stores g entries (w₀.database.rows g) (w.database.rows g) ∧
      Selects since limit (w.database.rows g) points ∧
      ((∀ p ∈ points, Stamp.InCalendar p.timestamp) → ∃ text,
        Report.printPoints host.screen g (Report.cellsOf points) = .ok text ∧
          ran.1 = .ok 0 ∧ ran.2.output = w.output ++ text) ∧
      ((∃ p ∈ points, ¬Stamp.InCalendar p.timestamp) →
        (Ending.ofResult ran.1).status ≠ 0 ∧ ran.2.output = w.output) := by
  have obeyed : administer host args w = (Command.query g since limit).perform host w := by
    rw [administer, ordered]
    rfl
  dsimp only
  rw [obeyed]
  refine ⟨?_, w.database.points_selects g since limit, fun stamped => ?_, fun unstamped => ?_⟩
  · rw [later]
    exact Store.insertAverages_stores enabled inserted clean
  · obtain ⟨text, w', made, performed, shown⟩ :=
      Command.perform_query_ok reaches start clear stamped
    rw [performed]
    exact ⟨text, made, rfl, shown⟩
  · obtain ⟨p, w', performed, shown⟩ := Command.perform_query_error reaches start unstamped
    rw [performed]
    exact ⟨Nat.one_ne_zero, shown⟩

end

/-- The settings that the reachable host has. -/
def reachableSettings : DatabaseSettings where
  url := "postgresql://h/db"
  user := some "u"
  password := some "p"
  poolSize := 3
  timeout := 15.0
  maxLifetime := none
  testQuery := "SELECT 1"

private theorem reachable_reaches : reachable.Reaches (fun _ : Calm => True) reachableSettings := by
  have composed : reachableSettings.conninfo.toOption.isSome = true := by decide +kernel
  refine ⟨⟨⟨"db.properties", 1, 1.0, "INFO", false⟩, ⟨20, 20, false, "int"⟩,
    [("jdbc.url", "jdbc:postgresql://h/db"), ("user", "u"), ("password", "p")], ?_, ?_, ?_, ?_⟩,
    ?_, ?_⟩
  · rfl
  · rfl
  · decide +kernel
  · rfl
  · rcases found : reachableSettings.conninfo with _ | conninfo <;> rw [found] at composed
    · cases composed
    · exact ⟨conninfo, rfl⟩
  · exact fun _ _ => rfl

/-- An average of 1.5 for the key of one minute. -/
def minuteAverage (bucket : Int) : List (BucketKey × Averaged) :=
  [(Calm.pinKey bucket, .constant (.float 1.5))]

/-- The first minute of 1971 is stored, and shown by a query. -/
theorem query_status_january : ∃ r w₁,
    Store.insertAverages Calm.manager (minuteAverage 525600) .minute .strict Calm.world
      = (.ok r, w₁) ∧ r.error = none ∧
    let w : World Calm := { start with database := w₁.database }
    let points := pointsOf w₁.database .minute 0 100
    points.map (·.timestamp) = [31536000000] ∧
      (administer reachable ["query"] w).1 = .ok 0 ∧ ∃ text,
        Report.printPoints 0 .minute (Report.cellsOf points) = .ok text ∧
        (administer reachable ["query"] w).2.output = text := by
  have stored : (Store.insertAverages Calm.manager (minuteAverage 525600) .minute .strict
        Calm.world).1.toOption.map (·.error) = some none ∧
      (pointsOf (Store.insertAverages Calm.manager (minuteAverage 525600) .minute .strict
        Calm.world).2.database .minute 0 100).map (·.timestamp) = [31536000000] := by
    decide +kernel
  rcases inserted : Store.insertAverages Calm.manager (minuteAverage 525600) .minute .strict
    Calm.world with ⟨_ | r, w₁⟩ <;> rw [inserted] at stored
  · cases stored.1
  have clean : r.error = none := Option.some.inj stored.1
  obtain ⟨-, -, shown, -⟩ := query_status (P := fun _ => True)
    (w := { start with database := w₁.database }) (rfl : Calm.manager.isEnabled = true) inserted
    clean reachable_reaches (fun _ _ => rfl)
    (rfl : Command.read ["query"] = .ok (some (.query .minute 0 100))) trivial rfl
  obtain ⟨text, made, zero, output⟩ := shown fun p member => by
    have only := List.mem_map_of_mem (f := Point.timestamp) member
    rw [stored.2, List.mem_singleton] at only
    rw [only]
    decide
  exact ⟨r, w₁, rfl, clean, stored.2, zero, text, made, output⟩

/-- The first minute of year 10000 is stored under a valid key, but no query shows it. -/
theorem query_status_late : ∃ r w₁,
    BucketKey.forInstant .minute (.text "ada") (.int 1) (.int 2) (.text "v")
        (.int 253402300800000) = .ok (Calm.pinKey 4223371680) ∧
      Store.insertAverages Calm.manager (minuteAverage 4223371680) .minute .strict Calm.world
        = (.ok r, w₁) ∧ r.error = none ∧
      reachable.Reaches (fun _ : Calm => True) reachableSettings ∧
      (Ending.ofResult (administer reachable ["query"]
        { start with database := w₁.database }).1).status ≠ 0 := by
  have stored : (Store.insertAverages Calm.manager (minuteAverage 4223371680) .minute .strict
        Calm.world).1.toOption.map (·.error) = some none ∧
      (Ending.ofResult (administer reachable ["query"] { start with
        database := (Store.insertAverages Calm.manager (minuteAverage 4223371680) .minute .strict
          Calm.world).2.database }).1).status ≠ 0 := by
    decide +kernel
  rcases inserted : Store.insertAverages Calm.manager (minuteAverage 4223371680) .minute .strict
    Calm.world with ⟨_ | r, w₁⟩ <;> rw [inserted] at stored
  · cases stored.1
  exact ⟨r, w₁, rfl, rfl, Option.some.inj stored.1, reachable_reaches, stored.2⟩

end CommandLine

end BucketStore
