import BucketStore.Proofs.FailureReport
import BucketStore.Proofs.Purge

/-!
Tolerance. Where the surroundings raise errors only, and their clock shows every duration, a batch
under the tolerant policy comes to its end whatever fails on the way. A purge works its cutoffs out
before its batch.
-/

namespace BucketStore

variable {σ α β : Type}

/-- States of the surroundings from which all faults are errors and all durations can be shown. -/
class Surroundings.Orderly [Surroundings σ] (safe : σ → Prop) : Prop where
  strike : ∀ (contact : Contact) {s : σ}, safe s → safe (Surroundings.strike contact s).2
  errors : ∀ (contact : Contact) {s : σ}, safe s →
    ∀ strike ∈ (Surroundings.strike contact s).1, strike.fault.isError = true
  tick : ∀ {s : σ}, safe s → safe (Surroundings.tick s).2
  count : ∀ {s : σ}, safe s → safe (Surroundings.count s).2
  shown : ∀ {s s' : σ}, safe s → safe s' →
    ∃ millis, Stopwatch.millis ⟨(Surroundings.tick s).1, (Surroundings.tick s').1⟩ = .ok millis

namespace Action

/-- From safe surroundings an action leads to safe ones, and it ends in no fault but errors. -/
def ErrsOnly (safe : σ → Prop) (a : Action σ α) : Prop :=
  ∀ w, safe w.surroundings → safe (a w).2.surroundings ∧
    ∀ fault, (a w).1 = .error fault → fault.isError = true

namespace ErrsOnly

variable {safe : σ → Prop}

theorem pure (a : α) : ErrsOnly safe (Pure.pure a : Action σ α) :=
  fun _ start => ⟨start, nofun⟩

theorem get : ErrsOnly safe (MonadState.get : Action σ (World σ)) :=
  fun _ start => ⟨start, nofun⟩

theorem throw {fault : Fault} (error : fault.isError = true) :
    ErrsOnly safe (MonadExcept.throw fault : Action σ α) :=
  fun _ start => ⟨start, fun _ same => Except.error.inj same ▸ error⟩

/-- The surroundings do not change with the rest of the world. -/
theorem update {f : World σ → World σ} (kept : ∀ w, (f w).surroundings = w.surroundings) :
    ErrsOnly safe (Action.update f) :=
  fun w start => ⟨(kept w).symm ▸ start, nofun⟩

theorem record (e : Event) : ErrsOnly safe (Action.record e : Action σ Unit) :=
  .update fun _ => rfl

theorem ask {f : σ → α × σ} (kept : ∀ {s}, safe s → safe (f s).2) : ErrsOnly safe (Action.ask f) :=
  fun _ start => ⟨kept start, nofun⟩

theorem bind {a : Action σ α} {f : α → Action σ β} (first : ErrsOnly safe a)
    (rest : ∀ x, ErrsOnly safe (f x)) : ErrsOnly safe (a >>= f) := by
  intro w start
  obtain ⟨kept, errors⟩ := first w start
  rcases ran : a w with ⟨fault | x, w₁⟩ <;> rw [ran] at kept errors
  · rw [bind_of_error ran]
    exact ⟨kept, fun _ same => errors _ (congrArg Except.error (Except.error.inj same))⟩
  · rw [bind_of_ok ran]
    exact rest x w₁ kept

/-- What is made of a fault may count on its being an error. -/
theorem attempt {a : Action σ α} {f : Except Fault α → Action σ β} (first : ErrsOnly safe a)
    (passed : ∀ x, ErrsOnly safe (f (.ok x)))
    (failed : ∀ fault, fault.isError = true → ErrsOnly safe (f (.error fault))) :
    ErrsOnly safe (Action.attempt a >>= f) := by
  intro w start
  obtain ⟨kept, errors⟩ := first w start
  rw [attempt_bind]
  rcases ran : a w with ⟨fault | x, w₁⟩ <;> rw [ran] at kept errors
  · exact failed fault (errors fault rfl) w₁ kept
  · exact passed x w₁ kept

theorem ensuring {a : Action σ α} {cleanup : Action σ Unit} (first : ErrsOnly safe a)
    (last : ErrsOnly safe cleanup) : ErrsOnly safe (Action.ensuring a cleanup) := by
  intro w start
  obtain ⟨kept, errors⟩ := first w start
  obtain ⟨kept', errors'⟩ := last (a w).2 kept
  unfold Action.ensuring
  rcases ran : a w with ⟨result, w₁⟩
  rw [ran] at errors kept' errors'
  rcases ended : cleanup w₁ with ⟨fault | _, w₂⟩ <;> rw [ended] at kept' errors'
  · simpa [ended] using ⟨kept', errors' fault rfl⟩
  · simpa [ended] using ⟨kept', errors⟩

/-- At a contact nothing strikes but errors. -/
theorem strike [Surroundings σ] [Surroundings.Orderly safe] (contact : Contact)
    {f : Option Strike → Action σ β} (rest : ∀ answer : Option Strike,
      (∀ strike ∈ answer, strike.fault.isError = true) → ErrsOnly safe (f answer)) :
    ErrsOnly safe (Action.ask (Surroundings.strike contact) >>= f) := by
  intro w start
  rw [bind_of_ok (ask_apply _ w)]
  exact rest _ (Surroundings.Orderly.errors contact start) _
    (Surroundings.Orderly.strike contact start)

end ErrsOnly

end Action

open BucketStore.Action (ErrsOnly)

namespace Connection

variable {safe : σ → Prop}

theorem modify_errs (id : Nat) (f : Connection → Connection) :
    ErrsOnly safe (modify id f : Action σ Unit) :=
  .update fun _ => rfl

theorem isClosed_errs (id : Nat) : ErrsOnly safe (isClosed id : Action σ Bool) :=
  .bind .get fun _ => .pure _

theorem setAutocommit_errs (id : Nat) (on : Bool) :
    ErrsOnly safe (setAutocommit id on : Action σ Unit) :=
  .bind (.record _) fun _ => modify_errs id _

variable [Surroundings σ]

theorem runFree_errs (id : Nat) (sql : String) :
    ErrsOnly safe (runFree id sql : Action σ Unit) := by
  refine .bind .get fun w => ?_
  split
  · exact .throw rfl
  · dsimp only
    split
    · exact modify_errs id _
    · exact .pure _

variable [Surroundings.Orderly safe]

theorem touch_errs (id : Nat) (contact : Contact) :
    ErrsOnly safe (touch id contact : Action σ Unit) := by
  refine .strike contact fun strike errors => .bind (modify_errs id _) fun _ =>
    .bind (isClosed_errs id) fun closed => .bind (.update fun _ => rfl) fun _ => ?_
  cases strike with
  | none => exact .pure _
  | some strike => exact .throw (errors strike rfl)

theorem enter_errs (id : Nat) (sql : String) (parameters : Option (List Int)) :
    ErrsOnly safe (enter id sql parameters : Action σ Unit) :=
  .bind (.record _) fun _ => touch_errs id _

theorem execute_errs (id : Nat) (sql : String) :
    ErrsOnly safe (execute id sql : Action σ Unit) :=
  .bind (enter_errs id sql none) fun _ => runFree_errs id sql

theorem deleteUntil_errs (id : Nat) (g : Granularity) (cutoff : Int) :
    ErrsOnly safe (deleteUntil id g cutoff : Action σ Int) := by
  rw [deleteUntil_eq]
  exact .bind (enter_errs id _ _) fun _ => .bind .get fun _ => .bind (modify_errs id _) fun _ =>
    .bind (.ask Surroundings.Orderly.count) fun _ => .pure _

theorem commit_errs (id : Nat) : ErrsOnly safe (commit id : Action σ Unit) :=
  .bind (.record _) fun _ => .bind (touch_errs id _) fun _ =>
    .bind (.update fun _ => rfl) fun _ => modify_errs id _

theorem rollback_errs (id : Nat) : ErrsOnly safe (rollback id : Action σ Unit) :=
  .bind (.record _) fun _ => .bind (modify_errs id _) fun _ => touch_errs id _

theorem tryOut_errs (id : Nat) (query : String) :
    ErrsOnly safe (tryOut id query : Action σ Unit) :=
  .bind .get fun _ => .bind (setAutocommit_errs id true) fun _ =>
    .ensuring (execute_errs id query) (setAutocommit_errs id _)

theorem rollbackQuietly_errs (id : Nat) :
    ErrsOnly safe (rollbackQuietly id : Action σ Unit) := by
  refine .bind (isClosed_errs id) fun closed => ?_
  split
  · exact .pure _
  · refine .attempt (rollback_errs id) (fun _ => .pure _) fun fault error => ?_
    dsimp only
    split
    · exact .update fun _ => rfl
    · exact .throw error

end Connection

namespace Pool

variable {safe : σ → Prop}

theorem modify_errs (id : Id) (f : PoolState → PoolState) :
    ErrsOnly safe (modify id f : Action σ Unit) :=
  .update fun _ => rfl

variable [Surroundings σ] [Surroundings.Orderly safe]

theorem touch_errs (contact : Contact) : ErrsOnly safe (touch contact : Action σ Unit) := by
  refine .strike contact fun strike errors => ?_
  cases strike with
  | none => exact .pure _
  | some strike => exact .throw (errors strike rfl)

theorem provide_errs (id : Id) (pool : PoolState) :
    ErrsOnly safe (provide id pool : Action σ Nat) := by
  refine .bind .get fun w => .bind (.update fun _ => rfl) fun _ => .bind .get fun w' => ?_
  split
  · exact .bind (Connection.tryOut_errs _ _) fun _ => .bind (modify_errs id _) fun _ => .pure _
  · exact .bind (modify_errs id _) fun _ => .pure _

private theorem refusal?_isError {p : PoolState} {fault : Fault}
    (refused : p.refusal? = some fault) :
    fault.isError = true := by
  unfold PoolState.refusal? at refused
  split at refused
  · cases refused
    rfl
  · split at refused
    · cases refused
      rfl
    · cases refused

theorem handOut_errs (id : Id) : ErrsOnly safe (handOut id : Action σ Nat) := by
  refine .bind (touch_errs _) fun _ => .bind .get fun w => ?_
  dsimp only
  split
  · rename_i refused
    exact .throw (refusal?_isError refused)
  · exact provide_errs id _

theorem take_errs (id : Id) (timeout : Float) :
    ErrsOnly safe (take id timeout : Action σ Nat) := by
  refine .bind (.record _) fun _ => .attempt (handOut_errs id) (fun connection => ?_) ?_
  · exact .bind (Connection.isClosed_errs _) fun _ => .bind (.update fun _ => rfl) fun _ => .pure _
  · exact fun fault error => .bind (.update fun _ => rfl) fun _ => .throw error

theorem giveBack_errs (id : Id) (connection : Nat) :
    ErrsOnly safe (giveBack id connection : Action σ Unit) :=
  .bind (.record _) fun _ => .bind (modify_errs id _) fun _ => Connection.touch_errs connection _

end Pool

namespace Manager

variable {safe : σ → Prop} [Surroundings σ] [Surroundings.Orderly safe]

/-- What is told of an error of the pool is an error. -/
theorem refusal_isError (settings : DatabaseSettings) {fault : Fault}
    (error : fault.isError = true) : (refusal settings fault).isError = true := by
  unfold refusal
  split
  · rfl
  · rfl
  · exact error

theorem acquire_errs (m : Manager) : ErrsOnly safe (m.acquire : Action σ Nat) := by
  cases m with
  | disabled => exact .throw rfl
  | enabled pool settings =>
    exact .attempt (Pool.take_errs pool _) (fun _ => .pure _)
      fun _ error => .throw (refusal_isError settings error)

theorem leave_errs (m : Manager) (connection : Nat) (faulted : Bool) :
    ErrsOnly safe (m.leave connection faulted : Action σ Unit) := by
  cases m with
  | disabled => exact .pure _
  | enabled pool settings =>
    refine .ensuring ?_ (Pool.giveBack_errs pool connection)
    cases faulted with
    | true => exact Connection.rollbackQuietly_errs connection
    | false => exact .pure _

theorem withConnection_errs (m : Manager) {use : Nat → Action σ α}
    (used : ∀ id, ErrsOnly safe (use id)) : ErrsOnly safe (m.withConnection use) := by
  refine .bind m.acquire_errs fun connection => .attempt (used connection) ?_ ?_
  · exact fun _ => .bind (m.leave_errs connection false) fun _ => .pure _
  · exact fun _ error => .bind (m.leave_errs connection true) fun _ => .throw error

end Manager

theorem Store.deleteExpired_errs {safe : σ → Prop} [Surroundings σ] [Surroundings.Orderly safe]
    (id : Nat) (entries : List (Granularity × Int)) :
    ErrsOnly safe (deleteExpired id entries : Action σ (List (Granularity × Int))) := by
  induction entries with
  | nil => exact .pure _
  | cons entry rest ih =>
    exact .bind (Connection.deleteUntil_errs id _ _) fun _ => .bind ih fun _ => .pure _

namespace Batch

variable {safe : σ → Prop} [Surroundings σ] [Surroundings.Orderly safe]

theorem block_errs {work : Nat → Action σ α} (worked : ∀ id, ErrsOnly safe (work id)) (id : Nat) :
    ErrsOnly safe (block work id) :=
  .bind (worked id) fun _ => .bind (Connection.commit_errs id) fun _ => .pure _

omit [Surroundings σ] [Surroundings.Orderly safe] in
/-- A tolerant batch returns whatever its work came to, if that is no fault but an error. -/
theorem conclude_returns {result : Except Fault α} {watch : Stopwatch} {millis : Int}
    (errors : ∀ fault, result = .error fault → fault.isError = true)
    (shown : watch.millis = .ok millis) (operation : String) (attempted : Int)
    (details : List (String × Value)) (w : World σ) :
    ∃ batch w', conclude operation attempted .tolerant details result watch w = (.ok batch, w') ∧
      batch.1.seconds = watch.seconds := by
  cases result with
  | ok x => exact ⟨_, w, rfl, rfl⟩
  | error fault =>
    obtain ⟨summary, entry, _, seconds, concluded⟩ :=
      conclude_tells (α := α) (errors fault rfl) shown operation attempted details w
    exact ⟨_, _, concluded, seconds⟩

/-- A tolerant batch returns, and its duration can be shown. -/
theorem run_returns {work : Nat → Action σ α} (worked : ∀ id, ErrsOnly safe (work id))
    (m : Manager) (operation : String) (attempted : Int) (details : List (String × Value))
    {w : World σ} (start : safe w.surroundings) :
    ∃ batch w' millis, run m operation attempted .tolerant details work w = (.ok batch, w') ∧
      Stopwatch.wholeMillis batch.1.seconds = .ok millis := by
  have begun : safe (Surroundings.tick w.surroundings).2 := Surroundings.Orderly.tick start
  obtain ⟨ended, errors⟩ := m.withConnection_errs (block_errs worked)
    { w with surroundings := (Surroundings.tick w.surroundings).2 } begun
  obtain ⟨millis, shown⟩ := Surroundings.Orderly.shown start ended
  obtain ⟨batch, w', concluded, seconds⟩ :=
    conclude_returns errors shown operation attempted details _
  exact ⟨batch, w', millis, concluded, seconds ▸ shown⟩

omit [Surroundings σ] [Surroundings.Orderly safe] in
/-- A summary whose duration can be shown is returned. -/
theorem finish_returns {summary : BatchResult} {millis : Int}
    (shown : Stopwatch.wholeMillis summary.seconds = .ok millis) (message : String → String)
    (details : List (String × Value)) (w : World σ) :
    ∃ w', finish summary message details w = (.ok summary, w') := by
  dsimp only [finish]
  split
  · rw [Action.bind_of_ok (logTimed_of_ok shown _ w)]
    exact ⟨_, rfl⟩
  · exact ⟨_, rfl⟩

/-- A tolerant batch that is announced and summed up returns its answer. -/
theorem announced_returns {work : Nat → Action σ α} (worked : ∀ id, ErrsOnly safe (work id))
    {answer : BatchResult × Option α → BatchResult}
    (seconds : ∀ batch, (answer batch).seconds = batch.1.seconds)
    {message : BatchResult × Option α → String → String}
    {told : BatchResult × Option α → List (String × Value)} {m : Manager}
    {opening operation : String} {attempted : Int} {details : List (String × Value)}
    {P : BatchResult → Prop} (answers : ∀ {batch w w'},
      run m operation attempted .tolerant details work w = (.ok batch, w') → P (answer batch))
    {w : World σ} (start : safe w.surroundings) :
    ∃ r w', (inform opening [] >>= fun _ =>
      run m operation attempted .tolerant details work >>= fun batch =>
        finish (answer batch) (message batch) (told batch)) w = (.ok r, w') ∧ P r := by
  rw [inform_bind]
  let begun : World σ := { w with journal := w.journal ++
    [{ level := .info, logger := .store, message := opening, details := [] }] }
  obtain ⟨batch, w₁, millis, ran, shown⟩ :=
    run_returns worked m operation attempted details (w := begun) start
  obtain ⟨w', finished⟩ :=
    finish_returns ((seconds batch).symm ▸ shown) (message batch) (told batch) w₁
  exact ⟨answer batch, w', (Action.bind_of_ok ran).trans finished, answers ran⟩

end Batch

namespace Moment

/-- The clock reads a date of the years 1 to 9999. -/
def IsDate (m : Moment) : Prop :=
  earliest ≤ m.clock ∧ m.clock < beyond

instance (m : Moment) : Decidable m.IsDate :=
  inferInstanceAs (Decidable (_ ∧ _))

end Moment

namespace Store

/-- The first clock reading at which a purge can be made: 169 hours after the start of year 1. -/
def firstPurge : Int :=
  Moment.earliest + 169 * 3600 * 1000000

private theorem cutoff_of_room {now : Moment} (date : now.IsDate) (retention : Nat)
    (room : Moment.earliest + retention * 1000 ≤ now.clock) :
    ∃ c, cutoff now retention = .ok c := by
  have bounds : Moment.earliest ≤ now.clock - retention * 1000 ∧
      now.clock - retention * 1000 < Moment.beyond := by
    have := date.2
    omega
  rw [cutoff, Moment.before, if_pos bounds]
  exact ⟨_, rfl⟩

private theorem cutoff_of_early (now : Moment) (retention : Nat)
    (early : now.clock < Moment.earliest + retention * 1000) :
    cutoff now retention = .error .dateOutOfRange := by
  rw [cutoff, Moment.before, if_neg (by omega)]
  rfl

/-- Cutoffs can be worked out from the first purge on, and at no date before. -/
theorem cutoffs_cases {now : Moment} (date : now.IsDate) :
    (firstPurge ≤ now.clock → ∃ minute hourly,
      cutoffs now = .ok [(.minute, minute), (.hourly, hourly)]) ∧
    (now.clock < firstPurge → cutoffs now = .error .dateOutOfRange) := by
  rw [cutoffs_eq]
  refine ⟨fun room => ?_, fun early => ?_⟩
  · rw [firstPurge] at room
    obtain ⟨minute, reached⟩ := cutoff_of_room date 21660000 (by omega)
    obtain ⟨hourly, reached'⟩ := cutoff_of_room date 608400000 (by omega)
    rw [reached, reached']
    exact ⟨minute, hourly, rfl⟩
  · rw [firstPurge] at early
    rw [cutoff_of_early now 608400000 (by omega)]
    rcases lt_or_ge now.clock (Moment.earliest + 21660000 * 1000) with earlier | room
    · rw [cutoff_of_early now 21660000 earlier]
      rfl
    · obtain ⟨minute, reached⟩ := cutoff_of_room date 21660000 room
      rw [reached]
      rfl

/-- Deletions count for the tables that they were made for. -/
theorem deleteExpired_tables [Surroundings σ] {id : Nat}
    {entries removed : List (Granularity × Int)} {w w' : World σ}
    (ran : deleteExpired id entries w = (.ok removed, w')) :
    removed.map (·.1) = entries.map (·.1) := by
  induction entries generalizing w removed with
  | nil =>
    cases ran
    rfl
  | cons entry rest ih =>
    obtain ⟨g, cutoff⟩ := entry
    obtain ⟨count, w₁, _, ran⟩ := Action.bind_eq_ok ran
    obtain ⟨others, w₂, later, ran⟩ := Action.bind_eq_ok ran
    cases ran
    exact congrArg (g :: ·) (ih later)

/-- The result of a purge has a number for each table, also of a purge that failed. -/
theorem removed_tables [Surroundings σ] {m : Manager} {operation : String} {policy : Policy}
    {entries : List (Granularity × Int)} {summary : BatchResult}
    {outcome : Option (List (Granularity × Int))} {w w' : World σ}
    (ran : Batch.run m operation 0 policy [] (fun connection => do
      Connection.cursor connection
      deleteExpired connection entries) w = (.ok (summary, outcome), w')) :
    (outcome.getD (entries.map fun (g, _) => (g, 0))).map (·.1) = entries.map (·.1) := by
  cases error : summary.error with
  | none =>
    obtain ⟨removed, id, w₁, w₂, rfl, _, worked⟩ := Batch.run_of_clean ran error
    obtain ⟨_, w₃, _, worked⟩ := Action.bind_eq_ok worked
    exact deleteExpired_tables worked
  | some text =>
    obtain ⟨_, rfl⟩ := (Batch.run_eq_ok ran).2 (by rw [error]; rfl)
    rw [Option.getD_none, List.map_map]
    rfl

private theorem counted_tables {removed : List (Granularity × Int)}
    (tables : removed.map (·.1) = [.minute, .hourly]) : ∃ minute hourly,
      some removed = some [(.minute, minute), (.hourly, hourly)] ∧
        removedRows removed = minute + hourly := by
  obtain ⟨⟨_, minute⟩, rest, rfl, rfl, others⟩ := List.map_eq_cons_iff.mp tables
  obtain ⟨⟨_, hourly⟩, none, rfl, rfl, ended⟩ := List.map_eq_cons_iff.mp others
  obtain rfl := List.map_eq_nil_iff.mp ended
  exact ⟨minute, hourly, rfl, by simp [removedRows]⟩

variable {safe : σ → Prop} [Surroundings σ] [Surroundings.Orderly safe]

/-- A tolerant purge returns a result at every date from the first purge on, whatever errors strike
the pool and the driver. At an earlier date it raises that there is no such date, before it does
anything else. -/
theorem purge_returns {m : Manager} (enabled : m.isEnabled = true) (now : Option Moment)
    {w : World σ} (start : safe w.surroundings) (date : (purgedAt now w).IsDate) :
    (firstPurge ≤ (purgedAt now w).clock → ∃ r w', purge m now .tolerant w = (.ok r, w') ∧
      ∃ minute hourly,
        r.removed = some [(.minute, minute), (.hourly, hourly)] ∧ r.rows = minute + hourly) ∧
    ((purgedAt now w).clock < firstPurge →
      purge m now .tolerant w = (.error (.problem .dateOutOfRange), w)) := by
  obtain ⟨reached, refused⟩ := cutoffs_cases date
  rw [purge_apply, if_pos enabled]
  change (_ → ∃ r w', purgeAt m (purgedAt now w) .tolerant w = (.ok r, w') ∧ _) ∧
    (_ → purgeAt m (purgedAt now w) .tolerant w = _)
  dsimp only [purgeAt]
  refine ⟨fun room => ?_, fun early => ?_⟩
  · obtain ⟨minute, hourly, found⟩ := reached room
    rw [found]
    have taken : (Action.ofExcept ((Except.ok [(Granularity.minute, minute), (.hourly, hourly)] :
        Except Problem _).mapError Fault.problem) : Action σ (List (Granularity × Int))) w
          = (.ok [(.minute, minute), (.hourly, hourly)], w) := rfl
    rw [Action.bind_of_ok taken]
    refine Batch.announced_returns ?_ ?_ ?_ start
    · exact fun id => .bind (Connection.touch_errs id _) fun _ => deleteExpired_errs id _
    · exact fun _ => rfl
    · intro batch w₀ w₁ ran
      have tables := removed_tables ran
      exact counted_tables tables
  · rw [refused early]
    rfl

end Store

namespace Schedule

/-- The rules of a schedule have errors only, and its stopwatch stands still. -/
def IsOrderly (s : Schedule) : Prop :=
  (∀ rule ∈ s.rules, rule.fault.isError = true) ∧ s.ticks = [] ∧ s.lastTick = 0.0

private theorem useRule_errors {contact : Contact} {rules : List FaultRule}
    (errors : ∀ rule ∈ rules, rule.fault.isError = true) :
    (∀ rule ∈ (useRule contact rules).1, rule.fault.isError = true) ∧
      ∀ rule ∈ (useRule contact rules).2, rule.fault.isError = true := by
  induction rules with
  | nil => exact ⟨nofun, nofun⟩
  | cons rule rest ih =>
    obtain ⟨first, others⟩ := List.forall_mem_cons.mp errors
    rw [useRule]
    split
    · refine ⟨?_, List.forall_mem_cons.mpr ⟨first, others⟩⟩
      rintro rule' ⟨⟩
      exact first
    · exact ⟨(ih others).1, List.forall_mem_cons.mpr ⟨first, (ih others).2⟩⟩

/-- No time passes between two readings of a stopwatch that stands still. -/
theorem IsOrderly.tick_eq {s : Schedule} (orderly : s.IsOrderly) : s.tick = (0.0, s) := by
  obtain ⟨_, none, stopped⟩ := orderly
  rw [tick, none, stopped]

theorem IsOrderly.count {s : Schedule} (orderly : s.IsOrderly) : s.takeCount.2.IsOrderly := by
  unfold takeCount
  split <;> exact orderly

instance : Surroundings.Orderly IsOrderly where
  strike contact s := fun ⟨errors, stopped⟩ => ⟨(useRule_errors errors).2, stopped⟩
  errors contact s := by
    rintro ⟨errors, _⟩ strike struck
    obtain ⟨rule, used, rfl⟩ := Option.map_eq_some_iff.mp struck
    exact (useRule_errors errors).1 rule used
  tick orderly := by
    change (tick _).2.IsOrderly
    rwa [orderly.tick_eq]
  count orderly := orderly.count
  shown orderly orderly' := by
    change ∃ millis, Stopwatch.millis ⟨(tick _).1, (tick _).1⟩ = .ok millis
    rw [orderly.tick_eq, orderly'.tick_eq]
    have still : Stopwatch.millis ⟨0.0, 0.0⟩ = .ok 0 := by decide +kernel
    exact ⟨0, still⟩

end Schedule

/-- A purge whose commit fails returns all the same. -/
theorem Store.purge_returns_commit : ∃ r w' minute hourly,
    Store.purge Calm.manager none .tolerant (Schedule.failing .commit) = (.ok r, w') ∧
      r.error = some "clean_old_reporting_records: boom" ∧
      r.removed = some [(.minute, minute), (.hourly, hourly)] ∧ r.rows = minute + hourly := by
  have told : (Store.purge Calm.manager none .tolerant (Schedule.failing .commit)).1.toOption.map
      (·.error) = some (some "clean_old_reporting_records: boom") := by
    decide +kernel
  have orderly : (Schedule.failing .commit).surroundings.IsOrderly := by
    refine ⟨fun rule only => ?_, rfl, rfl⟩
    rw [List.mem_singleton.mp only]
    rfl
  obtain ⟨r, w', ran, minute, hourly, removed, rows⟩ :=
    (Store.purge_returns (m := Calm.manager) rfl none orderly (by decide)).1 (by decide)
  rw [ran] at told
  exact ⟨r, w', minute, hourly, ran, Option.some.inj told, removed, rows⟩

/-- At the first moment of year 1 a tolerant purge raises an error, though nothing fails. -/
theorem Store.purge_returns_earliest :
    Moment.IsDate { clock := Moment.earliest } ∧
      Fault.isError (.problem .dateOutOfRange) = true ∧
      Store.purge Calm.manager (some { clock := Moment.earliest }) .tolerant Calm.world
        = (.error (.problem .dateOutOfRange), Calm.world) := by
  refine ⟨by decide, rfl, ?_⟩
  rfl

end BucketStore
