import BucketStore.Proofs.Closing
import BucketStore.Proofs.FailureReport

/-!
What a strict operation raises. Two layers look at a fault one after the other: the manager tells
of a pool that is closed or exhausted, and the batch wraps the driver's faults. Together they make
one table: what is raised depends on the fault and on where it was raised, and on nothing that
happens while the connection is given back.
-/

namespace BucketStore

variable {σ α β : Type}

/-! ### Operations as batches -/

namespace Operation

/-- The name that an operation has in its reports. -/
def name : Operation → String
  | .saveUsers _ => "save_users"
  | .insertAverages _ _ => "insert_reporting"
  | .selectPoints _ _ _ => "select_reporting"
  | .purge _ => "clean_old_reporting_records"
  | .executeSql _ => "execute_sql"

/-- What the work of an operation gives. -/
def Outcome : Operation → Type
  | .selectPoints _ _ _ => List Point
  | .purge _ => List (Granularity × Int)
  | .saveUsers _ | .insertAverages _ _ | .executeSql _ => Unit

/-- The entry that an operation logs before it asks for a connection. -/
def opening (op : Operation) : List LogEntry :=
  let entry (message : String) : LogEntry := { level := .info, logger := .store, message }
  match op with
  | .saveUsers _ => [entry "Storing users..."]
  | .insertAverages _ g => [entry ("Storing " ++ g.title ++ " reporting...")]
  | .purge _ => [entry "Removing old reporting records..."]
  | .selectPoints _ _ _ | .executeSql _ => []

variable [Surroundings σ]

/-- What an operation does with its connection before the commit. -/
def work (present : Moment) : (op : Operation) → Nat → Action σ op.Outcome
  | .saveUsers users, connection => do
    let rows ← Action.ofExcept (Store.snapshots users)
    Connection.cursor connection
    Connection.upsertUsers connection rows
  | .insertAverages entries g, connection => do
    let rows ← Action.ofExcept (Row.ofEntries g entries)
    Connection.cursor connection
    Connection.insertRows connection g rows
  | .selectPoints since limit g, connection => do
    Connection.cursor connection
    let rows ← Connection.select connection g since limit
    Action.ofExcept ((Store.pointsOfRows rows).mapError Fault.problem)
  | .purge now, connection => do
    let cutoffs ← Action.ofExcept ((Store.cutoffs (now.getD present)).mapError Fault.problem)
    Connection.cursor connection
    Store.deleteExpired connection cutoffs
  | .executeSql sql, connection => Connection.execute connection sql

/-- The world in which an operation asks for its connection: the opening is logged and the clock
was read. -/
def begun (op : Operation) (w : World σ) : World σ :=
  { w with
    surroundings := (Surroundings.tick w.surroundings).2
    journal := w.journal ++ op.opening }

/-- The operations that run a batch at a given moment: those that have something to write or to
look for, and purges whose cutoffs are instants that can be told. -/
def RunsBatch (present : Moment) : Operation → Prop
  | .saveUsers users => users ≠ []
  | .insertAverages entries _ => entries ≠ []
  | .selectPoints _ limit _ => 0 < limit
  | .purge now => ∃ entries, Store.cutoffs (now.getD present) = .ok entries
  | .executeSql _ => True

/-- An operation that runs a batch is its opening, the batch, and what follows that. -/
theorem perform_strict {m : Manager} (enabled : m.isEnabled = true) {op : Operation} {w : World σ}
    (runs : op.RunsBatch (Surroundings.now w.surroundings)) :
    ∃ attempted details, ∃ finish : BatchResult × Option op.Outcome → Action σ Answer,
      op.perform m .strict w = (Batch.run m op.name attempted .strict details
        (op.work (Surroundings.now w.surroundings)) >>= finish)
          { w with journal := w.journal ++ op.opening } := by
  cases op with
  | saveUsers users =>
    have some : users ≠ [] := runs
    have present : (!m.isEnabled || users.isEmpty) = false := by simp [enabled, some]
    dsimp only [perform, Store.saveUsers]
    rw [present, if_neg Bool.false_ne_true, bind_assoc, Batch.inform_bind, bind_assoc]
    exact ⟨_, _, _, rfl⟩
  | insertAverages entries g =>
    have some : entries ≠ [] := runs
    have present : (!m.isEnabled || entries.isEmpty) = false := by simp [enabled, some]
    dsimp only [perform, Store.insertAverages]
    rw [present, if_neg Bool.false_ne_true, bind_assoc, Batch.inform_bind, bind_assoc]
    exact ⟨_, _, _, rfl⟩
  | selectPoints since limit g =>
    have some : 0 < limit := runs
    have present : ¬((!m.isEnabled || decide (limit ≤ 0)) = true) := by simp [enabled, some]
    dsimp only [perform, Store.selectPoints]
    rw [if_neg present, bind_assoc]
    exact ⟨_, _, _, by rw [opening, List.append_nil]; rfl⟩
  | purge now =>
    obtain ⟨entries, found⟩ := runs
    let present := Surroundings.now w.surroundings
    have taken : (Action.ofExcept ((Store.cutoffs (now.getD present)).mapError Fault.problem) :
        Action σ (List (Granularity × Int))) w = (.ok entries, w) := by
      rw [found]
      rfl
    have worked : (purge now).work present = fun connection => (do
        Connection.cursor connection
        Store.deleteExpired connection entries : Action σ (List (Granularity × Int))) := by
      funext connection
      dsimp only [work]
      rw [found]
      rfl
    have purged := (Store.purge_apply m .strict now w).trans (if_pos enabled)
    rw [perform, Action.bind_apply, purged, ← Action.bind_apply, worked]
    dsimp only [Store.purgeAt]
    rw [bind_assoc, Action.bind_of_ok taken, bind_assoc, Batch.inform_bind, bind_assoc]
    exact ⟨_, _, _, rfl⟩
  | executeSql sql =>
    dsimp only [perform, Store.executeSql]
    rw [bind_assoc]
    exact ⟨_, _, _, by rw [opening, List.append_nil]; rfl⟩

/-- Any other operation has no contact with a connection, so that there is no fault to report. -/
theorem perform_unbatched (m : Manager) (policy : Policy) {op : Operation} {w : World σ}
    (idle : ¬op.RunsBatch (Surroundings.now w.surroundings)) :
    (op.perform m policy w).2.trace = w.trace := by
  cases op with
  | saveUsers users =>
    obtain rfl : users = [] := not_not.mp idle
    simp [perform, Store.saveUsers]
  | insertAverages entries g =>
    obtain rfl : entries = [] := not_not.mp idle
    simp [perform, Store.insertAverages]
  | selectPoints since limit g =>
    have none : limit ≤ 0 := Int.not_lt.mp idle
    simp [perform, Store.selectPoints, none]
  | purge now =>
    rw [perform, Action.bind_pure_apply, Store.purge_apply]
    split
    · cases found : Store.cutoffs (now.getD (Surroundings.now w.surroundings)) with
      | ok entries => exact absurd ⟨entries, found⟩ idle
      | error p =>
        dsimp only [Store.purgeAt]
        rw [found]
        rfl
    · rfl
  | executeSql sql => exact absurd trivial idle

end Operation

/-! ### The table of reports -/

/-- Where a fault is raised: by the pool that is asked for a connection, or by the work on the
connection and its commit. -/
inductive Origin where
  | request
  | batch

/-- What an operation reports for a fault. A pool that is closed or exhausted has a report of its
own when it is asked for a connection; any other fault of the driver, and these two as well when the
work or the commit raises them, is wrapped under the name of the operation; and what does not come
from the driver is reported as it is. -/
def Operation.report (op : Operation) (settings : DatabaseSettings) : Origin → Fault → Fault
  | .request, .driver .poolClosed text =>
    .store .connectionUnavailable "Connection pool is closed." (some (.driver .poolClosed text))
  | .request, .driver .poolTimeout text =>
    .store .poolExhausted
      ("No connection available after " ++ conciseText settings.timeout ++ "s (pool size "
        ++ intText settings.poolSize ++ ").") (some (.driver .poolTimeout text))
  | _, .driver kind text =>
    .store .batchFailed (op.name ++ ": " ++ text) (some (.driver kind text))
  | _, fault => fault

/-- The manager's answer to a fault of the pool is not wrapped again by the batch. -/
theorem Operation.reported_refusal (op : Operation) (settings : DatabaseSettings) (fault : Fault) :
    Batch.reported op.name (Manager.refusal settings fault)
      = op.report settings .request fault := by
  cases fault with
  | driver kind text => cases kind <;> rfl
  | _ => rfl

private theorem Operation.reported_eq (op : Operation) (settings : DatabaseSettings)
    (fault : Fault) :
    Batch.reported op.name fault = op.report settings .batch fault := by
  cases fault <;> rfl

/-- A run ends in a fault. If that is an error it is logged before with the time that it took, and
where the clock shows no such time the run ends in this. -/
def Raises [Surroundings σ] (started : σ) (outcome : Except Fault β) (fault : Fault) : Prop :=
  outcome = .error fault ∨
    fault.isError = true ∧ ∃ p, outcome = .error (.problem p) ∧ Surroundings.Irregular started p

/-! ### How a connection is given back -/

/-- The connection is given back without a fault, and a rollback before that fails by the driver at
most. -/
def EndsWell (touches : List Touch) : Prop :=
  ∀ t ∈ touches, (t.contact = .returnConnection → t.fault = none) ∧
    (t.contact = .rollback → ∀ fault ∈ t.fault, fault.isDriver = true)

theorem EndsWell.right {first last : List Touch} (well : EndsWell (first ++ last)) :
    EndsWell last :=
  fun t member => well t (List.mem_append_right _ member)

theorem EndsWell.left {first last : List Touch} (well : EndsWell (first ++ last)) :
    EndsWell first :=
  fun t member => well t (List.mem_append_left _ member)

/-- Contacts are added to the trace and never taken away. -/
def Grows (w w' : World σ) : Prop :=
  w.trace <+: w'.trace

instance : IsPreorder (World σ) Grows where
  refl _ := List.prefix_rfl
  trans _ _ _ := List.IsPrefix.trans

private theorem Grows.of_uses {id : Nat} {a : Action σ α} (uses : Action.Within (Uses id) a) :
    Action.Within Grows a := by
  intro w
  obtain ⟨touches, traced, _⟩ := (uses w).trace
  exact ⟨touches, traced.symm⟩

variable [Surroundings σ]

private theorem Operation.work_uses (op : Operation) (present : Moment) (id : Nat) :
    Action.Within (Uses id) (op.work present id : Action σ op.Outcome) := by
  cases op with
  | saveUsers users => exact (Store.saveUsers_prepares id present).uses
  | insertAverages entries g => exact (Store.insertAverages_prepares g id present).uses
  | selectPoints since limit g => exact (Store.selectPoints_prepares id since limit g present).uses
  | purge now =>
    refine .bind (.ofExcept _) fun cutoffs => ?_
    exact ((Stages.cursor id).after fun _ => Store.deleteExpired_stages id cutoffs).uses
  | executeSql sql => exact (Store.executeSql_prepares id sql present).uses

private theorem Operation.block_grows (op : Operation) (present : Moment) (id : Nat) :
    Action.Within Grows (Batch.block (op.work present) id : Action σ op.Outcome) := by
  refine .bind (Grows.of_uses (op.work_uses present id)) fun _ => .bind (fun w => ?_) fun _ =>
    .pure _
  obtain ⟨_, _, traced, _⟩ := Connection.commit_spec id w
  exact ⟨_, traced.symm⟩

/-- A rollback that fails by the driver is not raised. -/
theorem Connection.rollbackQuietly_ended (id : Nat) (w : World σ) :
    ∃ undo, (rollbackQuietly id w).2.trace = w.trace ++ undo ∧
      (EndsWell undo → (rollbackQuietly id w).1 = .ok ()) := by
  cases closed : hasClosed id w with
  | true =>
    have ran : rollbackQuietly id w = (.ok (), w) := by
      simp [rollbackQuietly, Action.bind_apply, closed]
    exact ⟨[], by rw [ran, List.append_nil], fun _ => by rw [ran]⟩
  | false =>
    let emptied := (modify id (fun c => { c with stage := [] })
      (Action.record (.rollback id) w).2).2
    obtain ⟨fault, touched, ended⟩ := touch_spec id .rollback emptied
    have rolled : rollback id w = touch id .rollback emptied := rfl
    rw [← rolled] at touched ended
    have traced := touched.trace
    rcases ran : rollback id w with ⟨result, w₁⟩
    rw [ran] at traced ended
    cases fault with
    | none =>
      cases ended
      have quiet : rollbackQuietly id w = (.ok (), w₁) := by
        simp [rollbackQuietly, Action.bind_apply, closed, ran]
      exact ⟨_, by rw [quiet]; exact traced, fun _ => by rw [quiet]⟩
    | some failure =>
      cases ended
      cases driver : failure.isDriver with
      | true =>
        have quiet : (rollbackQuietly id w).1 = .ok () ∧
            (rollbackQuietly id w).2.trace = w₁.trace := by
          simp [rollbackQuietly, Action.bind_apply, closed, ran, driver, Action.log]
        exact ⟨_, quiet.2.trans traced, fun _ => quiet.1⟩
      | false =>
        have loud : rollbackQuietly id w = (.error failure, w₁) := by
          simp [rollbackQuietly, Action.bind_apply, closed, ran, driver]
        refine ⟨_, by rw [loud]; exact traced, fun well => ?_⟩
        have named := (well _ List.mem_cons_self).2 rfl failure rfl
        rw [driver] at named
        cases named

private theorem Manager.leave_ended (pool : Pool.Id) (settings : DatabaseSettings) (id : Nat)
    (w : World σ) :
    ∃ last, ((enabled pool settings).leave id true w).2.trace = w.trace ++ last ∧
      (EndsWell last → ((enabled pool settings).leave id true w).1 = .ok ()) := by
  obtain ⟨undo, traced, quiet⟩ := Connection.rollbackQuietly_ended id w
  rcases rolled : Connection.rollbackQuietly id w with ⟨result, w₁⟩
  rw [rolled] at traced quiet
  obtain ⟨fault, touched, ended⟩ := Pool.giveBack_spec pool id w₁
  rcases given : Pool.giveBack pool id w₁ with ⟨outcome, w₂⟩
  rw [given] at touched ended
  have returned := touched.trace
  have left : ((enabled pool settings).leave id true w).2 = w₂ := by
    rw [leave, Action.ensuring_snd, if_pos rfl, rolled, given]
  refine ⟨undo ++ [⟨.returnConnection, some id, fault, Connection.hasClosed id w₂⟩], ?_, ?_⟩
  · rw [left, returned, ← List.append_assoc, ← traced]
  · intro well
    obtain rfl : fault = none := (well.right _ List.mem_cons_self).1 rfl
    cases ended
    simp only [leave, Action.ensuring, if_pos, rolled, given, quiet well.left]

namespace Batch

variable {work : Nat → Action σ α} {w taken : World σ} {fault : Fault}

/-- A lease whose block fails ends in the block's fault, if the connection is given back well. -/
theorem lease_broken {pool : Pool.Id} {settings : DatabaseSettings} {id : Nat}
    (grows : Action.Within Grows (block work id))
    (handed : Pool.take pool settings.timeout w = (.ok id, taken))
    (broke : (block work id taken).1 = .error fault) :
    let lease := (Manager.enabled pool settings).withConnection (block work) w
    ∃ failure touches, lease.1 = .error failure ∧ lease.2.trace = w.trace ++ touches ∧
      (EndsWell touches → failure = fault) := by
  obtain ⟨asked, request, _⟩ := Pool.take_cases pool settings.timeout w
  have asking := request.trace
  rw [handed] at asking
  obtain ⟨during, worked⟩ := grows taken
  rcases used : block work id taken with ⟨result, w₂⟩
  rw [used] at broke worked
  cases broke
  obtain ⟨last, left, well⟩ := Manager.leave_ended pool settings id w₂
  have traced : ((Manager.enabled pool settings).leave id true w₂).2.trace
      = w.trace ++ (asked ++ during ++ last) := by
    rw [left, ← worked, asking, List.append_assoc, List.append_assoc, List.append_assoc]
  have acquired := Manager.acquire_of_ok handed
  have leased := Manager.withConnection_used acquired used
  rw [show (!(Except.error fault : Except Fault α).isOk) = true from rfl] at leased
  dsimp only
  rw [leased]
  rcases ended : ((Manager.enabled pool settings).leave id true w₂).1 with failure | done
  · refine ⟨failure, _, rfl, traced, fun ends => ?_⟩
    rw [well ends.right] at ended
    cases ended
  · exact ⟨fault, _, rfl, traced, fun _ => rfl⟩

omit [Surroundings σ] in
/-- A strict batch that has failed logs what it reports, and raises it. -/
theorem conclude_raises (operation : String) (attempted : Int) (details : List (String × Value))
    (finish : BatchResult × Option α → Action σ β) (fault : Fault) (watch : Stopwatch)
    (w : World σ) :
    ∃ failure entries,
      (conclude operation attempted .strict details (.error fault) watch >>= finish) w
        = (.error failure, { w with journal := w.journal ++ entries }) ∧
      (failure = reported operation fault ∨ (reported operation fault).isError = true ∧
        ∃ p, failure = .problem p ∧ watch.millis = .error p) := by
  cases caught : fault.isError with
  | false =>
    have unchanged : reported operation fault = fault := by
      cases fault with
      | interrupt text => rfl
      | _ => cases caught
    refine ⟨fault, [], ?_, .inl unchanged.symm⟩
    rw [conclude_fails (.inl ⟨caught, rfl⟩), List.append_nil]
  | true =>
    have still : (reported operation fault).isError = true := by
      cases fault with
      | interrupt text => cases caught
      | _ => rfl
    cases shown : watch.millis with
    | error p =>
      refine ⟨.problem p, [], ?_, .inr ⟨still, p, rfl, rfl⟩⟩
      rw [conclude_fails (.inr ⟨caught, p, shown, rfl⟩), List.append_nil]
    | ok millis =>
      obtain ⟨entry, logged⟩ : ∃ entry, logRaised operation watch (reported operation fault) w
          = (.ok (), { w with journal := w.journal ++ [entry] }) := ⟨_, logTimed_of_ok shown _ w⟩
      refine ⟨reported operation fault, [entry], Action.bind_of_error ?_, .inl rfl⟩
      rw [conclude_strict caught, Action.bind_of_ok logged]
      rfl

/-- A strict batch whose lease fails raises what it reports for the fault, and does no more. -/
theorem run_raises (m : Manager) (operation : String) (attempted : Int)
    (details : List (String × Value)) (finish : BatchResult × Option α → Action σ β) (w : World σ)
    (failed : (m.withConnection (block work)
      { w with surroundings := (Surroundings.tick w.surroundings).2 }).1 = .error fault) :
    let ran := (run m operation attempted .strict details work >>= finish) w
    Raises w.surroundings ran.1 (reported operation fault) ∧
      Idle (m.withConnection (block work)
        { w with surroundings := (Surroundings.tick w.surroundings).2 }).2 ran.2 := by
  let begun := Surroundings.tick w.surroundings
  let leased := m.withConnection (block work) { w with surroundings := begun.2 }
  let ended := Surroundings.tick leased.2.surroundings
  have ran : (run m operation attempted .strict details work >>= finish) w
      = (conclude operation attempted .strict details leased.1 ⟨begun.1, ended.1⟩ >>= finish)
        { leased.2 with surroundings := ended.2 } := rfl
  obtain ⟨failure, entries, concluded, raised⟩ := conclude_raises operation attempted details finish
    fault ⟨begun.1, ended.1⟩ { leased.2 with surroundings := ended.2 }
  dsimp only
  rw [ran, show leased.1 = .error fault from failed, concluded]
  refine ⟨?_, trans_of Idle (.of_clock _ ended.2) (Remarks.idle ⟨entries, rfl⟩)⟩
  obtain rfl | ⟨caught, p, rfl, shown⟩ := raised
  · exact .inl rfl
  · exact .inr ⟨caught, p, rfl, _, shown⟩

end Batch

/-- Failures are classified by the fault alone. For every strict operation of an enabled store that
runs a batch: if the pool refuses a connection with a fault, then the operation raises what the
table says of a request; and if a connection is handed out and the work or the commit fails, it
raises what the table says of a batch, whether or not the connection was closed by then and whether
or not a rollback failed by the driver, as long as the connection could be given back. -/
theorem Operation.perform_classified (pool : Pool.Id) (settings : DatabaseSettings)
    (op : Operation) (w : World σ) (runs : op.RunsBatch (Surroundings.now w.surroundings)) :
    let ran := op.perform (.enabled pool settings) .strict w
    (∀ fault, (Pool.take pool settings.timeout (op.begun w)).1 = .error fault →
      Raises w.surroundings ran.1 (op.report settings .request fault)) ∧
    ∀ id taken fault touches,
      Pool.take pool settings.timeout (op.begun w) = (.ok id, taken) →
      (Batch.block (op.work (Surroundings.now w.surroundings)) id taken).1 = .error fault →
      ran.2.trace = w.trace ++ touches → EndsWell touches →
        Raises w.surroundings ran.1 (op.report settings .batch fault) := by
  obtain ⟨attempted, details, finish, performed⟩ :=
    perform_strict (m := .enabled pool settings) rfl runs
  dsimp only
  rw [performed]
  refine ⟨fun fault refused => ?_, fun id taken fault touches handed broke traced well => ?_⟩
  · have failed : (Manager.enabled pool settings).withConnection
        (Batch.block (op.work (Surroundings.now w.surroundings))) (op.begun w)
          = (.error (Manager.refusal settings fault), _) :=
      Manager.withConnection_refused (Manager.acquire_of_error (Prod.ext refused rfl))
    rw [← reported_refusal]
    exact (Batch.run_raises _ op.name attempted details finish
      { w with journal := w.journal ++ op.opening } (congrArg Prod.fst failed)).1
  · obtain ⟨failure, touches', failed, traced', same⟩ :=
      Batch.lease_broken (op.block_grows _ id) handed broke
    obtain ⟨raises, kept⟩ := Batch.run_raises _ op.name attempted details finish
      { w with journal := w.journal ++ op.opening } failed
    have shared : w.trace ++ touches' = w.trace ++ touches :=
      traced'.symm.trans (kept.trace.symm.trans traced)
    obtain rfl := List.append_cancel_left shared
    rw [same well, reported_eq] at raises
    exact raises

/-- A world in which a commit times out and the rollback after it finds the connection gone. -/
def Schedule.late : World Schedule :=
  { surroundings :=
      { rules := [{ kind := .commit, fault := .driver .poolTimeout "late" },
          { kind := .rollback, fault := .driver .operational "gone" }]
        now := { clock := 0 } }
    pools := [{ size := 1, testQuery := "", closed := false }] }

/-- A timeout that a commit raises is wrapped, and the rollback that fails does not hide it. -/
theorem Operation.perform_classified_late :
    Raises Schedule.late.surroundings
      (Schedule.saving.perform Calm.manager .strict Schedule.late).1
      (.store .batchFailed "save_users: late" (some (.driver .poolTimeout "late"))) ∧
    (Schedule.saving.perform Calm.manager .strict Schedule.late).2.trace.map
        (fun t => (t.contact.kind, t.fault.isSome))
      = [(.takeConnection, false), (.cursor, false), (.executeMany, false), (.row, false),
        (.commit, true), (.rollback, true), (.returnConnection, false)] := by
  refine ⟨?_, by decide +kernel⟩
  obtain ⟨settings, manager⟩ : ∃ settings, Calm.manager = .enabled 0 settings := ⟨_, rfl⟩
  let begun := Schedule.saving.begun Schedule.late
  have something : Schedule.saving.RunsBatch (Surroundings.now Schedule.late.surroundings) := nofun
  have handed : Pool.take 0 settings.timeout begun
      = (.ok 0, (Pool.take 0 settings.timeout begun).2) := Prod.ext rfl rfl
  have well : EndsWell (Schedule.saving.perform Calm.manager .strict Schedule.late).2.trace := by
    unfold EndsWell
    decide +kernel
  rw [manager] at well ⊢
  exact (perform_classified 0 settings Schedule.saving Schedule.late something).2 0 _
    (.driver .poolTimeout "late") _ handed rfl (List.nil_append _).symm well

end BucketStore
