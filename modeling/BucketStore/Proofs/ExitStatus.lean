import BucketStore.CommandLine.Administration
import BucketStore.Main
import BucketStore.Proofs.Classification
import BucketStore.Proofs.Speech

/-!
The exit status of a program that executes a statement. It is zero only after the statement was
executed and committed, and whatever keeps the statement from that leaves the contents as they were
and gives another status.
-/

namespace BucketStore

variable {σ α β : Type}

/-! ### Beside connections -/

/-- Neither a connection nor the committed contents had a part in what happened. Pools may have
been made, opened and closed. -/
structure Beside (w w' : World σ) : Prop where
  database : w'.database = w.database
  trace : w'.trace = w.trace

namespace Beside

instance : IsPreorder (World σ) Beside where
  refl _ := ⟨rfl, rfl⟩
  trans _ _ _ first last :=
    ⟨last.database.trans first.database, last.trace.trans first.trace⟩

theorem of_idle {w w' : World σ} (idle : Idle w w') : Beside w w' :=
  ⟨idle.database, idle.trace⟩

theorem of_spoken {w w' : World σ} (spoken : Spoken w w') : Beside w w' := by
  obtain ⟨_, _, _, rfl⟩ := spoken
  exact ⟨rfl, rfl⟩

theorem update {f : World σ → World σ} (database : ∀ w, (f w).database = w.database)
    (trace : ∀ w, (f w).trace = w.trace) : Action.Within Beside (Action.update f) :=
  fun w => ⟨database w, trace w⟩

theorem record (e : Event) : Action.Within Beside (Action.record e : Action σ Unit) :=
  update (fun _ => rfl) fun _ => rfl

end Beside

theorem Action.Within.beside {a : Action σ α} (spoken : Within Spoken a) : Within Beside a :=
  fun w => .of_spoken (spoken w)

namespace Pool

theorem modify_beside (id : Id) (f : PoolState → PoolState) :
    Action.Within Beside (modify id f : Action σ Unit) :=
  Beside.update (fun _ => rfl) fun _ => rfl

theorem create_beside (conninfo : String) (s : DatabaseSettings) :
    Action.Within Beside (create conninfo s : Action σ Id) :=
  .bind (Beside.record _) fun _ => .bind .get fun _ =>
    .bind (Beside.update (fun _ => rfl) fun _ => rfl) fun _ => .pure _

variable [Surroundings σ]

theorem touch_beside (contact : Contact) :
    Action.Within Beside (touch contact : Action σ Unit) := by
  intro w
  obtain ⟨s, passed | ⟨fault, failed⟩⟩ := touch_apply contact w
  · rw [passed]
    exact ⟨rfl, rfl⟩
  · rw [failed]
    exact ⟨rfl, rfl⟩

theorem close_beside (id : Id) : Action.Within Beside (close id : Action σ Unit) :=
  .bind (Beside.record _) fun _ => .bind (Beside.update (fun _ => rfl) fun _ => rfl) fun _ =>
    .bind (modify_beside id _) fun _ => touch_beside _

theorem open_beside (id : Id) (timeout : Float) :
    Action.Within Beside (open_ id timeout : Action σ Unit) :=
  .bind (Beside.record _) fun _ => .bind (touch_beside _) fun _ => modify_beside id _

end Pool

namespace Manager

variable [Surroundings σ]

theorem openPoolOnce_beside (s : DatabaseSettings) :
    Action.Within Beside (openPoolOnce s : Action σ Pool.Id) := by
  refine .bind (.ofExcept _) fun conninfo => .bind (Pool.create_beside conninfo s) fun pool =>
    .bind (.attempt (Pool.open_beside pool _)) fun result => ?_
  cases result with
  | ok opened => exact .pure _
  | error fault => exact .bind (Pool.close_beside pool) fun _ => .throw _

theorem openPool_beside (s : DatabaseSettings) (retry : Retry) (made left : Nat) :
    Action.Within Beside (openPool s retry made left : Action σ Pool.Id) := by
  induction left generalizing made with
  | zero => exact openPoolOnce_beside s
  | succ left ih =>
    refine .bind (.attempt (openPoolOnce_beside s)) fun result => ?_
    cases result with
    | ok pool => exact .pure _
    | error fault =>
      dsimp only
      split
      · refine .bind (.ofExcept _) fun pause => .bind (.ofExcept _) fun spent => ?_
        have again : Action.Within Beside (Action.record (.sleep pause) >>= fun _ =>
            openPool s retry (made + 1) left : Action σ Pool.Id) :=
          .bind (Beside.record _) fun _ => ih _
        split
        · exact .bind (.throw _) fun _ => again
        · exact again
      · exact .throw _

theorem make_beside (source : Option (List (String × Value))) (retry : Retry) :
    Action.Within Beside (make source retry : Action σ Manager) := by
  have logs (entry : LogEntry) : Action.Within Beside (Action.log entry : Action σ Unit) :=
    (Spoken.log entry).beside
  refine .bind (readSource_spoken source).beside fun settings => ?_
  cases settings with
  | none => exact .pure _
  | some settings =>
    refine .bind (logs _) fun _ => .bind (logs _) fun _ => .bind (logs _) fun _ =>
      .bind (.attempt (openPool_beside settings retry 0 _)) fun result => ?_
    cases result with
    | ok pool => exact .bind (logs _) fun _ => .pure _
    | error fault =>
      dsimp only
      split
      · exact .bind (logs _) fun _ => .pure _
      · exact .throw _

theorem close_beside (m : Manager) : Action.Within Beside (m.close : Action σ Unit) := by
  cases m with
  | disabled => exact .pure _
  | enabled pool settings =>
    refine .bind .get fun w => ?_
    dsimp only
    split
    · exact .pure _
    · exact .bind (Pool.modify_beside pool _) fun _ => .bind (Pool.close_beside pool) fun _ =>
        (Spoken.log _).beside

end Manager

namespace CommandLine

theorem Host.connect_beside [Surroundings σ] (host : Host) :
    Action.Within Beside (host.connect : Action σ (Settings × Manager)) :=
  .bind (.ofExcept _) fun _ => .bind (Beside.record _) fun _ => .bind (.ofExcept _) fun _ =>
    .bind (.bind (Manager.readProperties_spoken _ _).beside fun _ => Manager.make_beside _ _)
      fun _ => .pure _

end CommandLine

/-! ### A statement on a connection -/

/-- A statement was executed on one connection and committed there, each once and without a fault:
the contacts are a request, which may have tried the connection out, then these two, and then the
return of the connection. -/
def Executed (sql : String) (w w' : World σ) : Prop :=
  ∃ id asked ran committed returned, Request id true asked ∧
    w'.trace = w.trace ++ asked ++ [⟨.execute sql, some id, none, ran⟩,
      ⟨.commit, some id, none, committed⟩, .givenBack id none returned] ∧
    w'.database = w.database.apply (.run sql)

theorem Executed.around {sql : String} {w w₁ w₂ w₃ : World σ} (executed : Executed sql w₁ w₂)
    (before : Beside w w₁) (after : Beside w₂ w₃) : Executed sql w w₃ := by
  unfold Executed at *
  rwa [after.trace, after.database, ← before.trace, ← before.database]

variable [Surroundings σ]

/-- A statement is stopped: no connection is had for it, or it fails there, or its commit does. -/
inductive Stopped (m : Manager) (sql : String) (w : World σ) : Prop where
  | unacquired {fault : Fault} {w₁ : World σ} (refused : m.acquire w = (.error fault, w₁))
  | unexecuted {id : Nat} {fault : Fault} {w₁ w₂ : World σ} (acquired : m.acquire w = (.ok id, w₁))
    (failed : Connection.execute id sql w₁ = (.error fault, w₂))
  | uncommitted {id : Nat} {fault : Fault} {w₁ w₂ w₃ : World σ}
    (acquired : m.acquire w = (.ok id, w₁)) (ran : Connection.execute id sql w₁ = (.ok (), w₂))
    (failed : Connection.commit id w₂ = (.error fault, w₃))

theorem Connection.execute_eq_ok {id : Nat} {sql : String} {w w' : World σ}
    (ran : execute id sql w = (.ok (), w')) :
    ∃ closed, w'.trace = w.trace ++ [⟨.execute sql, some id, none, closed⟩] := by
  obtain ⟨_, w₁, entered, ran⟩ := Action.bind_eq_ok ran
  obtain ⟨fault, met, ended⟩ := touch_spec id (.execute sql) (Action.record (.execute sql none) w).2
  have same : enter id sql none w
      = touch id (.execute sql) (Action.record (.execute sql none) w).2 := rfl
  rw [← same, entered] at met ended
  have beside : Beside w₁ (runFree id sql w₁).2 :=
    runFree_within sql (Beside.update (fun _ => rfl) fun _ => rfl) w₁
  rw [ran] at beside
  cases fault with
  | some fault => cases ended
  | none => exact ⟨_, beside.trace.trans met.of_record.trace⟩

theorem Connection.commit_eq_ok {id : Nat} {w w' : World σ} (ran : commit id w = (.ok (), w')) :
    ∃ closed, w'.trace = w.trace ++ [⟨.commit, some id, none, closed⟩] ∧
      w'.database = w.database.applyAll (stageOf id w) := by
  obtain ⟨fault, _, traced, ended⟩ := commit_spec id w
  rw [ran] at traced ended
  cases fault with
  | some fault => cases ended.1
  | none => exact ⟨_, traced, ended.2⟩

namespace Batch

/-- The batch of a single statement. -/
abbrev statement (sql : String) : Nat → Action σ Unit :=
  block fun id => Connection.execute id sql

/-- A statement that was executed and committed on a fresh connection is all that has changed the
contents. -/
theorem statement_eq_ok {id : Nat} {sql : String} {w w' : World σ} {x : Unit}
    (fresh : Connection.Waiting id [] w) (ended : statement sql id w = (.ok x, w')) :
    ∃ ran committed, w'.trace = w.trace ++ [⟨.execute sql, some id, none, ran⟩,
        ⟨.commit, some id, none, committed⟩] ∧
      w'.database = w.database.apply (.run sql) := by
  obtain ⟨_, w₁, executed, ended⟩ := Action.bind_eq_ok ended
  obtain ⟨_, _, committed, ended⟩ := Action.bind_eq_ok ended
  cases ended
  have kept := (Stages.execute id sql).uses w
  rw [show Connection.execute id sql w = _ from executed] at kept
  have staged := ((Stages.execute id sql).staged fresh executed).stageOf
  obtain ⟨ran, traced⟩ := Connection.execute_eq_ok executed
  obtain ⟨closed, traced', changed⟩ := Connection.commit_eq_ok committed
  rw [staged, kept.database] at changed
  rw [traced, List.append_assoc] at traced'
  exact ⟨ran, closed, traced', changed⟩

end Batch

namespace Manager

variable {m : Manager} {sql : String} {w w' : World σ}

private theorem leave_database (m : Manager) (id : Nat) (faulted : Bool) (w : World σ) :
    (m.leave id faulted w).2.database = w.database := by
  cases m with
  | disabled => rfl
  | enabled pool settings => exact (leave_spec pool settings id faulted w).database

/-- A lease that comes to its end has executed its statement and committed it. -/
theorem lease_executed {x : Unit}
    (ran : m.withConnection (Batch.statement sql) w = (.ok x, w')) : Executed sql w w' := by
  obtain ⟨touches, asked, outcome⟩ := m.acquire_cases w
  obtain ⟨id, w₁, w₂, acquired, used⟩ := withConnection_eq_ok ran
  rw [acquired] at asked outcome
  obtain ⟨_, refused, _⟩ | ⟨handed, request, _, pool, settings, rfl, granted⟩ := outcome
  · cases refused
  obtain rfl : id = w.connections.length := Except.ok.inj handed
  obtain ⟨executed, committed, traced, changed⟩ := Batch.statement_eq_ok granted.fresh used
  have leased := withConnection_used acquired used
  rw [ran] at leased
  obtain ⟨fault, closed, traced', given⟩ :=
    leave_unfaulted pool settings w.connections.length w₂
  obtain ⟨_, left, _⟩ := Result.bind_eq_ok (congrArg Prod.fst leased).symm
  obtain rfl : w' = _ := congrArg Prod.snd leased
  rw [show (!(Except.ok x : Except Fault Unit).isOk) = false from rfl] at left ⊢
  rw [left] at given
  obtain rfl : fault = none := Option.isNone_iff_eq_none.mp given.symm
  refine ⟨_, touches, executed, committed, closed, request, ?_, ?_⟩
  · rw [traced', traced, asked.trace, List.append_assoc _ _ [_]]
    rfl
  · rw [leave_database, changed, asked.database]

/-- A lease whose use fails does no more to the contents. -/
theorem lease_failed {use : Nat → Action σ α} {id : Nat} {fault : Fault} {w₁ w₂ : World σ}
    (acquired : m.acquire w = (.ok id, w₁)) (failed : use id w₁ = (.error fault, w₂)) :
    ∃ failure, (m.withConnection use w).1 = .error failure ∧
      (m.withConnection use w).2.database = w₂.database := by
  rw [withConnection_used acquired failed]
  cases (m.leave id (!(Except.error fault : Except Fault α).isOk) w₂).1 with
  | error failure => exact ⟨failure, rfl, m.leave_database id _ w₂⟩
  | ok left => exact ⟨fault, rfl, m.leave_database id _ w₂⟩

/-- A statement that is stopped changes nothing, and its lease fails. -/
theorem lease_stopped (stopped : Stopped m sql w) :
    ∃ failure, (m.withConnection (Batch.statement sql) w).1 = .error failure ∧
      (m.withConnection (Batch.statement sql) w).2.database = w.database := by
  have asked := m.acquire_database w
  cases stopped with
  | unacquired refused =>
    rw [refused] at asked
    rw [withConnection_refused refused]
    exact ⟨_, rfl, asked⟩
  | @unexecuted id fault w₁ w₂ acquired failed =>
    have kept := ((Stages.execute id sql).uses w₁).database
    rw [acquired] at asked
    rw [failed] at kept
    obtain ⟨failure, raised, database⟩ := lease_failed acquired
      (show Batch.statement sql id w₁ = (.error fault, w₂) from Action.bind_of_error failed)
    exact ⟨failure, raised, database.trans (kept.trans asked)⟩
  | @uncommitted id fault w₁ w₂ w₃ acquired ran failed =>
    have kept := ((Stages.execute id sql).uses w₁).database
    obtain ⟨met, _, _, ended⟩ := Connection.commit_spec id w₂
    rw [acquired] at asked
    rw [ran] at kept
    rw [failed] at ended
    obtain ⟨failure, raised, database⟩ := lease_failed acquired
      (show Batch.statement sql id w₁ = (.error fault, w₃) from
        (Action.bind_of_ok ran).trans (Action.bind_of_error failed))
    refine ⟨failure, raised, database.trans (Eq.trans ?_ (kept.trans asked))⟩
    cases met with
    | none => cases ended.1
    | some met => exact ended.2

end Manager

namespace Store

variable {m : Manager} {sql : String} {w w' : World σ}

/-- A strict statement whose lease fails is raised, and does no more than its lease. -/
theorem executeSql_of_failed {fault : Fault} {w₁ : World σ} (failed : m.withConnection
      (Batch.statement sql) { w with surroundings := (Surroundings.tick w.surroundings).2 }
        = (.error fault, w₁)) :
    ∃ failure, (executeSql m sql .strict w).1 = .error failure ∧
      Idle w₁ (executeSql m sql .strict w).2 := by
  obtain ⟨raises, idle⟩ := Batch.run_raises m "execute_sql" 1 []
    (fun batch => pure batch.1) w (congrArg Prod.fst failed)
  rw [failed] at idle
  obtain raised | ⟨_, p, raised, _⟩ := raises
  · exact ⟨_, raised, idle⟩
  · exact ⟨_, raised, idle⟩

theorem executeSql_eq_ok {r : BatchResult} (ran : executeSql m sql .strict w = (.ok r, w')) :
    ∃ x w₁, m.withConnection (Batch.statement sql)
        { w with surroundings := (Surroundings.tick w.surroundings).2 } = (.ok x, w₁) ∧
      Idle w₁ w' := by
  rcases leased : m.withConnection (Batch.statement sql)
    { w with surroundings := (Surroundings.tick w.surroundings).2 } with ⟨fault | x, w₁⟩
  · obtain ⟨failure, raised, _⟩ := executeSql_of_failed leased
    rw [ran] at raised
    cases raised
  · refine ⟨x, w₁, rfl, ?_⟩
    rw [executeSql, Action.bind_pure_apply, Batch.run_apply] at ran
    dsimp only at ran
    rw [leased] at ran
    cases ran
    exact .of_clock w₁ _

end Store

namespace CommandLine

variable {host : Host} {m : Manager} {sql : String} {settings : Settings} {w w' w₁ : World σ}

private theorem executeStatement_eq_some {r : BatchResult}
    (ran : executeStatement host m sql w = (.ok (some r), w')) :
    Store.executeSql m sql .strict w = (.ok r, w') := by
  rw [executeStatement, Action.attempt_bind] at ran
  rcases executed : Store.executeSql m sql .strict w with ⟨fault | result, w₁⟩
  · rw [executed] at ran
    dsimp only at ran
    split at ran
    · obtain ⟨_, _, _, ran⟩ := Action.bind_eq_ok ran
      cases cause : fault.cause? with
      | none =>
        rw [cause] at ran
        cases ran
      | some cause =>
        rw [cause] at ran
        obtain ⟨_, _, _, ran⟩ := Action.bind_eq_ok ran
        cases ran
    · cases ran
  · rw [executed] at ran
    cases ran
    rfl

/-- What keeps a command from executing its statement: it cannot connect, storage is disabled, or
the statement is stopped. -/
inductive Hindered (host : Host) (sql : String) (w : World σ) : Prop where
  | unconnected {fault : Fault} {w₁ : World σ} (failed : host.connect w = (.error fault, w₁))
  | disabled {settings : Settings} {w₁ : World σ}
    (connected : host.connect w = (.ok (settings, .disabled), w₁))
  | stopped {settings : Settings} {m : Manager} {w₁ : World σ}
    (connected : host.connect w = (.ok (settings, m), w₁))
    (stopped : Stopped m sql { w₁ with surroundings := (Surroundings.tick w₁.surroundings).2 })

/-- How a command ends whose statement has a result, or none. -/
def Command.finish (host : Host) : Option BatchResult → Action σ Nat
  | some r => do
    printBatch host r
    return 0
  | none => return 1

omit [Surroundings σ] in
theorem Command.finish_beside (host : Host) (result : Option BatchResult) :
    Action.Within Beside (finish host result : Action σ Nat) := by
  cases result with
  | none => exact .pure _
  | some r => exact .bind (printReport_spoken host _).beside fun _ => .pure _

private theorem Command.perform_execute (connected : host.connect w = (.ok (settings, m), w₁)) :
    (Command.execute sql).perform host w
      = (Action.ensuring (executeStatement host m sql) m.close >>= finish host) w₁ := by
  have finished : finish host = fun result => (match result with
      | some r => do
        printBatch host r
        return 0
      | none => return 1 : Action σ Nat) := by
    funext result
    cases result <;> rfl
  rw [perform, Action.bind_of_ok connected]
  exact congrArg (fun last => (Action.ensuring (executeStatement host m sql) m.close >>= last) w₁)
    finished.symm

/-- A command that ends with the code zero has connected and executed its statement. -/
theorem Command.perform_eq_zero (ran : (Command.execute sql).perform host w = (.ok 0, w')) :
    ∃ settings m w₁ r w₂, host.connect w = (.ok (settings, m), w₁) ∧
      Store.executeSql m sql .strict w₁ = (.ok r, w₂) ∧ Beside w₂ w' := by
  obtain ⟨⟨settings, m⟩, w₁, connected, _⟩ := Action.bind_eq_ok ran
  rw [perform_execute connected] at ran
  obtain ⟨result, w₃, ensured, finished⟩ := Action.bind_eq_ok ran
  obtain ⟨w₂, executed, closed⟩ := Action.ensuring_eq_ok ensured
  have shut := m.close_beside w₂
  have told := finish_beside host result w₃
  rw [closed] at shut
  rw [finished] at told
  cases result with
  | none => cases finished
  | some r =>
    exact ⟨settings, m, w₁, r, w₂, connected, executeStatement_eq_some executed,
      trans_of Beside shut told⟩

/-- What a command does to the contents is what its statement does. -/
theorem Command.perform_database (connected : host.connect w = (.ok (settings, m), w₁)) :
    ((Command.execute sql).perform host w).2.database
      = (Store.executeSql m sql .strict w₁).2.database := by
  have shut := m.close_beside (executeStatement host m sql w₁).2
  have told := Beside.of_spoken (executeStatement_spoken host m sql w₁)
  have ended := trans_of Beside told shut
  rw [← Action.ensuring_snd] at ended
  rw [perform_execute connected, Action.bind_apply]
  rcases ensured : Action.ensuring (executeStatement host m sql) m.close w₁ with ⟨fault | x, w₂⟩ <;>
    rw [ensured] at ended
  · exact ended.database
  · exact (trans_of Beside ended (finish_beside host x w₂)).database

/-- A command whose statement is stopped ends otherwise, and leaves the contents alone. -/
theorem Command.perform_of_stopped (connected : host.connect w = (.ok (settings, m), w₁))
    (stopped : Stopped m sql { w₁ with surroundings := (Surroundings.tick w₁.surroundings).2 }) :
    ((Command.execute sql).perform host w).1 ≠ .ok 0 ∧
      ((Command.execute sql).perform host w).2.database = w₁.database := by
  obtain ⟨fault, failed, kept⟩ := Manager.lease_stopped stopped
  obtain ⟨failure, raised, idle⟩ := Store.executeSql_of_failed (Prod.ext failed rfl)
  refine ⟨fun zero => ?_, ?_⟩
  · obtain ⟨_, _, _, r, _, connected', executed, _⟩ := perform_eq_zero (Prod.ext zero rfl)
    cases connected.symm.trans connected'
    rw [executed] at raised
    cases raised
  · rw [perform_database connected, idle.database]
    exact kept

/-- The status that a program leaves to its caller. -/
def Ending.status : Ending → Nat
  | .exit code => code
  | .crash _ => 1

omit [Surroundings σ] in
private theorem Ending.status_eq_zero {result : Except Fault Nat}
    (zero : (Ending.ofResult result).status = 0) : result = .ok 0 := by
  rcases result with fault | code
  · cases fault <;> cases zero
  · exact congrArg Except.ok zero

omit [Surroundings σ] in
/-- The code of the whole program is this status. -/
theorem Program.outcomeOf_code (created : Int) (result : Except Fault Nat) (w : World Schedule) :
    (Program.outcomeOf created result w).code = (Ending.ofResult result).status := by
  dsimp only [Program.outcomeOf]
  cases Ending.ofResult result <;> rfl

/-- The exit status of a command that executes a statement can be trusted. If it is zero, then the
statement was executed on one connection and its commit passed, each once. If the command cannot
connect, if storage is disabled, or if taking a connection, executing the statement or committing it
ends in any fault, then the status is not zero and the contents are what they were. -/
theorem execute_status (host : Host) {args : List String} {sql : String}
    (ordered : Command.read args = .ok (some (.execute sql))) (w : World σ) :
    let ran := administer host args w
    ((Ending.ofResult ran.1).status = 0 → Executed sql w ran.2) ∧
      (Hindered host sql w →
        (Ending.ofResult ran.1).status ≠ 0 ∧ ran.2.database = w.database) := by
  have obeyed : administer host args w = (Command.execute sql).perform host w := by
    rw [administer, ordered]
    rfl
  dsimp only
  rw [obeyed]
  rcases ran : (Command.execute sql).perform host w with ⟨result, w'⟩
  have connecting := host.connect_beside w
  refine ⟨fun zero => ?_, fun hindered => ?_⟩
  · obtain rfl := Ending.status_eq_zero zero
    obtain ⟨settings, m, w₁, r, w₂, connected, executed, after⟩ := Command.perform_eq_zero ran
    rw [connected] at connecting
    obtain ⟨x, w₃, leased, idle⟩ := Store.executeSql_eq_ok executed
    have clocked := Beside.of_idle (.of_clock w₁ (Surroundings.tick w₁.surroundings).2)
    exact (Manager.lease_executed leased).around (trans_of Beside connecting clocked)
      (trans_of Beside (.of_idle idle) after)
  · suffices kept : result ≠ .ok 0 ∧ w'.database = w.database from
      ⟨fun zero => kept.1 (Ending.status_eq_zero zero), kept.2⟩
    cases hindered with
    | @unconnected fault w₁ failed =>
      rw [failed] at connecting
      cases ran.symm.trans (Action.bind_of_error failed)
      exact ⟨nofun, connecting.database⟩
    | disabled connected =>
      rw [connected] at connecting
      obtain ⟨unequal, kept⟩ := Command.perform_of_stopped connected (.unacquired rfl)
      rw [ran] at unequal kept
      exact ⟨unequal, kept.trans connecting.database⟩
    | stopped connected stopped =>
      rw [connected] at connecting
      obtain ⟨unequal, kept⟩ := Command.perform_of_stopped connected stopped
      rw [ran] at unequal kept
      exact ⟨unequal, kept.trans connecting.database⟩

/-- Every statement can be asked for. -/
theorem Command.read_execute (sql : String) :
    Command.read ["execute", "--", sql] = .ok (some (.execute sql)) :=
  rfl

/-- A host that knows a database, and whose screen has room for nothing. -/
def reachable : Host where
  file _ := .content (Text.encodeUtf8 "jdbc.url=jdbc:postgresql://h/db\nuser=u\npassword=p")
  screen := 0

/-- A world before anything has happened. -/
def start : World Calm := { surroundings := {} }

/-- A statement is executed where there is a database, and the status is not zero where storage is
disabled for want of a configuration. -/
theorem execute_status_drop :
    let statement := ["execute", "--", "DROP TABLE old"]
    Executed "DROP TABLE old" start (administer reachable statement start).2 ∧
      (Ending.ofResult (administer {} statement start).1).status ≠ 0 ∧
      (administer {} statement start).2.database = start.database := by
  have ended : (Ending.ofResult (administer reachable ["execute", "--", "DROP TABLE old"]
      start).1).status = 0 := by decide +kernel
  have unconfigured : (({} : Host).connect start).1.toOption.map (·.2.isEnabled) = some false := by
    decide +kernel
  rcases connected : ({} : Host).connect start with ⟨fault | ⟨settings, m⟩, w₁⟩ <;>
    rw [connected] at unconfigured
  · cases unconfigured
  · cases m with
    | enabled pool settings => cases unconfigured
    | disabled =>
      exact ⟨(execute_status reachable (Command.read_execute _) start).1 ended,
        (execute_status {} (Command.read_execute _) start).2 (.disabled connected)⟩

end CommandLine

end BucketStore
