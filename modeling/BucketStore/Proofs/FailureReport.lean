import BucketStore.Proofs.Atomicity
import BucketStore.Proofs.DataModel
import BucketStore.Proofs.FailurePolicy
import BucketStore.Schedule

/-!
Reports of failures. An operation that raises a fault or tells of an error has stored nothing,
unless its batch was committed and the connection could not be given back afterwards.
-/

namespace BucketStore

variable {σ α β : Type}

/-- A batch was committed, and then giving its connection back ended with a fault or without. -/
def Returned (fault : Option Fault) (w w' : World σ) : Prop :=
  ∃ touches id closed, w'.trace = w.trace ++ touches ∧
    (made .commit touches).any (·.fault.isNone) = true ∧
    touches.getLast? = some (.givenBack id fault closed)

/-- A batch was committed, and its connection was given back. -/
def Succeeded (w w' : World σ) : Prop :=
  Returned none w w'

/-- The contents are what they were, unless a connection could not be given back after its commit
had passed. -/
def Spared (w w' : World σ) : Prop :=
  w'.database = w.database ∨ ∃ fault, Returned (some fault) w w'

theorem Returned.unique {fault fault' : Option Fault} {w w' : World σ}
    (returned : Returned fault w w') (returned' : Returned fault' w w') : fault = fault' := by
  obtain ⟨touches, id, closed, traced, _, last⟩ := returned
  obtain ⟨touches', id', closed', traced', _, last'⟩ := returned'
  obtain rfl := List.append_cancel_left (traced.symm.trans traced')
  rw [last] at last'
  exact congrArg Touch.fault (Option.some.inj last')

theorem Returned.around {fault : Option Fault} {w w₁ w₂ w₃ : World σ}
    (returned : Returned fault w₁ w₂) (before : Idle w w₁) (after : Idle w₂ w₃) :
    Returned fault w w₃ := by
  unfold Returned at *
  rwa [after.trace, ← before.trace]

theorem Spared.around {w w₁ w₂ w₃ : World σ} (spared : Spared w₁ w₂) (before : Idle w w₁)
    (after : Idle w₂ w₃) : Spared w w₃ := by
  rcases spared with kept | ⟨fault, returned⟩
  · exact .inl (after.database.trans (kept.trans before.database))
  · exact .inr ⟨fault, returned.around before after⟩

/-- An operation that committed ends by giving its connection back. -/
theorem Exchange.last_of_committed {id : Nat} {touches : List Touch}
    (exchange : Exchange id true touches) :
    ∃ fault closed, touches.getLast? = some (.givenBack id fault closed) := by
  cases exchange with
  | leased request worked undone fault closed => exact ⟨fault, closed, List.getLast?_concat⟩

namespace Batch

variable [Surroundings σ] {whole : List Change → Prop} {work : Nat → Action σ α} {m : Manager}
  {w w' : World σ}

/-- A lease commits nothing and fails, or it commits and ends as giving its connection back does. -/
theorem lease_cases (prepares : ∀ id, Prepares id whole (work id))
    {result : Except Fault α} (ran : m.withConnection (block work) w = (result, w')) :
    (w'.database = w.database ∧ result.isOk = false ∧ ∀ fault, ¬Returned fault w w') ∨
      ∃ fault, Returned fault w w' ∧ result.isOk = fault.isNone := by
  obtain ⟨committed, effect, passed, given⟩ := lease_spec prepares m w
  rw [ran] at effect passed given
  obtain ⟨touches, traced, exchange, _⟩ := effect.trace
  have commits := exchange.commits_spec.2
  cases committed with
  | false =>
    refine .inl ⟨effect.database, ?_, ?_⟩
    · exact Bool.eq_false_iff.mpr fun ended => Bool.false_ne_true (passed ended)
    · rintro fault ⟨touches', id, closed, traced', passed', _⟩
      obtain rfl := List.append_cancel_left (traced.symm.trans traced')
      rw [commits] at passed'
      cases passed'
  | true =>
    obtain ⟨id, fault, closed, last, ended⟩ := given rfl
    obtain ⟨_, _, there⟩ := exchange.last_of_committed
    have same : (w.trace ++ touches).getLast? = touches.getLast? := by
      rw [List.getLast?_append, there]
      rfl
    rw [traced, same] at last
    exact .inr ⟨fault, ⟨touches, id, closed, traced, commits, last⟩, ended⟩

section

variable {operation : String} {attempted : Int} {policy : Policy}
  {details : List (String × Value)}

/-- A batch that raises a fault or sums up an error spares the contents. -/
theorem run_spared (prepares : ∀ id, Prepares id whole (work id))
    {outcome : Except Fault (BatchResult × Option α)}
    (ran : run m operation attempted policy details work w = (outcome, w'))
    (failed : ∀ batch, outcome = .ok batch → batch.1.error.isSome = true) : Spared w w' := by
  obtain ⟨s, result, w₁, s', _, leased, concluded, idle⟩ := run_leased ran
  suffices spared : Spared { w with surroundings := s } w₁ from
    spared.around (.of_clock w s) idle
  rcases lease_cases prepares leased with ⟨kept, _⟩ | ⟨fault, returned, finished⟩
  · exact .inl kept
  · cases fault with
    | some fault => exact .inr ⟨fault, returned⟩
    | none =>
      cases result with
      | error fault => cases finished
      | ok x =>
        cases concluded
        cases failed _ rfl

/-- What a batch sums up: how long it took by the clock, and with an error no rows. -/
theorem run_eq_ok {summary : BatchResult} {outcome : Option α}
    (ran : run m operation attempted policy details work w = (.ok (summary, outcome), w')) :
    (∃ ended : σ, summary.seconds
      = Stopwatch.seconds ⟨(Surroundings.tick w.surroundings).1, (Surroundings.tick ended).1⟩) ∧
      (summary.error.isSome = true → summary.rows = 0 ∧ outcome = none) := by
  obtain ⟨_, result, _, _, ended, _, concluded, _⟩ := run_leased ran
  cases result with
  | error fault =>
    obtain ⟨⟨_, nothing, measured, _⟩, missing, _⟩ := conclude_of_error concluded
    exact ⟨⟨ended, measured⟩, fun _ => ⟨nothing, missing⟩⟩
  | ok x =>
    cases concluded
    exact ⟨⟨ended, rfl⟩, nofun⟩

end

end Batch

/-- A run that reports failures truly: whatever it raises or tells of, the contents are spared. The
clock may also be what it raises a fault about. -/
structure Truthful [Surroundings σ] (w : World σ) (ran : Except Fault BatchResult × World σ) :
    Prop where
  raised : ∀ fault, ran.1 = .error fault →
    Spared w ran.2 ∨ ∃ p, fault = .problem p ∧ Surroundings.Irregular w.surroundings p
  told : ∀ r, ran.1 = .ok r → r.error.isSome = true → r.rows = 0 ∧ Spared w ran.2

namespace Truthful

variable [Surroundings σ] {w w' : World σ}

theorem clean {r : BatchResult} (silent : r.error = none) : Truthful w (.ok r, w') := by
  refine ⟨nofun, fun r' ended told => ?_⟩
  cases ended
  rw [silent] at told
  cases told

/-- What has to be found out first may fail. -/
theorem of_result {result : Except Fault β} {f : β → Action σ BatchResult}
    (rest : ∀ x, result = .ok x → Truthful w (f x w)) :
    Truthful w ((Action.ofExcept result >>= f) w) := by
  cases result with
  | error fault => exact ⟨fun _ _ => .inl (.inl rfl), nofun⟩
  | ok x => exact rest x rfl

/-- Remarks in the journal do not matter. -/
theorem of_journal {journal : List LogEntry} {ran : Except Fault BatchResult × World σ}
    (truthful : Truthful { w with journal } ran) : Truthful w ran :=
  ⟨truthful.raised, truthful.told⟩

theorem batch {whole : List Change → Prop} {work : Nat → Action σ α}
    (prepares : ∀ id, Prepares id whole (work id))
    {finish : BatchResult × Option α → Action σ BatchResult}
    {answer : BatchResult × Option α → BatchResult} (finishes : Finishes finish answer)
    (same : ∀ batch, (answer batch).error = batch.1.error)
    (nothing : ∀ summary, summary.rows = 0 → (answer (summary, none)).rows = 0)
    (m : Manager) (operation : String) (attempted : Int) (policy : Policy)
    (details : List (String × Value)) (w : World σ) :
    Truthful w ((Batch.run m operation attempted policy details work >>= finish) w) := by
  rcases ran : Batch.run m operation attempted policy details work w with
    ⟨fault | ⟨summary, outcome⟩, w₁⟩
  · rw [Action.bind_of_error ran]
    exact ⟨fun _ _ => .inl (Batch.run_spared prepares ran nofun), nofun⟩
  · obtain ⟨⟨ended, measured⟩, zero⟩ := Batch.run_eq_ok ran
    rw [Action.bind_of_ok ran]
    rcases finishes (summary, outcome) w₁ with ⟨p, irregular, raised⟩ | ⟨answered, remarks⟩
    · rw [raised]
      refine ⟨fun fault failed => .inr ⟨p, (Except.error.inj failed).symm, ended, ?_⟩, nofun⟩
      rw [Stopwatch.millis, ← measured, irregular]
    · refine ⟨fun fault failed => ?_, fun r given told => ?_⟩
      · rw [answered] at failed
        cases failed
      · rw [answered] at given
        obtain rfl := Except.ok.inj given
        rw [same] at told
        obtain ⟨none, rfl⟩ := zero told
        have spared := Batch.run_spared prepares ran fun batch given => by
          obtain rfl := Except.ok.inj given
          exact told
        exact ⟨nothing summary none, spared.around (refl_of Idle w) remarks.idle⟩

/-- What holds of the summary holds of the answer that it is given in. -/
theorem answered {a : Action σ BatchResult} (truthful : Truthful w (a w))
    {outcome : Except Fault Answer}
    (ran : (a >>= fun r => pure (Answer.summary r)) w = (outcome, w')) :
    (∀ fault, outcome = .error fault →
      Spared w w' ∨ ∃ p, fault = .problem p ∧ Surroundings.Irregular w.surroundings p) ∧
    (∀ r, outcome = .ok (.summary r) → r.error.isSome = true → r.rows = 0 ∧ Spared w w') := by
  rw [Action.bind_pure_apply] at ran
  rcases given : a w with ⟨fault | r, w₁⟩
  · rw [given] at ran truthful
    cases ran
    refine ⟨fun failure failed => truthful.raised failure ?_, nofun⟩
    cases failed
    rfl
  · rw [given] at ran truthful
    cases ran
    refine ⟨nofun, fun r' same told => truthful.told r' ?_ told⟩
    cases same
    rfl

end Truthful

namespace Store

variable [Surroundings σ] (m : Manager) (policy : Policy) (w : World σ)

theorem saveUsers_truthful (users : List UserEntry) :
    Truthful w (saveUsers m users policy w) := by
  dsimp only [saveUsers]
  split
  · exact .clean rfl
  · rw [Batch.inform_bind]
    exact .of_journal (.batch (saveUsers_prepares · (Surroundings.now w.surroundings))
      (.finish fun _ => rfl) (fun _ => rfl) (fun _ none => none) ..)

theorem insertAverages_truthful (entries : List (BucketKey × Averaged)) (g : Granularity) :
    Truthful w (insertAverages m entries g policy w) := by
  dsimp only [insertAverages]
  split
  · exact .clean rfl
  · rw [Batch.inform_bind]
    exact .of_journal (.batch (insertAverages_prepares g · (Surroundings.now w.surroundings))
      (.finish fun _ => rfl) (fun _ => rfl) (fun _ none => none) ..)

theorem executeSql_truthful (sql : String) : Truthful w (executeSql m sql policy w) :=
  .batch (executeSql_prepares · sql (Surroundings.now w.surroundings))
    (Finishes.pure fun batch => batch.1) (fun _ => rfl) (fun _ none => none) ..

theorem purge_truthful (now : Option Moment) : Truthful w (purge m now policy w) := by
  rw [purge_apply]
  split
  · dsimp only [purgeAt]
    refine .of_result fun entries found => ?_
    have reached := Result.of_mapError found
    rw [Batch.inform_bind]
    refine .of_journal (.batch (deleteExpired_prepares · _ reached) (.finish ?_) ?_ ?_ ..)
    · exact fun _ => rfl
    · exact fun _ => rfl
    · exact fun _ _ => congrArg removedRows (removed_zeros reached)
  · exact .clean rfl

end Store

/-- An operation that raises a fault or tells of an error leaves the contents as they were, unless
its connection could not be given back after its commit had passed. A summary that tells of an error
has no rows. The only faults that may be raised in spite of a batch are about the clock. -/
theorem Operation.perform_failure [Surroundings σ] {m : Manager} {policy : Policy} {op : Operation}
    {w w' : World σ} {outcome : Except Fault Answer}
    (ran : op.perform m policy w = (outcome, w')) :
    (∀ fault, outcome = .error fault →
      Spared w w' ∨ ∃ p, fault = .problem p ∧ Surroundings.Irregular w.surroundings p) ∧
    (∀ r, outcome = .ok (.summary r) → r.error.isSome = true → r.rows = 0 ∧ Spared w w') := by
  cases op with
  | saveUsers users => exact (Store.saveUsers_truthful m policy w users).answered ran
  | insertAverages entries g =>
    exact (Store.insertAverages_truthful m policy w entries g).answered ran
  | purge now => exact (Store.purge_truthful m policy w now).answered ran
  | executeSql sql => exact (Store.executeSql_truthful m policy w sql).answered ran
  | selectPoints since limit g =>
    have kept := Operation.selectPoints_keeps m policy since limit g w
    rw [ran] at kept
    refine ⟨fun _ _ => .inl (.inl kept), fun r answered => ?_⟩
    rw [perform, Action.bind_pure_apply] at ran
    obtain ⟨points, _, same⟩ := Result.map_eq_ok ((congrArg Prod.fst ran).trans answered)
    cases same

/-- The summary that an operation returned. -/
def Answer.summary? : Except Fault Answer → Option BatchResult
  | .ok (.summary r) => some r
  | _ => none

theorem Answer.of_summary? {outcome : Except Fault Answer} {r : BatchResult}
    (given : summary? outcome = some r) : outcome = .ok (.summary r) := by
  rcases outcome with fault | ⟨r' | points⟩
  · cases given
  · rw [Option.some.inj given]
  · cases given

namespace Schedule

/-- A world in which the first contact of one kind fails. -/
def failing (kind : ContactKind) : World Schedule :=
  { surroundings :=
      { rules := [{ kind, fault := .driver .operational "boom" }], now := { clock := 0 } }
    pools := [{ size := 1, testQuery := "", closed := false }] }

/-- One user is saved. -/
def saving : Operation :=
  .saveUsers [⟨"ada", .ok "first"⟩]

end Schedule

theorem Operation.perform_failure_commit : ∃ r w',
    Schedule.saving.perform Calm.manager .tolerant (Schedule.failing .commit)
      = (.ok (.summary r), w') ∧
    r.error = some "save_users: boom" ∧ r.rows = 0 ∧ Spared (Schedule.failing .commit) w' := by
  have told : (Answer.summary? (Schedule.saving.perform Calm.manager .tolerant
      (Schedule.failing .commit)).1).map (·.error) = some (some "save_users: boom") := by
    decide +kernel
  rcases ran : Schedule.saving.perform Calm.manager .tolerant (Schedule.failing .commit)
    with ⟨outcome, w'⟩
  rw [ran] at told
  obtain ⟨r, given, error⟩ := Option.map_eq_some_iff.mp told
  obtain rfl := Answer.of_summary? given
  have reported := Operation.perform_failure ran
  exact ⟨r, w', rfl, error, reported.2 r rfl (by rw [error]; rfl)⟩

/-- A connection that cannot be given back makes an error of what was committed. -/
theorem Operation.perform_failure_return : ∃ r w',
    Schedule.saving.perform Calm.manager .tolerant (Schedule.failing .returnConnection)
      = (.ok (.summary r), w') ∧
    r.error = some "save_users: boom" ∧
    (Schedule.failing .returnConnection).database.users = [] ∧
    w'.database.users = [("ada", "first")] := by
  have told : (Answer.summary? (Schedule.saving.perform Calm.manager .tolerant
        (Schedule.failing .returnConnection)).1).map (·.error) = some (some "save_users: boom") ∧
      (Schedule.saving.perform Calm.manager .tolerant
        (Schedule.failing .returnConnection)).2.database.users = [("ada", "first")] := by
    decide +kernel
  rcases ran : Schedule.saving.perform Calm.manager .tolerant (Schedule.failing .returnConnection)
    with ⟨outcome, w'⟩
  rw [ran] at told
  obtain ⟨r, given, error⟩ := Option.map_eq_some_iff.mp told.1
  obtain rfl := Answer.of_summary? given
  exact ⟨r, w', rfl, error, rfl, told.2⟩

end BucketStore
