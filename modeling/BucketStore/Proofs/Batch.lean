import BucketStore.Store.Batch
import BucketStore.Proofs.Lease

/-!
One batch from taking its connection to giving it back. The database changes if and only if the
commit passed, and then by all that was staged.
-/

namespace BucketStore

variable {σ α : Type}

/-- The contacts of a block: uses, and the commit if the work came to its end. The flag tells
whether the block came to its end, which is when the commit passed. -/
inductive BlockTrace (id : Nat) : Bool → List Touch → Prop where
  | broken {uses : List Touch} (used : ∀ t ∈ uses, t.IsUse id) : BlockTrace id false uses
  | ended {uses : List Touch} (used : ∀ t ∈ uses, t.IsUse id) (fault : Option Fault)
      (closed : Bool) :
      BlockTrace id fault.isNone (uses ++ [⟨.commit, some id, fault, closed⟩])

/-- All contacts of an operation: a request, and if it was granted a block, a rollback where it is
needed, and the return of the connection. The flag tells whether the block came to its end. -/
inductive Exchange (id : Nat) : Bool → List Touch → Prop where
  | refused {asked : List Touch} (request : Request id false asked) : Exchange id false asked
  | leased {committed : Bool} {asked block undo : List Touch} (request : Request id true asked)
      (worked : BlockTrace id committed block)
      (undone : Undoes id (!committed && !closedAfter false (asked ++ block)) undo)
      (fault : Option Fault) (closed : Bool) :
      Exchange id committed (asked ++ block ++ undo ++ [.givenBack id fault closed])

theorem BlockTrace.on {id : Nat} {committed : Bool} {touches : List Touch}
    (worked : BlockTrace id committed touches) : ∀ t ∈ touches, t.connection = some id := by
  intro t member
  cases worked with
  | broken used => exact (used t member).1
  | ended used fault closed =>
    rcases List.mem_append.mp member with early | last
    · exact (used t early).1
    · rw [List.mem_singleton.mp last]

/-- An operation has contact with one connection only. -/
theorem Exchange.one {id : Nat} {committed : Bool} {touches : List Touch}
    (exchange : Exchange id committed touches) :
    ∀ t ∈ touches, ∀ other ∈ t.connection, other = id := by
  cases exchange with
  | refused request => exact request.one
  | leased request worked undone fault closed =>
    intro t member
    simp only [List.mem_append, List.mem_singleton] at member
    rcases member with ((asking | during) | undoing) | rfl
    · exact request.one t asking
    · exact one_of_on worked.on t during
    · exact one_of_on undone.on t undoing
    · exact fun other there => (Option.some.inj there).symm

/-- What an operation leaves behind: its contacts, and the database with a whole batch applied if it
committed, or as it was. -/
structure Effect (whole : List Change → Prop) (committed : Bool) (w w' : World σ) : Prop where
  pools : w'.pools = w.pools
  journal : w.journal <+: w'.journal
  grown : w.connections.length ≤ w'.connections.length
  kept : ∀ other < w.connections.length, w'.connections[other]? = w.connections[other]?
  trace : ∃ touches, w'.trace = w.trace ++ touches ∧
    Exchange w.connections.length committed touches ∧ Known w'.connections.length touches
  database : if committed then ∃ changes, whole changes ∧ w'.database = w.database.applyAll changes
    else w'.database = w.database

/-- Only the journal differs: entries were added to it. -/
def Remarks (w w' : World σ) : Prop :=
  ∃ entries, w' = { w with journal := w.journal ++ entries }

instance : IsPreorder (World σ) Remarks where
  refl w := ⟨[], by simp⟩
  trans := by
    rintro w _ _ ⟨entries, rfl⟩ ⟨entries', rfl⟩
    exact ⟨entries ++ entries', by simp⟩

/-- Nothing happened between store and driver. -/
structure Idle (w w' : World σ) : Prop where
  database : w'.database = w.database
  pools : w'.pools = w.pools
  connections : w'.connections = w.connections
  trace : w'.trace = w.trace
  journal : w.journal <+: w'.journal

instance : IsPreorder (World σ) Idle where
  refl _ := ⟨rfl, rfl, rfl, rfl, List.prefix_rfl⟩
  trans _ _ _ first last := ⟨last.database.trans first.database, last.pools.trans first.pools,
    last.connections.trans first.connections, last.trace.trans first.trace,
    first.journal.trans last.journal⟩

/-- Reading the clock changes the surroundings only. -/
theorem Idle.of_clock (w : World σ) (s : σ) : Idle w { w with surroundings := s } :=
  ⟨rfl, rfl, rfl, rfl, List.prefix_rfl⟩

theorem Remarks.idle {w w' : World σ} (remarks : Remarks w w') : Idle w w' := by
  obtain ⟨entries, rfl⟩ := remarks
  exact ⟨rfl, rfl, rfl, rfl, List.prefix_append ..⟩

theorem Idle.effect {whole : List Change → Prop} {w w' : World σ} (idle : Idle w w') :
    Effect whole false w w' := by
  refine ⟨idle.pools, idle.journal, by simp [idle.connections], ?_, ⟨[], ?_, .refused .idle, ?_⟩,
    idle.database⟩
  · intro other _
    rw [idle.connections]
  · rw [idle.trace, List.append_nil]
  · simp [Known]

/-- What happens around an effect without the driver does not show in it. -/
theorem Effect.around {whole : List Change → Prop} {committed : Bool} {w w₁ w₂ w₃ : World σ}
    (effect : Effect whole committed w₁ w₂) (before : Idle w w₁) (after : Idle w₂ w₃) :
    Effect whole committed w w₃ := by
  obtain ⟨touches, traced, exchange, known⟩ := effect.trace
  have changed := effect.database
  rw [before.connections] at exchange
  rw [before.database, ← after.database] at changed
  refine ⟨?_, before.journal.trans (effect.journal.trans after.journal), ?_, ?_,
    ⟨touches, ?_, exchange, ?_⟩, changed⟩
  · rw [after.pools, effect.pools, before.pools]
  · rw [after.connections, ← before.connections]
    exact effect.grown
  · rw [after.connections, ← before.connections]
    exact effect.kept
  · rw [after.trace, traced, before.trace]
  · rw [after.connections]
    exact known

/-- An action that uses one connection and, if it comes to its end, has staged a whole batch. -/
structure Prepares (id : Nat) (whole : List Change → Prop) (a : Action σ α) : Prop where
  uses : Action.Within (Uses id) a
  prepared : ∀ {w x w' before}, Connection.Waiting id before w → a w = (.ok x, w') →
    ∃ changes, whole changes ∧ Connection.Waiting id (before ++ changes) w'

theorem Stages.prepares {id : Nat} {whole : List Change → Prop} {changes : List Change}
    {a : Action σ α} (stages : Stages id changes a) (complete : whole changes) :
    Prepares id whole a :=
  ⟨stages.uses, fun waiting ran => ⟨changes, complete, stages.staged waiting ran⟩⟩

/-- What has to be found out first may fail. -/
theorem Prepares.of_result {β : Type} {id : Nat} {whole : List Change → Prop}
    {result : Except Fault β} {f : β → Action σ α}
    (rest : ∀ x, result = .ok x → Prepares id whole (f x)) :
    Prepares id whole (Action.ofExcept result >>= f) := by
  cases result with
  | error fault =>
    refine ⟨.throw fault, ?_⟩
    intro w x w' before _ ran
    cases ran
  | ok x => exact rest x rfl

/-- A pool that a connection was taken from and given back to is what it was. -/
theorem PoolState.takeBack_lend (pools : List PoolState) (pool : Pool.Id) :
    (pools.modify pool lend).modify pool takeBack = pools := by
  have same : takeBack ∘ lend = id := by
    funext p
    simp [lend, takeBack]
  rw [List.modify_modify_eq, same, List.modify_id]

namespace Batch

variable [Surroundings σ]

variable {whole : List Change → Prop} {work : Nat → Action σ α}

private theorem block_spec {id : Nat} {w : World σ} (prepares : Prepares id whole (work id))
    (waiting : Connection.Waiting id [] w) :
    ∃ committed touches, Confined id w (block work id w).2 ∧
      (block work id w).2.trace = w.trace ++ touches ∧ BlockTrace id committed touches ∧
      (block work id w).1.isOk = committed ∧
      Connection.hasClosed id (block work id w).2
        = closedAfter (Connection.hasClosed id w) touches ∧
      if committed then
        ∃ changes, whole changes ∧ (block work id w).2.database = w.database.applyAll changes
      else (block work id w).2.database = w.database := by
  have worked := prepares.uses w
  rcases ran : work id w with ⟨fault | x, w₁⟩ <;> rw [ran] at worked
  · have ended : block work id w = (.error fault, w₁) := Action.bind_of_error ran
    obtain ⟨uses, traced, used, closed⟩ := worked.trace
    rw [ended]
    exact ⟨false, uses, worked.toConfined, traced, .broken used, rfl, closed, worked.database⟩
  · obtain ⟨changes, complete, staged⟩ := prepares.prepared waiting ran
    have ended : block work id w = ((Connection.commit id w₁).1.map fun _ => x,
        (Connection.commit id w₁).2) :=
      (Action.bind_of_ok ran).trans (Action.bind_pure_apply _ _ w₁)
    obtain ⟨uses, traced, used, closed⟩ := worked.trace
    obtain ⟨fault, confined, traced', committed⟩ := Connection.commit_spec id w₁
    rw [traced, List.append_assoc] at traced'
    rw [ended]
    refine ⟨fault.isNone, _, worked.toConfined.trans confined, traced', .ended used fault _, ?_⟩
    cases fault with
    | some fault =>
      obtain ⟨failed, database⟩ := committed
      rw [failed]
      exact ⟨rfl, by simp [closedAfter], database.trans worked.database⟩
    | none =>
      obtain ⟨passed, database⟩ := committed
      rw [passed]
      refine ⟨rfl, by simp [closedAfter], changes, complete, ?_⟩
      rw [database, staged.stageOf, worked.database, List.nil_append]

/-- One lease of a connection: taken, worked on, and given back. After a commit, giving it back
decides how the lease ends. -/
theorem lease_spec (prepares : ∀ id, Prepares id whole (work id)) (m : Manager) (w : World σ) :
    ∃ committed, Effect whole committed w (m.withConnection (block work) w).2 ∧
      ((m.withConnection (block work) w).1.isOk = true → committed = true) ∧
      (committed = true → ∃ id fault closed,
        (m.withConnection (block work) w).2.trace.getLast? = some (.givenBack id fault closed) ∧
        (m.withConnection (block work) w).1.isOk = fault.isNone) := by
  let id := w.connections.length
  obtain ⟨touches, asked, ended⟩ := m.acquire_cases w
  rcases taken : m.acquire w with ⟨result, w₁⟩
  rw [taken] at asked ended
  rcases ended with ⟨fault, refused, request, pools⟩ |
    ⟨handed, request, closed, pool, settings, rfl, granted⟩
  · rw [show result = .error _ from refused] at taken
    rw [Manager.withConnection_refused taken]
    exact ⟨false, ⟨pools, asked.journal, asked.grown, asked.kept,
      ⟨_, asked.trace, .refused request, asked.known⟩, asked.database⟩, nofun, nofun⟩
  · rw [show result = .ok id from handed] at taken
    obtain ⟨committed, block, confined, traced, worked, finished, closed', changed⟩ :=
      block_spec (prepares id) granted.fresh
    rcases used : Batch.block work id w₁ with ⟨outcome, w₂⟩
    rw [used] at confined traced finished closed' changed
    have left := Manager.leave_spec pool settings id (!outcome.isOk) w₂
    rw [Manager.withConnection_used taken used]
    obtain ⟨undo, fault, closed'', traced', undone⟩ := left.trace
    rw [finished, closed', closed, ← closedAfter_append] at undone
    have exchange := Exchange.leased request worked undone fault closed''
    refine ⟨committed, ⟨?_, ?_, ?_, ?_, ⟨_, ?_, exchange, ?_⟩, ?_⟩, ?_, ?_⟩
    · rw [left.pools, confined.pools, granted.pools, PoolState.takeBack_lend]
    · exact (asked.journal.trans confined.journal).trans left.journal
    · rw [left.length, confined.length]
      exact asked.grown
    · intro other earlier
      have apart : other ≠ id := Nat.ne_of_lt earlier
      rw [left.others other apart, confined.others other apart, asked.kept other earlier]
    · rw [traced', traced, asked.trace]
      simp only [List.append_assoc, id]
    · refine .of_one exchange.one ?_
      rw [left.length, confined.length, granted.length]
      exact Nat.lt_succ_self _
    · rw [left.database, ← asked.database]
      exact changed
    · intro passed
      rw [← finished]
      cases outcome with
      | ok x => rfl
      | error failure =>
        have failed (left : Except Fault Unit) :
            (left >>= fun _ => (.error failure : Except Fault α)).isOk = false := by
          cases left <;> rfl
        rw [failed] at passed
        cases passed
    · intro passed
      cases outcome with
      | error failure => cases finished.trans passed
      | ok x =>
        obtain ⟨fault, closed, traced, ended⟩ := Manager.leave_unfaulted pool settings id w₂
        refine ⟨id, fault, closed, ?_, ?_⟩
        · exact (congrArg List.getLast? traced).trans List.getLast?_concat
        · rw [← ended]
          change ((((Manager.enabled pool settings).leave id false w₂).1 >>= fun _ => .ok x) :
            Except Fault α).isOk = _
          cases ((Manager.enabled pool settings).leave id false w₂).1 <;> rfl

omit [Surroundings σ] in
theorem remarks_log (entry : LogEntry) : Action.Within Remarks (Action.log entry : Action σ Unit) :=
  fun _ => ⟨[entry], rfl⟩

omit [Surroundings σ] in
theorem inform_bind (message : String) (details : List (String × Value)) (f : Unit → Action σ α)
    (w : World σ) : (inform message details >>= f) w = f () { w with journal := w.journal ++
      [{ level := .info, logger := .store, message, details }] } := rfl

omit [Surroundings σ] in
private theorem logTimed_remarks (millis : Except Problem Int) (entry : String → LogEntry) :
    Action.Within Remarks (logTimed millis entry : Action σ Unit) :=
  .bind (.ofExcept _) fun _ => remarks_log _

omit [Surroundings σ] in
theorem logTimed_of_error {millis : Except Problem Int} {p : Problem} (shown : millis = .error p)
    (entry : String → LogEntry) (w : World σ) :
    logTimed millis entry w = (.error (.problem p), w) := by
  subst shown
  rfl

omit [Surroundings σ] in
theorem logTimed_of_ok {millis : Except Problem Int} {n : Int} (shown : millis = .ok n)
    (entry : String → LogEntry) (w : World σ) :
    logTimed millis entry w = (.ok (), { w with journal := w.journal ++ [entry (intText n)] }) := by
  subst shown
  rfl

omit [Surroundings σ] in
theorem finish_remarks (summary : BatchResult) (message : String → String)
    (details : List (String × Value)) :
    Action.Within Remarks (finish summary message details : Action σ BatchResult) := by
  dsimp only [finish]
  split
  · exact .bind (logTimed_remarks _ _) fun _ => .pure _
  · exact .pure _

omit [Surroundings σ] in
theorem finish_eq_ok {summary r : BatchResult} {message : String → String}
    {details : List (String × Value)} {w w' : World σ}
    (ran : finish summary message details w = (.ok r, w')) : r = summary := by
  dsimp only [finish] at ran
  split at ran
  · obtain ⟨_, _, _, ran⟩ := Action.bind_eq_ok ran
    cases ran
    rfl
  · cases ran
    rfl

omit [Surroundings σ] in
theorem finish_idle_of_ok {summary r : BatchResult} {message : String → String}
    {details : List (String × Value)} {w w' : World σ}
    (ran : finish summary message details w = (.ok r, w')) : Idle w w' := by
  have idle := (finish_remarks summary message details w).idle
  rwa [ran] at idle

omit [Surroundings σ] in
/-- How a batch is reported shows in the journal only. -/
theorem conclude_remarks (operation : String) (attempted : Int) (policy : Policy)
    (details : List (String × Value)) (result : Except Fault α) (watch : Stopwatch) :
    Action.Within Remarks (conclude operation attempted policy details result watch :
      Action σ (BatchResult × Option α)) := by
  cases result with
  | ok outcome => exact .pure _
  | error fault =>
    simp only [conclude]
    split
    · exact .throw fault
    · cases policy with
      | strict => exact .bind (logTimed_remarks _ _) fun _ => .throw _
      | tolerant => exact .bind (logTimed_remarks _ _) fun _ => .pure _

omit [Surroundings σ] in
/-- A failure that is told is told in the summary and in the journal. -/
theorem conclude_of_error {operation : String} {attempted : Int} {policy : Policy}
    {details : List (String × Value)} {fault : Fault} {watch : Stopwatch} {w w' : World σ}
    {summary : BatchResult} {outcome : Option α}
    (ran : conclude operation attempted policy details (.error fault) watch w
      = (.ok (summary, outcome), w')) :
    (summary.error.isSome = true ∧ summary.rows = 0 ∧ summary.seconds = watch.seconds ∧
        summary.skipped = false) ∧
      outcome = none ∧ ∃ entry, w'.journal = w.journal ++ [entry] ∧ entry.level = .error := by
  simp only [conclude] at ran
  split at ran
  · cases ran
  · cases policy with
    | strict =>
      obtain ⟨_, w₁, _, ended⟩ := Action.bind_eq_ok ran
      cases ended
    | tolerant =>
      obtain ⟨_, w₁, logged, ended⟩ := Action.bind_eq_ok ran
      obtain ⟨millis, w₂, told, logged⟩ := Action.bind_eq_ok logged
      obtain rfl : w = w₂ := congrArg Prod.snd told
      cases logged
      cases ended
      exact ⟨⟨rfl, rfl, rfl, rfl⟩, rfl, _, rfl, rfl⟩

/-- A batch is a lease between two readings of the clock, and what is told of how it ended. -/
theorem run_apply (m : Manager) (operation : String) (attempted : Int) (policy : Policy)
    (details : List (String × Value)) (work : Nat → Action σ α) (w : World σ) :
    run m operation attempted policy details work w =
      let begun := Surroundings.tick w.surroundings
      let leased := m.withConnection (block work) { w with surroundings := begun.2 }
      let ended := Surroundings.tick leased.2.surroundings
      conclude operation attempted policy details leased.1 ⟨begun.1, ended.1⟩
        { leased.2 with surroundings := ended.2 } :=
  rfl

theorem run_leased {m : Manager} {operation : String} {attempted : Int} {policy : Policy}
    {details : List (String × Value)} {w w' : World σ}
    {outcome : Except Fault (BatchResult × Option α)}
    (ran : run m operation attempted policy details work w = (outcome, w')) :
    ∃ (s : σ) (result : Except Fault α) (w₁ : World σ) (s' ended : σ),
      m.withConnection (block work) { w with surroundings := s } = (result, w₁) ∧
      conclude operation attempted policy details result
        ⟨(Surroundings.tick w.surroundings).1, (Surroundings.tick ended).1⟩
        { w₁ with surroundings := s' } = (outcome, w') ∧
      Idle w₁ w' := by
  rw [run_apply] at ran
  let begun := Surroundings.tick w.surroundings
  rcases leased : m.withConnection (block work) { w with surroundings := begun.2 } with ⟨result, w₁⟩
  let ended := Surroundings.tick w₁.surroundings
  have concluded : conclude operation attempted policy details result ⟨begun.1, ended.1⟩
      { w₁ with surroundings := ended.2 } = (outcome, w') := by
    dsimp only at ran
    rwa [leased] at ran
  have told := (conclude_remarks operation attempted policy details result ⟨begun.1, ended.1⟩
    { w₁ with surroundings := ended.2 }).idle
  rw [congrArg Prod.snd concluded] at told
  exact ⟨begun.2, result, w₁, ended.2, w₁.surroundings, leased, concluded,
    trans_of Idle (.of_clock w₁ ended.2) told⟩

omit [Surroundings σ] in
/-- A summary without an error sums up work that came to its end. -/
theorem conclude_of_clean {operation : String} {attempted : Int} {policy : Policy}
    {details : List (String × Value)} {result : Except Fault α} {watch : Stopwatch} {w w' : World σ}
    {summary : BatchResult} {outcome : Option α}
    (ran : conclude operation attempted policy details result watch w
      = (.ok (summary, outcome), w')) (clean : summary.error = none) :
    ∃ x, result = .ok x ∧ outcome = some x := by
  cases result with
  | ok x =>
    cases ran
    exact ⟨x, rfl, rfl⟩
  | error fault =>
    obtain ⟨⟨told, _⟩, _⟩ := conclude_of_error ran
    rw [clean] at told
    cases told

theorem run_spec (prepares : ∀ id, Prepares id whole (work id)) (m : Manager) (operation : String)
    (attempted : Int) (policy : Policy) (details : List (String × Value)) (w : World σ) :
    ∃ committed, Effect whole committed w (run m operation attempted policy details work w).2 ∧
      ∀ summary outcome, (run m operation attempted policy details work w).1
        = .ok (summary, outcome) → summary.error = none → committed = true := by
  rcases ran : run m operation attempted policy details work w with ⟨answer, w'⟩
  obtain ⟨s, result, w₁, s', _, leased, concluded, idle⟩ := run_leased ran
  obtain ⟨committed, effect, passed, _⟩ := lease_spec prepares m { w with surroundings := s }
  rw [leased] at effect passed
  refine ⟨committed, effect.around (.of_clock w s) idle, ?_⟩
  rintro summary outcome rfl silent
  obtain ⟨x, rfl, _⟩ := conclude_of_clean concluded silent
  exact passed rfl

/-- The outcome of a batch is what its work gave on some connection. -/
theorem run_of_clean {m : Manager} {operation : String} {attempted : Int} {policy : Policy}
    {details : List (String × Value)} {w w' : World σ} {summary : BatchResult} {outcome : Option α}
    (ran : run m operation attempted policy details work w = (.ok (summary, outcome), w'))
    (clean : summary.error = none) :
    ∃ x id w₁ w₂, outcome = some x ∧ w₁.database = w.database ∧ work id w₁ = (.ok x, w₂) := by
  obtain ⟨s, result, _, _, _, leased, concluded, _⟩ := run_leased ran
  obtain ⟨x, rfl, gave⟩ := conclude_of_clean concluded clean
  obtain ⟨id, w₁, w₂, acquired, used⟩ := Manager.withConnection_eq_ok leased
  obtain ⟨y, w₃, used, committed⟩ := Action.bind_eq_ok used
  obtain ⟨_, _, _, same⟩ := Action.bind_eq_ok committed
  cases same
  have kept := m.acquire_database { w with surroundings := s }
  rw [acquired] at kept
  exact ⟨x, id, w₁, w₃, gave, kept, used⟩

end Batch

end BucketStore
