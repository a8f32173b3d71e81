import BucketStore.Proofs.Lifecycle

/-!
Runs that cannot be told apart. Two worlds look alike if they are the same but for the connection
strings of the pools that were made in them. An action is blind if it ends alike in worlds that look
alike; whatever is done with a connection is.
-/

namespace BucketStore

variable {σ α β γ δ : Type}

/-- An event without the connection string of a pool. -/
def Event.veiled : Event → Event
  | .newPool _ size timeout lifetime => .newPool "" size timeout lifetime
  | e => e

/-- A world without the connection strings of its pools. -/
def World.veiled (w : World σ) : World σ :=
  { w with events := w.events.map Event.veiled }

theorem World.exists_events {w w' : World σ} (same : w.veiled = w'.veiled) :
    ∃ events, w' = { w with events } := by
  cases w
  cases w'
  simp only [veiled, World.mk.injEq] at same
  obtain ⟨rfl, rfl, rfl, rfl, -, rfl, rfl, rfl, rfl, rfl⟩ := same
  exact ⟨_, rfl⟩

/-- Worlds that look alike have the same events but for those strings. -/
theorem World.events_veiled {w w' : World σ} (same : w.veiled = w'.veiled) :
    w.events.map Event.veiled = w'.events.map Event.veiled :=
  congrArg World.events same

/-- Outcomes with related results, or with the same error. -/
inductive Result.Matches {ε : Type} (R : α → β → Prop) : Except ε α → Except ε β → Prop
  | ok {x : α} {y : β} (related : R x y) : Matches R (.ok x) (.ok y)
  | error (e : ε) : Matches R (.error e) (.error e)

theorem Result.matches_refl {ε : Type} {R : α → α → Prop} (same : ∀ x, R x x) (a : Except ε α) :
    Matches R a a := by
  cases a with
  | ok x => exact .ok (same x)
  | error e => exact .error e

theorem Result.matches_eq_iff {ε : Type} {a b : Except ε α} : Matches Eq a b ↔ a = b := by
  constructor
  · rintro (⟨rfl⟩ | ⟨e⟩) <;> rfl
  · rintro rfl
    exact matches_refl (fun _ => rfl) a

namespace Action

/-- A fault of the cleaning takes the place of the result. -/
theorem ensuring_fst (a : Action σ α) (cleanup : Action σ Unit) (w : World σ) :
    (ensuring a cleanup w).1 = (cleanup (a w).2).1 >>= fun _ => (a w).1 := by
  unfold ensuring
  rcases a w with ⟨result, w₁⟩
  rcases ended : cleanup w₁ with ⟨_ | _, w₂⟩ <;> simp [ended] <;> rfl

/-- In worlds that look alike two actions end with related results, and leave worlds that look
alike. -/
def Indistinct (R : α → β → Prop) (a : Action σ α) (b : Action σ β) : Prop :=
  ∀ w w', w.veiled = w'.veiled →
    Result.Matches R (a w).1 (b w').1 ∧ (a w).2.veiled = (b w').2.veiled

/-- What an action does cannot depend on the connection strings of pools. -/
def Blind (a : Action σ α) : Prop :=
  Indistinct Eq a a

namespace Indistinct

variable {R : α → β → Prop} {Q : γ → δ → Prop}

theorem pure {x : α} {y : β} (related : R x y) :
    Indistinct R (Pure.pure x : Action σ α) (Pure.pure y) :=
  fun _ _ same => ⟨.ok related, same⟩

theorem throw (fault : Fault) :
    Indistinct R (MonadExcept.throw fault : Action σ α) (MonadExcept.throw fault) :=
  fun _ _ same => ⟨.error fault, same⟩

theorem bind {a : Action σ α} {b : Action σ β} {f : α → Action σ γ} {g : β → Action σ δ}
    (first : Indistinct R a b) (rest : ∀ x y, R x y → Indistinct Q (f x) (g y)) :
    Indistinct Q (a >>= f) (b >>= g) := by
  intro w w' same
  obtain ⟨results, worlds⟩ := first w w' same
  rcases ran : a w with ⟨result, w₁⟩
  rcases ran' : b w' with ⟨result', w₁'⟩
  rw [ran, ran'] at results worlds
  cases results with
  | error fault =>
    rw [bind_of_error ran, bind_of_error ran']
    exact ⟨.error fault, worlds⟩
  | ok related =>
    rw [bind_of_ok ran, bind_of_ok ran']
    exact rest _ _ related w₁ w₁' worlds

theorem attempt {a : Action σ α} {b : Action σ β} (tried : Indistinct R a b) :
    Indistinct (Result.Matches R) (Action.attempt a) (Action.attempt b) :=
  fun w w' same => ⟨.ok (tried w w' same).1, (tried w w' same).2⟩

end Indistinct

namespace Blind

/-- A blind action ends alike in worlds that look alike. -/
theorem run {a : Action σ α} (blind : Blind a) {w w' : World σ} (same : w.veiled = w'.veiled) :
    (a w').1 = (a w).1 ∧ (a w).2.veiled = (a w').2.veiled :=
  ⟨(Result.matches_eq_iff.mp (blind w w' same).1).symm, (blind w w' same).2⟩

theorem pure (x : α) : Blind (Pure.pure x : Action σ α) :=
  Indistinct.pure rfl

theorem throw (fault : Fault) : Blind (MonadExcept.throw fault : Action σ α) :=
  Indistinct.throw fault

theorem ofExcept (result : Except Fault α) : Blind (Action.ofExcept result : Action σ α) :=
  fun _ _ same => ⟨Result.matches_eq_iff.mpr rfl, same⟩

theorem bind {a : Action σ α} {f : α → Action σ β} (first : Blind a) (rest : ∀ x, Blind (f x)) :
    Blind (a >>= f) :=
  Indistinct.bind first fun x _ same => same ▸ rest x

theorem attempt {a : Action σ α} (tried : Blind a) : Blind (Action.attempt a) := by
  intro w w' same
  obtain ⟨results, worlds⟩ := tried w w' same
  exact ⟨.ok (Result.matches_eq_iff.mp results), worlds⟩

theorem ensuring {a : Action σ α} {cleanup : Action σ Unit} (first : Blind a)
    (last : Blind cleanup) : Blind (Action.ensuring a cleanup) := by
  intro w w' same
  obtain ⟨results, worlds⟩ := first w w' same
  obtain ⟨cleanings, worlds'⟩ := last _ _ worlds
  have results := Result.matches_eq_iff.mp results
  have cleanings := Result.matches_eq_iff.mp cleanings
  refine ⟨Result.matches_eq_iff.mpr ?_, by rw [ensuring_snd, ensuring_snd]; exact worlds'⟩
  rw [ensuring_fst, ensuring_fst, results, cleanings]

/-- Reading the world is blind if only other things than its events are read. -/
theorem get {f : World σ → Action σ α} (same : ∀ w events, f { w with events } = f w)
    (each : ∀ w, Blind (f w)) : Blind (MonadState.get >>= f) := by
  intro w w' alike
  obtain ⟨events, rfl⟩ := World.exists_events alike
  have read : (MonadState.get >>= f) { w with events } = f w { w with events } := by
    rw [← same w events]
    rfl
  rw [read]
  exact each w _ _ alike

theorem update {f : World σ → World σ} (kept : ∀ w, (f w).veiled = f w.veiled) :
    Blind (Action.update f) := by
  intro w w' same
  refine ⟨.ok rfl, ?_⟩
  change (f w).veiled = (f w').veiled
  rw [kept, kept, same]

theorem record {e : Event} (bare : e.veiled = e) : Blind (Action.record e : Action σ Unit) := by
  refine update fun w => ?_
  simp [World.veiled, bare]

theorem log (entry : LogEntry) : Blind (Action.log entry : Action σ Unit) :=
  update fun _ => rfl

theorem note (t : Touch) : Blind (Action.note t : Action σ Unit) :=
  update fun _ => rfl

theorem ask (f : σ → α × σ) : Blind (Action.ask f) := by
  intro w w' same
  obtain ⟨events, rfl⟩ := World.exists_events same
  refine ⟨.ok rfl, ?_⟩
  simp [ask_apply, World.veiled, World.events_veiled same]

end Blind

end Action

open BucketStore.Action (Indistinct Blind)

/-! ### Connections and pools -/

namespace Connection

theorem modify_blind (id : Nat) (f : Connection → Connection) :
    Blind (modify id f : Action σ Unit) :=
  .update fun _ => rfl

theorem isClosed_blind (id : Nat) : Blind (isClosed id : Action σ Bool) :=
  .get (fun _ _ => rfl) fun _ => .pure _

theorem setAutocommit_blind (id : Nat) (on : Bool) : Blind (setAutocommit id on : Action σ Unit) :=
  .bind (.record rfl) fun _ => modify_blind id _

variable [Surroundings σ]

theorem runFree_blind (id : Nat) (sql : String) : Blind (runFree id sql : Action σ Unit) := by
  refine .get (fun _ _ => rfl) fun w => ?_
  split
  · exact .throw _
  · dsimp only
    split
    · exact modify_blind id _
    · exact .pure _

theorem touch_blind (id : Nat) (contact : Contact) : Blind (touch id contact : Action σ Unit) := by
  refine .bind (.ask _) fun strike => .bind (modify_blind id _) fun _ =>
    .bind (isClosed_blind id) fun closed => .bind (.note _) fun _ => ?_
  cases strike with
  | none => exact .pure _
  | some strike => exact .throw _

theorem enter_blind (id : Nat) (sql : String) (parameters : Option (List Int)) :
    Blind (enter id sql parameters : Action σ Unit) :=
  .bind (.record rfl) fun _ => touch_blind id _

theorem execute_blind (id : Nat) (sql : String) : Blind (execute id sql : Action σ Unit) :=
  .bind (enter_blind id sql none) fun _ => runFree_blind id sql

theorem select_blind (id : Nat) (g : Granularity) (since limit : Int) :
    Blind (select id g since limit : Action σ (List Value)) := by
  rw [select_eq]
  refine .bind (enter_blind id _ _) fun _ => .bind (.ask _) fun answer => ?_
  cases answer with
  | some rows => exact .pure rows
  | none => exact .get (fun _ _ => rfl) fun _ => .pure _

theorem deleteUntil_blind (id : Nat) (g : Granularity) (cutoff : Int) :
    Blind (deleteUntil id g cutoff : Action σ Int) := by
  rw [deleteUntil_eq]
  exact .bind (enter_blind id _ _) fun _ => .get (fun _ _ => rfl) fun _ =>
    .bind (modify_blind id _) fun _ => .bind (.ask _) fun _ => .pure _

theorem upsertEach_blind (id : Nat) (sql : String) (index : Nat) (users : List (String × String)) :
    Blind (upsertEach id sql index users : Action σ Unit) := by
  induction users generalizing index with
  | nil => exact .pure _
  | cons user rest ih =>
    exact .bind (touch_blind id _) fun _ => .bind (modify_blind id _) fun _ => ih _

theorem handOver_blind (id : Nat) (sql : String) (batch : Batch) :
    Blind (handOver id sql batch : Action σ Unit) :=
  .bind (.record rfl) fun _ => touch_blind id _

theorem upsertUsers_blind (id : Nat) (users : List (String × String)) :
    Blind (upsertUsers id users : Action σ Unit) := by
  rw [upsertUsers_eq]
  exact .bind (handOver_blind id _ _) fun _ => upsertEach_blind id _ 0 users

theorem insertEach_blind (id : Nat) (g : Granularity) (sql : String) (taken : List Row.Identity)
    (index : Nat) (rows : List Row) :
    Blind (insertEach id g sql taken index rows : Action σ Unit) := by
  induction rows generalizing taken index with
  | nil => exact .pure _
  | cons row rest ih =>
    refine .bind (touch_blind id _) fun _ => ?_
    split
    · exact .bind (.throw _) fun _ => .bind (modify_blind id _) fun _ => ih _ _
    · exact .bind (modify_blind id _) fun _ => ih _ _

theorem insertRows_blind (id : Nat) (g : Granularity) (rows : List Row) :
    Blind (insertRows id g rows : Action σ Unit) := by
  rw [insertRows_eq]
  exact .bind (handOver_blind id _ _) fun _ => .get (fun _ _ => rfl) fun _ =>
    insertEach_blind id g _ _ 0 rows

theorem commit_blind (id : Nat) : Blind (commit id : Action σ Unit) :=
  .bind (.record rfl) fun _ => .bind (touch_blind id _) fun _ =>
    .bind (.update fun _ => rfl) fun _ => modify_blind id _

theorem rollback_blind (id : Nat) : Blind (rollback id : Action σ Unit) :=
  .bind (.record rfl) fun _ => .bind (modify_blind id _) fun _ => touch_blind id _

theorem tryOut_blind (id : Nat) (query : String) : Blind (tryOut id query : Action σ Unit) :=
  .get (fun _ _ => rfl) fun _ => .bind (setAutocommit_blind id true) fun _ =>
    .ensuring (execute_blind id query) (setAutocommit_blind id _)

theorem rollbackQuietly_blind (id : Nat) : Blind (rollbackQuietly id : Action σ Unit) := by
  refine .bind (isClosed_blind id) fun closed => ?_
  split
  · exact .pure _
  · refine .bind (.attempt (rollback_blind id)) fun result => ?_
    cases result with
    | ok done => exact .pure _
    | error fault =>
      dsimp only
      split
      · exact .log _
      · exact .throw _

end Connection

namespace Pool

theorem modify_blind (id : Id) (f : PoolState → PoolState) :
    Blind (modify id f : Action σ Unit) :=
  .update fun _ => rfl

/-- Pools that are made with different connection strings cannot be told apart. -/
theorem create_indistinct (conninfo conninfo' : String) (s : DatabaseSettings) :
    Indistinct Eq (create conninfo s : Action σ Id) (create conninfo' s) := by
  refine .bind (R := Eq) (fun w w' same => ⟨.ok rfl, ?_⟩) fun _ _ _ =>
    Blind.get (fun _ _ => rfl) fun _ => .bind (.update fun _ => rfl) fun _ => .pure _
  obtain ⟨events, rfl⟩ := World.exists_events same
  simp [Action.record, World.veiled, World.events_veiled same, Event.veiled]

variable [Surroundings σ]

theorem touch_blind (contact : Contact) : Blind (touch contact : Action σ Unit) := by
  refine .bind (.ask _) fun strike => ?_
  cases strike with
  | none => exact .pure _
  | some strike => exact .throw _

theorem open_blind (id : Id) (timeout : Float) : Blind (open_ id timeout : Action σ Unit) :=
  .bind (.record rfl) fun _ => .bind (touch_blind _) fun _ => modify_blind id _

theorem close_blind (id : Id) : Blind (close id : Action σ Unit) :=
  .bind (.record rfl) fun _ => .bind (.update fun _ => rfl) fun _ =>
    .bind (modify_blind id _) fun _ => touch_blind _

theorem provide_blind (id : Id) (pool : PoolState) : Blind (provide id pool : Action σ Nat) := by
  refine .get (fun _ _ => rfl) fun w => .bind (.update fun _ => rfl) fun _ =>
    .get (fun _ _ => rfl) fun w' => ?_
  split
  · exact .bind (Connection.tryOut_blind _ _) fun _ => .bind (modify_blind id _) fun _ => .pure _
  · exact .bind (modify_blind id _) fun _ => .pure _

theorem handOut_blind (id : Id) : Blind (handOut id : Action σ Nat) := by
  refine .bind (touch_blind _) fun _ => .get (fun _ _ => rfl) fun w => ?_
  dsimp only
  split
  · exact .throw _
  · exact provide_blind id _

theorem take_blind (id : Id) (timeout : Float) : Blind (take id timeout : Action σ Nat) := by
  refine .bind (.record rfl) fun _ => .bind (.attempt (handOut_blind id)) fun result => ?_
  cases result with
  | ok connection =>
    exact .bind (Connection.isClosed_blind _) fun _ => .bind (.note _) fun _ => .pure _
  | error fault => exact .bind (.note _) fun _ => .throw _

theorem giveBack_blind (id : Id) (connection : Nat) :
    Blind (giveBack id connection : Action σ Unit) :=
  .bind (.record rfl) fun _ => .bind (modify_blind id _) fun _ =>
    Connection.touch_blind connection _

end Pool

namespace Manager

variable [Surroundings σ]

theorem acquire_blind (m : Manager) : Blind (m.acquire : Action σ Nat) := by
  cases m with
  | disabled => exact .throw _
  | enabled pool settings =>
    refine .bind (.attempt (Pool.take_blind pool _)) fun result => ?_
    cases result with
    | ok connection => exact .pure _
    | error fault => exact .throw _

theorem leave_blind (m : Manager) (connection : Nat) (faulted : Bool) :
    Blind (m.leave connection faulted : Action σ Unit) := by
  cases m with
  | disabled => exact .pure _
  | enabled pool settings =>
    refine .ensuring ?_ (Pool.giveBack_blind pool connection)
    cases faulted with
    | true => exact Connection.rollbackQuietly_blind connection
    | false => exact .pure _

theorem withConnection_blind (m : Manager) {use : Nat → Action σ α} (used : ∀ id, Blind (use id)) :
    Blind (m.withConnection use) := by
  refine .bind m.acquire_blind fun connection => .bind (.attempt (used connection)) fun result => ?_
  cases result with
  | ok x => exact .bind (m.leave_blind connection false) fun _ => .pure _
  | error fault => exact .bind (m.leave_blind connection true) fun _ => .throw _

theorem close_blind (m : Manager) : Blind (m.close : Action σ Unit) := by
  cases m with
  | disabled => exact .pure _
  | enabled pool settings =>
    refine .get (fun _ _ => rfl) fun w => ?_
    dsimp only
    split
    · exact .pure _
    · exact .bind (Pool.modify_blind pool _) fun _ => .bind (Pool.close_blind pool) fun _ =>
        .log _

end Manager

/-! ### Operations -/

namespace Batch

theorem logTimed_blind (millis : Except Problem Int) (entry : String → LogEntry) :
    Blind (logTimed millis entry : Action σ Unit) :=
  .bind (.ofExcept _) fun _ => .log _

theorem finish_blind (summary : BatchResult) (message : String → String)
    (details : List (String × Value)) :
    Blind (finish summary message details : Action σ BatchResult) := by
  dsimp only [finish]
  split
  · exact .bind (logTimed_blind _ _) fun _ => .pure _
  · exact .pure _

theorem conclude_blind (operation : String) (attempted : Int) (policy : Policy)
    (details : List (String × Value)) (result : Except Fault α) (watch : Stopwatch) :
    Blind (conclude operation attempted policy details result watch
      : Action σ (BatchResult × Option α)) := by
  cases result with
  | ok outcome => exact .pure _
  | error fault =>
    dsimp only [conclude]
    split
    · exact .throw _
    · cases policy with
      | strict => exact .bind (logTimed_blind _ _) fun _ => .throw _
      | tolerant => exact .bind (logTimed_blind _ _) fun _ => .pure _

variable [Surroundings σ]

theorem run_blind (m : Manager) (operation : String) (attempted : Int) (policy : Policy)
    (details : List (String × Value)) {work : Nat → Action σ α} (worked : ∀ id, Blind (work id)) :
    Blind (run m operation attempted policy details work) := by
  have leased : Blind (m.withConnection (block work)) := m.withConnection_blind fun id =>
    .bind (worked id) fun _ => .bind (Connection.commit_blind id) fun _ => .pure _
  exact .bind (.bind (.ask _) fun _ => .bind (.attempt leased) fun _ => .bind (.ask _) fun _ =>
    .pure _) fun _ => conclude_blind operation attempted policy details _ _

end Batch

namespace Store

variable [Surroundings σ] (m : Manager)

theorem saveUsers_blind (users : List UserEntry) (policy : Policy) :
    Blind (saveUsers m users policy : Action σ BatchResult) := by
  dsimp only [saveUsers]
  split
  · exact .pure _
  · refine .bind (.log _) fun _ => .bind (Batch.run_blind m _ _ _ _ fun id => ?_) fun _ =>
      Batch.finish_blind _ _ _
    exact .bind (.ofExcept _) fun _ => .bind (Connection.touch_blind id _) fun _ =>
      Connection.upsertUsers_blind id _

theorem insertAverages_blind (entries : List (BucketKey × Averaged)) (g : Granularity)
    (policy : Policy) : Blind (insertAverages m entries g policy : Action σ BatchResult) := by
  dsimp only [insertAverages]
  split
  · exact .pure _
  · refine .bind (.log _) fun _ => .bind (Batch.run_blind m _ _ _ _ fun id => ?_) fun _ =>
      Batch.finish_blind _ _ _
    exact .bind (.ofExcept _) fun _ => .bind (Connection.touch_blind id _) fun _ =>
      Connection.insertRows_blind id g _

theorem selectPoints_blind (since limit : Int) (g : Granularity) (policy : Policy) :
    Blind (selectPoints m since limit g policy : Action σ (List Point)) := by
  dsimp only [selectPoints]
  split
  · exact .pure _
  · refine .bind (Batch.run_blind m _ _ _ _ fun id => ?_) fun _ => .pure _
    exact .bind (Connection.touch_blind id _) fun _ =>
      .bind (Connection.select_blind id g since limit) fun _ => .ofExcept _

theorem deleteExpired_blind (id : Nat) (entries : List (Granularity × Int)) :
    Blind (deleteExpired id entries : Action σ (List (Granularity × Int))) := by
  induction entries with
  | nil => exact .pure _
  | cons entry rest ih =>
    exact .bind (Connection.deleteUntil_blind id _ _) fun _ => .bind ih fun _ => .pure _

theorem purge_blind (now : Option Moment) (policy : Policy) :
    Blind (purge m now policy : Action σ BatchResult) := by
  dsimp only [purge]
  split
  · exact .pure _
  · refine .get (fun _ _ => rfl) fun w => .bind (.ofExcept _) fun _ => .bind (.log _) fun _ =>
      .bind (Batch.run_blind m _ _ _ _ fun id => ?_) fun _ => Batch.finish_blind _ _ _
    exact .bind (Connection.touch_blind id _) fun _ => deleteExpired_blind id _

theorem executeSql_blind (sql : String) (policy : Policy) :
    Blind (executeSql m sql policy : Action σ BatchResult) :=
  .bind (Batch.run_blind m _ _ _ _ fun id => Connection.execute_blind id sql) fun _ => .pure _

end Store

variable [Surroundings σ]

theorem Operation.perform_blind (m : Manager) (policy : Policy) (op : Operation) :
    Blind (op.perform m policy : Action σ Answer) := by
  cases op with
  | saveUsers users => exact .bind (Store.saveUsers_blind m users policy) fun _ => .pure _
  | insertAverages entries g =>
    exact .bind (Store.insertAverages_blind m entries g policy) fun _ => .pure _
  | selectPoints since limit g =>
    exact .bind (Store.selectPoints_blind m since limit g policy) fun _ => .pure _
  | purge now => exact .bind (Store.purge_blind m now policy) fun _ => .pure _
  | executeSql sql => exact .bind (Store.executeSql_blind m sql policy) fun _ => .pure _

theorem Use.perform_blind (connection : Nat) (use : Use) :
    Blind (use.perform connection : Action σ Unit) := by
  cases use with
  | cursor => exact Connection.touch_blind connection _
  | execute sql => exact Connection.execute_blind connection sql
  | select g since limit =>
    exact .bind (Connection.select_blind connection g since limit) fun _ => .pure _
  | deleteUntil g cutoff =>
    exact .bind (Connection.deleteUntil_blind connection g cutoff) fun _ => .pure _
  | upsertUsers users => exact Connection.upsertUsers_blind connection users
  | insertRows g rows => exact Connection.insertRows_blind connection g rows
  | commit => exact Connection.commit_blind connection

end BucketStore
