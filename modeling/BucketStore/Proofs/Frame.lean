import BucketStore.Proofs.Batch
import BucketStore.Store.Operation

/-!
Frames: relations between worlds that nothing breaks which happens between taking a connection and
giving it back. A lease of a connection keeps within every frame, and an operation keeps within
whatever its lease keeps within, as long as the clock and the journal do not matter. A margin is
broken by batches only, so that everything around them keeps within it.
-/

namespace BucketStore

/-- What happens between taking a connection and giving it back. -/
def Event.isExchange : Event → Bool
  | .take _ | .giveBack _ | .autocommit _ | .execute _ _ | .executeMany _ _ | .commit _
  | .rollback _ => true
  | .newPool .. | .openPool _ | .closePool | .sleep _ | .configureLogging _ _ => false

/-- An exchange of anything but a batch. -/
def Event.isSingle : Event → Bool
  | .executeMany _ _ => false
  | e => e.isExchange

private theorem Event.isExchange_of_isSingle {e : Event} (single : e.isSingle = true) :
    e.isExchange = true := by
  cases e with
  | executeMany sql batch => cases single
  | _ => exact single

variable {σ α β : Type}

/-- A relation between worlds that looks at the events, the journal and the disposals only. It
holds where debug entries and the events of an exchange are added, as long as they are no
batches. -/
class Margin (R : World σ → World σ → Prop) : Prop extends IsPreorder (World σ) R where
  unseen : ∀ {w w' : World σ}, w'.events = w.events → w'.journal = w.journal →
    w'.disposals = w.disposals → R w w'
  exchange : ∀ (w : World σ) (e : Event), e.isSingle = true →
    R w { w with events := w.events ++ [e] }
  debug : ∀ (w : World σ) (entry : LogEntry), entry.level = .debug →
    R w { w with journal := w.journal ++ [entry] }

/-- A relation between worlds that looks at the events, the journal and the disposals only. It
holds where the events of an exchange and debug entries are added. -/
class Frame (R : World σ → World σ → Prop) : Prop extends IsPreorder (World σ) R where
  unseen : ∀ {w w' : World σ}, w'.events = w.events → w'.journal = w.journal →
    w'.disposals = w.disposals → R w w'
  exchange : ∀ (w : World σ) (e : Event), e.isExchange = true →
    R w { w with events := w.events ++ [e] }
  debug : ∀ (w : World σ) (entry : LogEntry), entry.level = .debug →
    R w { w with journal := w.journal ++ [entry] }

instance {R : World σ → World σ → Prop} [Frame R] : Margin R where
  unseen := Frame.unseen
  exchange w e single := Frame.exchange w e (Event.isExchange_of_isSingle single)
  debug := Frame.debug

variable {R : World σ → World σ → Prop} [Margin R]

namespace Action.Within

theorem unseen {f : World σ → World σ} (events : ∀ w, (f w).events = w.events)
    (journal : ∀ w, (f w).journal = w.journal) (disposals : ∀ w, (f w).disposals = w.disposals) :
    Within R (Action.update f) :=
  fun w => Margin.unseen (events w) (journal w) (disposals w)

theorem record {e : Event} (single : e.isSingle = true) :
    Within R (Action.record e : Action σ Unit) :=
  fun w => Margin.exchange w e single

theorem ask (f : σ → α × σ) : Within R (Action.ask f) :=
  fun _ => Margin.unseen rfl rfl rfl

theorem debug {entry : LogEntry} (level : entry.level = .debug) :
    Within R (Action.log entry : Action σ Unit) :=
  fun w => Margin.debug w entry level

end Action.Within

namespace Connection

theorem modify_framed (id : Nat) (f : Connection → Connection) :
    Action.Within R (modify id f : Action σ Unit) :=
  .unseen (fun _ => rfl) (fun _ => rfl) fun _ => rfl

theorem isClosed_framed (id : Nat) : Action.Within R (isClosed id : Action σ Bool) :=
  .bind .get fun _ => .pure _

theorem setAutocommit_framed (id : Nat) (on : Bool) :
    Action.Within R (setAutocommit id on : Action σ Unit) :=
  .bind (.record rfl) fun _ => modify_framed id _

variable [Surroundings σ]

theorem touch_framed (id : Nat) (contact : Contact) :
    Action.Within R (touch id contact : Action σ Unit) := by
  refine .bind (.ask _) fun strike => .bind (modify_framed id _) fun _ =>
    .bind (isClosed_framed id) fun closed =>
      .bind (.unseen (fun _ => rfl) (fun _ => rfl) fun _ => rfl) fun _ => ?_
  cases strike with
  | none => exact .pure _
  | some strike => exact .throw _

theorem enter_framed (id : Nat) (sql : String) (parameters : Option (List Int)) :
    Action.Within R (enter id sql parameters : Action σ Unit) :=
  .bind (.record rfl) fun _ => touch_framed id _

theorem execute_framed (id : Nat) (sql : String) :
    Action.Within R (execute id sql : Action σ Unit) :=
  .bind (enter_framed id sql none) fun _ => runFree_within sql (modify_framed id _)

theorem select_framed (id : Nat) (g : Granularity) (since limit : Int) :
    Action.Within R (select id g since limit : Action σ (List Value)) := by
  rw [select_eq]
  refine .bind (enter_framed id _ _) fun _ => .bind (.ask _) fun answer => ?_
  cases answer with
  | some rows => exact .pure rows
  | none => exact .bind .get fun _ => .pure _

theorem deleteUntil_framed (id : Nat) (g : Granularity) (cutoff : Int) :
    Action.Within R (deleteUntil id g cutoff : Action σ Int) := by
  rw [deleteUntil_eq]
  exact .bind (enter_framed id _ _) fun _ => .bind .get fun _ =>
    .bind (modify_framed id _) fun _ => .bind (.ask _) fun _ => .pure _

theorem upsertEach_framed (id : Nat) (sql : String) (index : Nat) (users : List (String × String)) :
    Action.Within R (upsertEach id sql index users : Action σ Unit) := by
  induction users generalizing index with
  | nil => exact .pure _
  | cons user rest ih =>
    exact .bind (touch_framed id _) fun _ => .bind (modify_framed id _) fun _ => ih _

omit [Margin R] in
theorem handOver_framed [Frame R] (id : Nat) (sql : String) (batch : Batch) :
    Action.Within R (handOver id sql batch : Action σ Unit) :=
  .bind (fun w => Frame.exchange w _ rfl) fun _ => touch_framed id _

omit [Margin R] in
theorem upsertUsers_framed [Frame R] (id : Nat) (users : List (String × String)) :
    Action.Within R (upsertUsers id users : Action σ Unit) := by
  rw [upsertUsers_eq]
  exact .bind (handOver_framed id _ _) fun _ => upsertEach_framed id _ 0 users

theorem insertEach_framed (id : Nat) (g : Granularity) (sql : String) (taken : List Row.Identity)
    (index : Nat) (rows : List Row) :
    Action.Within R (insertEach id g sql taken index rows : Action σ Unit) := by
  induction rows generalizing taken index with
  | nil => exact .pure _
  | cons row rest ih =>
    refine .bind (touch_framed id _) fun _ => ?_
    split
    · exact .bind (.throw _) fun _ => .bind (modify_framed id _) fun _ => ih _ _
    · exact .bind (modify_framed id _) fun _ => ih _ _

omit [Margin R] in
theorem insertRows_framed [Frame R] (id : Nat) (g : Granularity) (rows : List Row) :
    Action.Within R (insertRows id g rows : Action σ Unit) := by
  rw [insertRows_eq]
  exact .bind (handOver_framed id _ _) fun _ => .bind .get fun _ =>
    insertEach_framed id g _ _ 0 rows

theorem commit_framed (id : Nat) : Action.Within R (commit id : Action σ Unit) :=
  .bind (.record rfl) fun _ => .bind (touch_framed id _) fun _ =>
    .bind (.unseen (fun _ => rfl) (fun _ => rfl) fun _ => rfl) fun _ => modify_framed id _

theorem rollback_framed (id : Nat) : Action.Within R (rollback id : Action σ Unit) :=
  .bind (.record rfl) fun _ => .bind (modify_framed id _) fun _ => touch_framed id _

theorem tryOut_framed (id : Nat) (query : String) :
    Action.Within R (tryOut id query : Action σ Unit) :=
  .bind .get fun _ => .bind (setAutocommit_framed id true) fun _ =>
    .ensuring (execute_framed id query) (setAutocommit_framed id _)

/-- A rollback that fails is the only thing that is logged about a connection. -/
theorem rollbackQuietly_framed (id : Nat) :
    Action.Within R (rollbackQuietly id : Action σ Unit) := by
  refine .bind (isClosed_framed id) fun closed => ?_
  split
  · exact .pure _
  · refine .bind (.attempt (rollback_framed id)) fun result => ?_
    cases result with
    | ok done => exact .pure _
    | error fault =>
      dsimp only
      split
      · exact .debug rfl
      · exact .throw _

end Connection

namespace Pool

theorem modify_framed (id : Id) (f : PoolState → PoolState) :
    Action.Within R (modify id f : Action σ Unit) :=
  .unseen (fun _ => rfl) (fun _ => rfl) fun _ => rfl

variable [Surroundings σ]

theorem touch_framed (contact : Contact) :
    Action.Within R (touch contact : Action σ Unit) := by
  refine .bind (.ask _) fun strike => ?_
  cases strike with
  | none => exact .pure _
  | some strike => exact .throw _

theorem provide_framed (id : Id) (pool : PoolState) :
    Action.Within R (provide id pool : Action σ Nat) := by
  refine .bind .get fun w => .bind (.unseen (fun _ => rfl) (fun _ => rfl) fun _ => rfl) fun _ =>
    .bind .get fun w' => ?_
  split
  · exact .bind (Connection.tryOut_framed _ _) fun _ => .bind (modify_framed id _) fun _ => .pure _
  · exact .bind (modify_framed id _) fun _ => .pure _

theorem handOut_framed (id : Id) : Action.Within R (handOut id : Action σ Nat) := by
  refine .bind (touch_framed _) fun _ => .bind .get fun w => ?_
  dsimp only
  split
  · exact .throw _
  · exact provide_framed id _

theorem take_framed (id : Id) (timeout : Float) :
    Action.Within R (take id timeout : Action σ Nat) := by
  refine .bind (.record rfl) fun _ => .bind (.attempt (handOut_framed id)) fun result => ?_
  cases result with
  | ok connection =>
    exact .bind (Connection.isClosed_framed _) fun _ =>
      .bind (.unseen (fun _ => rfl) (fun _ => rfl) fun _ => rfl) fun _ => .pure _
  | error fault =>
    exact .bind (.unseen (fun _ => rfl) (fun _ => rfl) fun _ => rfl) fun _ => .throw _

theorem giveBack_framed (id : Id) (connection : Nat) :
    Action.Within R (giveBack id connection : Action σ Unit) :=
  .bind (.record rfl) fun _ => .bind (modify_framed id _) fun _ =>
    Connection.touch_framed connection _

end Pool

namespace Manager

variable [Surroundings σ]

theorem acquire_framed (m : Manager) : Action.Within R (m.acquire : Action σ Nat) := by
  cases m with
  | disabled => exact .throw _
  | enabled pool settings =>
    refine .bind (.attempt (Pool.take_framed pool _)) fun result => ?_
    cases result with
    | ok connection => exact .pure _
    | error fault => exact .throw _

theorem leave_framed (m : Manager) (connection : Nat) (faulted : Bool) :
    Action.Within R (m.leave connection faulted : Action σ Unit) := by
  cases m with
  | disabled => exact .pure _
  | enabled pool settings =>
    refine .ensuring ?_ (Pool.giveBack_framed pool connection)
    cases faulted with
    | true => exact Connection.rollbackQuietly_framed connection
    | false => exact .pure _

theorem withConnection_framed (m : Manager) {use : Nat → Action σ α}
    (used : ∀ id, Action.Within R (use id)) : Action.Within R (m.withConnection use) := by
  refine .bind m.acquire_framed fun connection =>
    .bind (.attempt (used connection)) fun result => ?_
  cases result with
  | ok x => exact .bind (m.leave_framed connection false) fun _ => .pure _
  | error fault => exact .bind (m.leave_framed connection true) fun _ => .throw _

end Manager

theorem Batch.block_framed [Surroundings σ] {work : Nat → Action σ α}
    (worked : ∀ id, Action.Within R (work id)) (id : Nat) :
    Action.Within R (block work id) :=
  .bind (worked id) fun _ => .bind (Connection.commit_framed id) fun _ => .pure _

theorem Store.deleteExpired_framed [Surroundings σ] (id : Nat)
    (entries : List (Granularity × Int)) :
    Action.Within R (deleteExpired id entries : Action σ (List (Granularity × Int))) := by
  induction entries with
  | nil => exact .pure _
  | cons entry rest ih =>
    exact .bind (Connection.deleteUntil_framed id _ _) fun _ => .bind ih fun _ => .pure _

section

variable [Surroundings σ] {R : World σ → World σ → Prop} [IsPreorder (World σ) R] {m : Manager}
  (remarks : ∀ {w w' : World σ}, Remarks w w' → R w w')
  (clock : ∀ (w : World σ) (s : σ), R w { w with surroundings := s })

include remarks

omit [Surroundings σ] [IsPreorder (World σ) R] in
theorem Batch.inform_within (message : String) (details : List (String × Value)) :
    Action.Within R (inform message details : Action σ Unit) :=
  fun w => remarks (remarks_log _ w)

omit [Surroundings σ] [IsPreorder (World σ) R] in
theorem Batch.finish_within (summary : BatchResult) (message : String → String)
    (details : List (String × Value)) :
    Action.Within R (finish summary message details : Action σ BatchResult) :=
  fun w => remarks (finish_remarks summary message details w)

include clock

theorem Batch.run_within {work : Nat → Action σ α}
    (leased : Action.Within R (m.withConnection (block work))) {operation : String}
    {attempted : Int} {policy : Policy} {details : List (String × Value)} :
    Action.Within R (run m operation attempted policy details work) := by
  have ticks : Action.Within R (Action.ask Surroundings.tick : Action σ Float) :=
    fun w => clock w _
  exact .bind (.bind ticks fun _ => .bind (.attempt leased) fun _ => .bind ticks fun _ => .pure _)
    fun _ w => remarks (conclude_remarks operation attempted policy details _ _ w)

variable (leased : ∀ {α : Type} {work : Nat → Action σ α},
  (∀ {Q : World σ → World σ → Prop} [Frame Q] (id : Nat), Action.Within Q (work id)) →
    Action.Within R (m.withConnection (Batch.block work)))

include leased

namespace Store

theorem saveUsers_within (users : List UserEntry) (policy : Policy) :
    Action.Within R (saveUsers m users policy) := by
  dsimp only [saveUsers]
  split
  · exact .pure _
  · refine .bind (Batch.inform_within remarks _ _) fun _ =>
      .bind (Batch.run_within remarks clock (leased fun id => ?_)) fun _ =>
        Batch.finish_within remarks _ _ _
    exact .bind (.ofExcept _) fun _ => .bind (Connection.touch_framed id _) fun _ =>
      Connection.upsertUsers_framed id _

theorem insertAverages_within (entries : List (BucketKey × Averaged)) (g : Granularity)
    (policy : Policy) : Action.Within R (insertAverages m entries g policy) := by
  dsimp only [insertAverages]
  split
  · exact .pure _
  · refine .bind (Batch.inform_within remarks _ _) fun _ =>
      .bind (Batch.run_within remarks clock (leased fun id => ?_)) fun _ =>
        Batch.finish_within remarks _ _ _
    exact .bind (.ofExcept _) fun _ => .bind (Connection.touch_framed id _) fun _ =>
      Connection.insertRows_framed id g _

theorem selectPoints_within (since limit : Int) (g : Granularity) (policy : Policy) :
    Action.Within R (selectPoints m since limit g policy) := by
  dsimp only [selectPoints]
  split
  · exact .pure _
  · refine .bind (Batch.run_within remarks clock (leased fun id => ?_)) fun _ => .pure _
    exact .bind (Connection.touch_framed id _) fun _ =>
      .bind (Connection.select_framed id g since limit) fun _ => .ofExcept _

theorem purge_within (now : Option Moment) (policy : Policy) :
    Action.Within R (purge m now policy) := by
  dsimp only [purge]
  split
  · exact .pure _
  · refine .bind .get fun w => .bind (.ofExcept _) fun _ =>
      .bind (Batch.inform_within remarks _ _) fun _ =>
        .bind (Batch.run_within remarks clock (leased fun id => ?_)) fun _ =>
        Batch.finish_within remarks _ _ _
    exact .bind (Connection.touch_framed id _) fun _ => deleteExpired_framed id _

theorem executeSql_within (sql : String) (policy : Policy) :
    Action.Within R (executeSql m sql policy) :=
  .bind (Batch.run_within remarks clock (leased fun id => Connection.execute_framed id sql))
    fun _ => .pure _

end Store

/-- An operation is at most one lease, with readings of the clock and entries of the journal
around it. -/
theorem Operation.perform_within (op : Operation) (policy : Policy) :
    Action.Within R (op.perform m policy) := by
  cases op with
  | saveUsers users =>
    exact .bind (Store.saveUsers_within remarks clock leased users policy) fun _ => .pure _
  | insertAverages entries g =>
    exact .bind (Store.insertAverages_within remarks clock leased entries g policy) fun _ => .pure _
  | selectPoints since limit g =>
    exact .bind (Store.selectPoints_within remarks clock leased since limit g policy)
      fun _ => .pure _
  | purge now => exact .bind (Store.purge_within remarks clock leased now policy) fun _ => .pure _
  | executeSql sql =>
    exact .bind (Store.executeSql_within remarks clock leased sql policy) fun _ => .pure _

end

end BucketStore
