import BucketStore.Proofs.FailurePolicy
import BucketStore.Proofs.Frame
import BucketStore.Proofs.Opening

/-!
Closed pools. A manager closes its pool once, and keeps that in mind also where the closing ends in
a fault. From then on a request for a connection is refused before anything is tried, and a batch
does nothing but tell of the refusal.
-/

namespace BucketStore

variable {σ α β : Type}

def Event.isClosing : Event → Bool
  | .closePool => true
  | _ => false

/-- How often pools have been closed. -/
def closings (w : World σ) : Nat :=
  w.events.countP Event.isClosing

/-- No pool was closed. -/
def Unclosing (w w' : World σ) : Prop :=
  closings w' = closings w

private theorem Event.isClosing_of_isExchange {e : Event} (exchange : e.isExchange = true) :
    e.isClosing = false := by
  cases e <;> first | rfl | cases exchange

theorem closings_concat (w : World σ) (e : Event) :
    closings { w with events := w.events ++ [e] } = closings w + if e.isClosing then 1 else 0 := by
  simp [closings]

instance : Frame (Unclosing : World σ → World σ → Prop) where
  refl _ := rfl
  trans _ _ _ first last := Eq.trans last first
  unseen same _ _ := congrArg (List.countP Event.isClosing) same
  exchange w e exchange := by
    rw [Unclosing, closings_concat, Event.isClosing_of_isExchange exchange]
    rfl
  debug _ _ _ := rfl

/-- The pool of an enabled manager is there. The flag tells whether its closing was asked for; it is
closed since then. -/
def Manager.HasPool (closed : Bool) (w : World σ) : Manager → Prop
  | .disabled => True
  | .enabled pool _ => ∃ p, Pool.get? pool w = some p ∧ p.closed = closed ∧ p.retired = closed

/-- What is raised where the pool is closed. -/
def Fault.closedPool : Fault :=
  .store .connectionUnavailable "Connection pool is closed."
    (some (.driver .poolClosed "the pool 'reportstore' is already closed"))

namespace Manager

section

variable {closed : Bool} {m : Manager} {w w' : World σ}

theorem HasPool.of_pools (has : m.HasPool closed w) (pools : w'.pools = w.pools) :
    m.HasPool closed w' := by
  cases m with
  | disabled => trivial
  | enabled pool settings =>
    rw [HasPool, Pool.get?, pools]
    exact has

/-- Counting connections does not matter. -/
theorem HasPool.of_modify (has : m.HasPool closed w) {id : Pool.Id} {f : PoolState → PoolState}
    (pools : w'.pools = w.pools.modify id f)
    (kept : ∀ p, (f p).closed = p.closed ∧ (f p).retired = p.retired) : m.HasPool closed w' := by
  cases m with
  | disabled => trivial
  | enabled pool settings =>
    obtain ⟨p, found, shut, retired⟩ := has
    have changed : Pool.get? pool w' = some (if id = pool then f p else p) := by
      rw [Pool.get?] at found ⊢
      rw [pools, List.getElem?_modify, found]
      rfl
    refine ⟨_, changed, ?_, ?_⟩
    · split
      · exact (kept p).1.trans shut
      · exact shut
    · split
      · exact (kept p).2.trans retired
      · exact retired

end

end Manager

section

variable [Surroundings σ]

/-- A closed pool refuses a request before it tries anything. -/
theorem Pool.take_closed {pool : Pool.Id} {p : PoolState} {w : World σ}
    (found : Pool.get? pool w = some p) (shut : p.closed = true) (timeout : Float) :
    ∃ fault events trace, take pool timeout w = (.error fault, { w with
        surroundings := (Surroundings.strike .takeConnection w.surroundings).2, events, trace }) ∧
      ((Surroundings.strike .takeConnection w.surroundings).1 = none →
        fault = .driver .poolClosed "the pool 'reportstore' is already closed") := by
  let asking : World σ := (Action.record (.take timeout) w).2
  have touched := touch_eq .takeConnection asking
  cases struck : (Surroundings.strike .takeConnection asking.surroundings).1 with
  | some strike =>
    rw [struck] at touched
    have refused : handOut pool asking = (.error strike.fault, { asking with
        surroundings := (Surroundings.strike .takeConnection asking.surroundings).2 }) :=
      Action.bind_of_error touched
    exact ⟨_, _, _, take_of_error refused, fun none => by cases struck.symm.trans none⟩
  | none =>
    rw [struck] at touched
    have there : Pool.get? pool { asking with
        surroundings := (Surroundings.strike .takeConnection asking.surroundings).2 } = some p :=
      found
    refine ⟨_, _, _, take_of_error (handOut_of_refusal touched ?_), fun _ => rfl⟩
    rw [there, Option.getD_some, PoolState.refusal?, if_pos shut]

namespace Manager

variable {m : Manager} {w : World σ}

theorem acquire_closed (enabled : m.isEnabled = true) (has : m.HasPool true w) :
    ∃ fault events trace, m.acquire w = (.error fault, { w with
        surroundings := (Surroundings.strike .takeConnection w.surroundings).2, events, trace }) ∧
      ((Surroundings.strike .takeConnection w.surroundings).1 = none → fault = .closedPool) := by
  cases m with
  | disabled => cases enabled
  | enabled pool settings =>
    obtain ⟨p, found, shut, _⟩ := has
    obtain ⟨fault, events, trace, refused, unstruck⟩ := Pool.take_closed found shut settings.timeout
    refine ⟨_, events, trace, acquire_of_error refused, fun none => ?_⟩
    rw [unstruck none]
    rfl

/-- A pool that was closed is not closed again. -/
theorem close_again (has : m.HasPool true w) : m.close w = (.ok (), w) := by
  cases m with
  | disabled => rfl
  | enabled pool settings =>
    obtain ⟨p, found, _, retired⟩ := has
    simp [close, Action.bind_apply, found, retired]

/-- The first closing closes the pool, also where it ends in a fault. -/
theorem close_first {pool : Pool.Id} {p : PoolState} (found : Pool.get? pool w = some p)
    (unretired : p.retired = false) (settings : DatabaseSettings) :
    ∃ surroundings journal, ((enabled pool settings).close w).2 = { w with
      surroundings
      events := w.events ++ [.closePool]
      disposals := w.disposals ++ [(pool, p.out)]
      pools := (w.pools.modify pool fun p => { p with retired := true }).modify pool
        fun p => { p with closed := true }
      journal } := by
  let retiring : World σ := { w with
    pools := w.pools.modify pool fun p => { p with retired := true } }
  have ran : (enabled pool settings).close w = (Pool.close pool >>= fun _ => Action.log
      { level := .info, logger := .pool, message := "DB connection pool closed." }) retiring := by
    have modified : Pool.modify pool (fun p => { p with retired := true }) w
        = (.ok (), retiring) := rfl
    rw [close, Action.bind_of_ok (Action.get_apply w), found]
    simp only [Option.map_some, Option.getD_some, unretired, Bool.false_eq_true, if_false]
    exact Action.bind_of_ok modified
  have counted : ((Pool.get? pool retiring).map (·.out)).getD 0 = p.out := by
    rw [Pool.get?] at found ⊢
    simp [retiring, found]
  rw [ran, Action.bind_apply, Pool.close_eq, counted]
  cases struck : (Surroundings.strike .closePool retiring.surroundings).1 with
  | none => exact ⟨_, _, rfl⟩
  | some strike => exact ⟨_, _, rfl⟩

theorem close_spec {closed : Bool} (has : m.HasPool closed w) :
    m.HasPool true (m.close w).2 ∧ (m.close w).2.database = w.database ∧
      closings (m.close w).2 = closings w + if m.isEnabled && !closed then 1 else 0 := by
  cases closed with
  | true =>
    rw [close_again has, Bool.not_true, Bool.and_false]
    exact ⟨has, rfl, rfl⟩
  | false =>
    cases m with
    | disabled => exact ⟨trivial, rfl, rfl⟩
    | enabled pool settings =>
      obtain ⟨p, found, _, unretired⟩ := has
      obtain ⟨surroundings, journal, ended⟩ := close_first found unretired settings
      rw [ended]
      refine ⟨⟨{ p with retired := true, closed := true }, ?_, rfl, rfl⟩, rfl, ?_⟩
      · rw [Pool.get?] at found
        simp [Pool.get?, found]
      · simp [closings, isEnabled, Event.isClosing]

/-- Once the pool is closed it stays so, and nothing is stored. -/
def Shut (m : Manager) (w w' : World σ) : Prop :=
  m.HasPool true w → m.HasPool true w' ∧ w'.database = w.database

omit [Surroundings σ] in
theorem Shut.of_eq {w' : World σ} (pools : w'.pools = w.pools)
    (database : w'.database = w.database) : m.Shut w w' :=
  fun has => ⟨has.of_pools pools, database⟩

omit [Surroundings σ] in
instance : IsPreorder (World σ) m.Shut where
  refl _ := .of_eq rfl rfl
  trans _ _ _ first last has :=
    have between := first has
    have after := last between.1
    ⟨after.1, after.2.trans between.2⟩

private theorem withConnection_shut (enabled : m.isEnabled = true) (use : Nat → Action σ α) :
    Action.Within m.Shut (m.withConnection use) := by
  intro w has
  obtain ⟨fault, events, trace, refused, _⟩ := acquire_closed enabled has
  rw [withConnection_refused refused]
  exact ⟨has.of_pools rfl, rfl⟩

end Manager

/-- An operation on a closed pool stores nothing. -/
theorem Operation.perform_shut {m : Manager} (enabled : m.isEnabled = true) (op : Operation)
    (policy : Policy) : Action.Within m.Shut (op.perform m policy : Action σ Answer) :=
  Operation.perform_within
    (fun remarks => .of_eq remarks.idle.pools remarks.idle.database)
    (fun _ _ => .of_eq rfl rfl) (fun _ => m.withConnection_shut enabled _) op policy

theorem Operation.perform_unclosing (m : Manager) (op : Operation) (policy : Policy) :
    Action.Within Unclosing (op.perform m policy : Action σ Answer) :=
  Operation.perform_within
    (fun remarks => by obtain ⟨entries, rfl⟩ := remarks; rfl)
    (fun _ _ => rfl) (fun framed => m.withConnection_framed (Batch.block_framed framed)) op policy

/-- The next request for a connection in a batch meets no fault but that of the pool, and the clock
shows how long it takes. -/
structure Surroundings.Undisturbed (s : σ) : Prop where
  unstruck : (strike .takeConnection (tick s).2).1 = none
  shown : ∃ millis, Stopwatch.millis
    ⟨(tick s).1, (tick (strike .takeConnection (tick s).2).2).1⟩ = .ok millis

section

variable {m : Manager} {w : World σ} (enabled : m.isEnabled = true) (has : m.HasPool true w)
  (undisturbed : Surroundings.Undisturbed w.surroundings)

include enabled has undisturbed

/-- A tolerant batch on a closed pool tells that the pool is closed. -/
theorem Batch.run_closed {work : Nat → Action σ α} {finish : BatchResult × Option α → Action σ β}
    {answer : BatchResult × Option α → β} {tells : β → Prop} (finishes : Finishes finish answer)
    {operation : String} {attempted : Int} {details : List (String × Value)}
    (kept : ∀ summary, summary.Tells .closedPool → tells (answer (summary, none)))
    (journal : List LogEntry) :
    ∃ x, ((run m operation attempted .tolerant details work >>= finish) { w with journal }).1
      = .ok x ∧ tells x := by
  let begun := Surroundings.tick w.surroundings
  let leased := m.withConnection (block work) { w with surroundings := begun.2, journal }
  let ended := Surroundings.tick leased.2.surroundings
  have ran : (run m operation attempted .tolerant details work >>= finish) { w with journal }
      = (conclude operation attempted .tolerant details leased.1 ⟨begun.1, ended.1⟩ >>= finish)
        { leased.2 with surroundings := ended.2 } := rfl
  have begins : m.HasPool true { w with surroundings := begun.2, journal } := has.of_pools rfl
  obtain ⟨fault, events, trace, refused, unstruck⟩ := Manager.acquire_closed enabled begins
  rw [unstruck undisturbed.unstruck] at refused
  have failed : leased = _ := Manager.withConnection_refused refused
  obtain ⟨millis, shown⟩ := undisturbed.shown
  have measured : Stopwatch.millis ⟨begun.1, ended.1⟩ = .ok millis := by
    simp only [ended, failed]
    exact shown
  obtain ⟨summary, entry, telling, seconds, told⟩ :=
    conclude_tells (α := α) (rfl : Fault.closedPool.isError = true) measured operation attempted
      details { leased.2 with surroundings := ended.2 }
  rw [ran, show leased.1 = .error .closedPool by rw [failed], Action.bind_of_ok told]
  rcases finishes (summary, none) _ with ⟨p, irregular, _⟩ | ⟨answered, _⟩
  · rw [seconds] at irregular
    cases measured.symm.trans irregular
  · exact ⟨_, answered, kept summary telling⟩

namespace Store

theorem saveUsers_closed {users : List UserEntry} (some : users ≠ []) :
    ∃ summary, (saveUsers m users .tolerant w).1 = .ok summary ∧ summary.Tells .closedPool := by
  have present : (!m.isEnabled || users.isEmpty) = false := by simp [enabled, some]
  dsimp only [saveUsers]
  rw [present, if_neg Bool.false_ne_true, Batch.inform_bind]
  exact Batch.run_closed enabled has undisturbed (.finish fun _ => rfl) (fun _ told => told) _

theorem insertAverages_closed {entries : List (BucketKey × Averaged)} (some : entries ≠ [])
    (g : Granularity) :
    ∃ summary, (insertAverages m entries g .tolerant w).1 = .ok summary ∧
      summary.Tells .closedPool := by
  have present : (!m.isEnabled || entries.isEmpty) = false := by simp [enabled, some]
  dsimp only [insertAverages]
  rw [present, if_neg Bool.false_ne_true, Batch.inform_bind]
  exact Batch.run_closed enabled has undisturbed (.finish fun _ => rfl) (fun _ told => told) _

theorem selectPoints_closed (since limit : Int) (g : Granularity) :
    (selectPoints m since limit g .tolerant w).1 = .ok [] := by
  dsimp only [selectPoints]
  split
  · rfl
  · obtain ⟨points, answered, rfl⟩ := Batch.run_closed enabled has undisturbed
      (Finishes.pure fun batch => batch.2.getD []) (fun _ _ => (rfl : _ = [])) w.journal
    exact answered

theorem purge_closed {now : Option Moment} {entries : List (Granularity × Int)}
    (found : cutoffs (now.getD (Surroundings.now w.surroundings)) = .ok entries) :
    ∃ summary, (purge m now .tolerant w).1 = .ok summary ∧ summary.Tells .closedPool ∧
      summary.removed = some [(.minute, 0), (.hourly, 0)] := by
  have zeros := removed_zeros found
  rw [purge_apply, if_pos enabled]
  dsimp only [purgeAt]
  have taken : (Action.ofExcept ((cutoffs (now.getD (Surroundings.now w.surroundings))).mapError
      Fault.problem) : Action σ (List (Granularity × Int))) w = (.ok entries, w) := by
    rw [found]
    rfl
  rw [Action.bind_of_ok taken, Batch.inform_bind]
  refine Batch.run_closed enabled has undisturbed (.finish ?_) ?_ _
  · exact fun _ => rfl
  · rintro summary ⟨_, told, named⟩
    exact ⟨⟨congrArg removedRows zeros, told, named⟩, congrArg some zeros⟩

theorem executeSql_closed (sql : String) :
    ∃ summary, (executeSql m sql .tolerant w).1 = .ok summary ∧ summary.Tells .closedPool :=
  Batch.run_closed enabled has undisturbed (Finishes.pure fun batch => batch.1)
    (fun _ told => told) w.journal

end Store

/-- The operations that have something to do at a given moment. The cutoffs of a purge have to be
instants that can be told. -/
def Operation.HasTask (present : Moment) : Operation → Prop
  | .saveUsers users => users ≠ []
  | .insertAverages entries _ => entries ≠ []
  | .purge now => ∃ entries, Store.cutoffs (now.getD present) = .ok entries
  | .selectPoints .. | .executeSql _ => True

/-- A tolerant operation on a closed pool tells that the pool is closed. -/
theorem Operation.perform_closed {op : Operation}
    (task : op.HasTask (Surroundings.now w.surroundings)) :
    ∃ answer, (op.perform m .tolerant w).1 = .ok answer ∧ op.Tells .closedPool answer := by
  cases op with
  | saveUsers users =>
    obtain ⟨summary, answered, told⟩ := Store.saveUsers_closed enabled has undisturbed task
    exact ⟨_, Action.bind_pure_ok answered _, summary, rfl, told⟩
  | insertAverages entries g =>
    obtain ⟨summary, answered, told⟩ := Store.insertAverages_closed enabled has undisturbed task g
    exact ⟨_, Action.bind_pure_ok answered _, summary, rfl, told⟩
  | selectPoints since limit g =>
    have answered := Store.selectPoints_closed enabled has undisturbed since limit g
    exact ⟨_, Action.bind_pure_ok answered _, rfl⟩
  | purge now =>
    obtain ⟨entries, found⟩ := task
    obtain ⟨summary, answered, told⟩ := Store.purge_closed enabled has undisturbed found
    exact ⟨_, Action.bind_pure_ok answered _, summary, rfl, told⟩
  | executeSql sql =>
    obtain ⟨summary, answered, told⟩ := Store.executeSql_closed enabled has undisturbed sql
    exact ⟨_, Action.bind_pure_ok answered _, summary, rfl, told⟩

end

end

end BucketStore
