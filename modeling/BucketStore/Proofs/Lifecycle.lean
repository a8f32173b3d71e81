import BucketStore.Proofs.Closing
import BucketStore.Proofs.ConnectionProtocol

/-!
The life of a manager. Whether it is enabled is decided when it is made, and a disabled one never
touches a pool. The pool of an enabled one is closed once, by the first call that asks for it. From
then on nothing is handed out, and only a scope that is still open can change what is stored.
-/

namespace BucketStore

variable {σ α : Type}

/-- What a client can ask of a manager and of a store over it. -/
inductive Move where
  | step (step : Step)
  | close
  | isEnabled

def Move.isClose : Move → Bool
  | .close => true
  | _ => false

/-- What a client is told. -/
inductive Reply where
  | answer (outcome : Except Fault Answer)
  | connection (outcome : Except Fault Nat)
  | done (outcome : Except Fault Unit)
  | flag (enabled : Bool)

namespace Client

variable [Surroundings σ]

def move (m : Manager) (c : Client σ) : Move → Client σ
  | .step step => c.step m step
  | .close => { c with world := (m.close c.world).2 }
  | .isEnabled => c

/-- What a client is told when it makes a move. -/
def reply (m : Manager) (c : Client σ) : Move → Reply
  | .step (.operate op policy) => .answer (op.perform m policy c.world).1
  | .step .enter => .connection (m.acquire c.world).1
  | .step (.use connection use) =>
    .done (if connection ∈ c.held then (use.perform connection c.world).1 else .ok ())
  | .step (.leave connection faulted) =>
    .done (if connection ∈ c.held then (m.leave connection faulted c.world).1 else .ok ())
  | .close => .done (m.close c.world).1
  | .isEnabled => .flag m.isEnabled

def play (m : Manager) (c : Client σ) (moves : List Move) : Client σ :=
  moves.foldl (move m) c

end Client

/-! ### The manager's pool -/

namespace Manager

variable [Surroundings σ] {s : DatabaseSettings} {m : Manager} {w w' : World σ}

private theorem openPoolOnce_opens {pool : Pool.Id} (ran : openPoolOnce s w = (.ok pool, w')) :
    (enabled pool s).HasPool false w' := by
  have once := ran
  rw [openPoolOnce] at once
  obtain ⟨conninfo, w₁, checked, -⟩ := Action.bind_eq_ok once
  have usable : s.conninfo = .ok conninfo := congrArg Prod.fst checked
  rw [openPoolOnce_apply usable] at ran
  cases escaped : (Pool.tryOutcome w.surroundings).1 with
  | some fault =>
    rw [escaped] at ran
    cases ran
  | none =>
    rw [escaped] at ran
    cases ran
    exact ⟨{ Pool.fresh s with closed := false }, by simp [Pool.get?], rfl, rfl⟩

private theorem openPool_opens {retry : Retry} {made left : Nat} {pool : Pool.Id}
    (ran : openPool s retry made left w = (.ok pool, w')) : (enabled pool s).HasPool false w' := by
  -- The pools of earlier tries stay in the world. The manager holds that of the last one.
  induction left generalizing made w with
  | zero => exact openPoolOnce_opens ran
  | succ left ih =>
    rw [openPool, Action.bind_apply, Action.attempt_apply] at ran
    rcases once : openPoolOnce s w with ⟨fault | opened, w₁⟩
    · rw [once] at ran
      dsimp only at ran
      split at ran
      · obtain ⟨pause, w₂, _, ran⟩ := Action.bind_eq_ok ran
        obtain ⟨spent, w₃, _, ran⟩ := Action.bind_eq_ok ran
        split at ran
        · cases ran
        · obtain ⟨_, w₄, _, ran⟩ := Action.bind_eq_ok ran
          exact ih ran
      · cases ran
    · rw [once] at ran
      cases ran
      exact openPoolOnce_opens once

/-- A manager that is made enabled holds an open pool. -/
theorem make_hasPool {source : Option (List (String × Value))} {retry : Retry}
    (made : make source retry w = (.ok m, w')) : m.HasPool false w' := by
  rw [make] at made
  obtain ⟨found, w₁, _, made⟩ := Action.bind_eq_ok made
  cases found with
  | none =>
    cases made
    trivial
  | some settings =>
    obtain ⟨_, w₂, _, made⟩ := Action.bind_eq_ok made
    obtain ⟨_, w₃, _, made⟩ := Action.bind_eq_ok made
    obtain ⟨_, w₄, _, made⟩ := Action.bind_eq_ok made
    rw [Action.bind_apply, Action.attempt_apply] at made
    rcases opened : openPool settings retry 0 (max 1 retry.limit) w₄ with ⟨fault | pool, w₅⟩
    · rw [opened] at made
      dsimp only at made
      split at made
      · cases made
        trivial
      · cases made
    · rw [opened] at made
      cases made
      exact (openPool_opens opened).of_pools rfl

end Manager

namespace Client

variable [Surroundings σ] {m : Manager} {c : Client σ}

private theorem step_enter_world : (c.step m .enter).world = (m.acquire c.world).2 := by
  rcases acquired : m.acquire c.world with ⟨fault | connection, w⟩ <;> simp [step, acquired]

/-- A step leaves the pool open or closed as it is. -/
theorem step_hasPool {closed : Bool} (has : m.HasPool closed c.world) (step : Step) :
    m.HasPool closed (c.step m step).world := by
  cases step with
  | operate op policy =>
    obtain ⟨_, effect⟩ := op.perform_effect m policy c.world
    exact has.of_pools effect.pools
  | enter =>
    rw [step_enter_world]
    obtain ⟨_, _, ⟨_, _, _, pools⟩ | ⟨_, _, _, _, _, _, granted⟩⟩ := m.acquire_cases c.world
    · exact has.of_pools pools
    · exact has.of_modify granted.pools fun _ => ⟨rfl, rfl⟩
  | use connection use =>
    dsimp only [Client.step]
    split
    · obtain ⟨_, confined, _⟩ := use.perform_spec connection c.world
      exact has.of_pools confined.pools
    · exact has
  | leave connection faulted =>
    dsimp only [Client.step]
    split
    · cases m with
      | disabled => trivial
      | enabled pool settings =>
        have left := Manager.leave_spec pool settings connection faulted c.world
        exact has.of_modify left.pools fun _ => ⟨rfl, rfl⟩
    · exact has

end Client

private theorem Use.perform_framed [Surroundings σ] {R : World σ → World σ → Prop} [Frame R]
    (id : Nat) (use : Use) : Action.Within R (use.perform id : Action σ Unit) := by
  cases use with
  | cursor => exact Connection.touch_framed id _
  | execute sql => exact Connection.execute_framed id sql
  | select g since limit => exact .bind (Connection.select_framed id g since limit) fun _ => .pure _
  | deleteUntil g cutoff => exact .bind (Connection.deleteUntil_framed id g cutoff) fun _ => .pure _
  | upsertUsers users => exact Connection.upsertUsers_framed id users
  | insertRows g rows => exact Connection.insertRows_framed id g rows
  | commit => exact Connection.commit_framed id

namespace Client

variable [Surroundings σ] {m : Manager} {c : Client σ}

private theorem step_unclosing (step : Step) : Unclosing c.world (c.step m step).world := by
  cases step with
  | operate op policy => exact op.perform_unclosing m policy c.world
  | enter =>
    rw [step_enter_world]
    exact m.acquire_framed c.world
  | use connection use =>
    dsimp only [Client.step]
    split
    · exact use.perform_framed connection c.world
    · rfl
  | leave connection faulted =>
    dsimp only [Client.step]
    split
    · exact m.leave_framed connection faulted c.world
    · rfl

private theorem move_spec {closed : Bool} (has : m.HasPool closed c.world) (move : Move) :
    m.HasPool (closed || move.isClose) (c.move m move).world ∧
      closings (c.move m move).world
        = closings c.world + if m.isEnabled && !closed && move.isClose then 1 else 0 := by
  cases move with
  | step step =>
    simp only [Move.isClose, Bool.or_false, Bool.and_false]
    exact ⟨step_hasPool has step, step_unclosing step⟩
  | close =>
    simp only [Move.isClose, Bool.or_true, Bool.and_true]
    obtain ⟨shut, _, count⟩ := m.close_spec has
    exact ⟨shut, count⟩
  | isEnabled =>
    simp only [Move.isClose, Bool.or_false, Bool.and_false]
    exact ⟨has, rfl⟩

/-- The pool is closed by the first call that asks for it, and only once. -/
theorem play_spec {closed : Bool} (has : m.HasPool closed c.world) (moves : List Move) :
    m.HasPool (closed || moves.any Move.isClose) (c.play m moves).world ∧
      closings (c.play m moves).world
        = closings c.world + if m.isEnabled && !closed && moves.any Move.isClose then 1 else 0 := by
  induction moves generalizing c closed with
  | nil => simpa [play] using has
  | cons move rest ih =>
    obtain ⟨between, first⟩ := move_spec has move
    obtain ⟨shut, later⟩ := ih between
    change m.HasPool _ ((c.move m move).play m rest).world ∧
      closings ((c.move m move).play m rest).world = _
    rw [List.any_cons, ← Bool.or_assoc, later, first, Nat.add_assoc]
    refine ⟨shut, congrArg (closings c.world + ·) ?_⟩
    cases m.isEnabled <;> cases closed <;> cases move.isClose <;> simp

end Client

/-! ### Disabled managers -/

/-- Nothing happened between store and driver, not even a request. -/
structure Rests (w w' : World σ) : Prop extends Idle w w' where
  events : w'.events = w.events

instance : IsPreorder (World σ) Rests where
  refl w := ⟨refl_of Idle w, rfl⟩
  trans _ _ _ first last :=
    ⟨trans_of Idle first.toIdle last.toIdle, last.events.trans first.events⟩

/-- An operation that executes a statement as it is given. -/
def Operation.IsFree : Operation → Prop
  | .executeSql _ => True
  | _ => False

/-- An answer of an operation that did nothing. -/
def Answer.IsNothing : Answer → Prop
  | .summary r => r.skipped = true ∧ r.rows = 0 ∧ r.error = none
  | .points found => found = []

section

variable [Surroundings σ]

private theorem Operation.perform_disabled {op : Operation} (bound : ¬op.IsFree) (policy : Policy)
    (w : World σ) :
    ∃ answer, op.perform .disabled policy w = (.ok answer, w) ∧ answer.IsNothing := by
  cases op with
  | saveUsers users => exact ⟨_, rfl, rfl, rfl, rfl⟩
  | insertAverages entries g => exact ⟨_, rfl, rfl, rfl, rfl⟩
  | selectPoints since limit g => exact ⟨_, rfl, rfl⟩
  | purge now => exact ⟨_, rfl, rfl, rfl, rfl⟩
  | executeSql sql => exact absurd trivial bound

private theorem Operation.perform_rests (op : Operation) (policy : Policy) :
    Action.Within Rests (op.perform .disabled policy : Action σ Answer) := by
  refine Operation.perform_within ?_ (fun w s => ⟨.of_clock w s, rfl⟩) (fun _ w => ?_) op policy
  · rintro w _ ⟨entries, rfl⟩
    exact ⟨Remarks.idle ⟨entries, rfl⟩, rfl⟩
  · have refused : Manager.disabled.acquire w = (.error _, w) := rfl
    rw [Manager.withConnection_refused refused]
    exact refl_of Rests w

namespace Client

variable {m : Manager} {c : Client σ}

private theorem move_rests (none : c.held = []) (move : Move) :
    Rests c.world (c.move .disabled move).world ∧ (c.move .disabled move).held = [] := by
  have unheld (connection : Nat) : connection ∉ c.held := by simp [none]
  cases move with
  | step step =>
    cases step with
    | operate op policy => exact ⟨op.perform_rests policy c.world, none⟩
    | enter => exact ⟨refl_of Rests c.world, none⟩
    | use connection use =>
      rw [Client.move, step, if_neg (unheld connection)]
      exact ⟨refl_of Rests c.world, none⟩
    | leave connection faulted =>
      rw [Client.move, step, if_neg (unheld connection)]
      exact ⟨refl_of Rests c.world, none⟩
  | close => exact ⟨refl_of Rests c.world, none⟩
  | isEnabled => exact ⟨refl_of Rests c.world, none⟩

private theorem play_rests (none : c.held = []) (moves : List Move) :
    Rests c.world (c.play .disabled moves).world := by
  induction moves generalizing c with
  | nil => exact refl_of Rests c.world
  | cons move rest ih =>
    obtain ⟨first, none'⟩ := move_rests none move
    exact trans_of Rests first (ih none')

/-! ### Closed managers -/

/-- A commit on the connection of an open scope. -/
def Commits (c : Client σ) (move : Move) : Prop :=
  ∃ connection ∈ c.held, move = .step (.use connection .commit)

/-- Once the pool is closed no scope is entered, and only a scope that is open can change what is
stored. -/
theorem move_shut (enabled : m.isEnabled = true) (has : m.HasPool true c.world) {move : Move}
    (spares : ¬c.Commits move) :
    (c.move m move).world.database = c.world.database ∧ (c.move m move).held ⊆ c.held := by
  cases move with
  | step step =>
    cases step with
    | operate op policy => exact ⟨(op.perform_shut enabled policy c.world has).2, fun _ => id⟩
    | enter =>
      obtain ⟨fault, events, trace, refused, _⟩ := Manager.acquire_closed enabled has
      rw [Client.move, step, refused]
      exact ⟨rfl, fun _ => id⟩
    | use connection use =>
      rw [Client.move, step]
      split
      · rename_i held
        have apart : use ≠ .commit := fun commit => spares ⟨connection, held, by rw [commit]⟩
        exact ⟨(use.perform_uses connection apart c.world).database, fun _ => id⟩
      · exact ⟨rfl, fun _ => id⟩
    | leave connection faulted =>
      rw [Client.move, step]
      split
      · cases m with
        | disabled => cases enabled
        | enabled pool settings =>
          have left := Manager.leave_spec pool settings connection faulted c.world
          exact ⟨left.database, List.erase_subset⟩
      · exact ⟨rfl, fun _ => id⟩
  | close => exact ⟨(m.close_spec has).2.1, fun _ => id⟩
  | isEnabled => exact ⟨rfl, fun _ => id⟩

private theorem play_shut (enabled : m.isEnabled = true) (has : m.HasPool true c.world)
    {moves : List Move} (spares : ∀ move ∈ moves, ¬c.Commits move) :
    (c.play m moves).world.database = c.world.database := by
  induction moves generalizing c with
  | nil => rfl
  | cons move rest ih =>
    obtain ⟨kept, fewer⟩ := move_shut enabled has (spares move List.mem_cons_self)
    refine (ih (move_spec has move).1 fun later member => ?_).trans kept
    -- No scope is entered any more, so that what commits later would have committed now.
    rintro ⟨connection, held, commit⟩
    exact spares later (List.mem_cons_of_mem _ member) ⟨connection, fewer held, commit⟩

/-- A disabled manager serves a client with nothing: no request is made of a pool, no scope is
entered, and an operation does nothing unless it executes a free statement. -/
structure Unserved (m : Manager) (start : World σ) (c : Client σ) : Prop where
  rests : Rests start c.world
  enter : ∃ error, c.reply m (.step .enter) = .connection (.error error) ∧
    error.name = "StorageDisabledError"
  operate : ∀ (op : Operation) (policy : Policy), ¬op.IsFree →
    ∃ answer, c.reply m (.step (.operate op policy)) = .answer (.ok answer) ∧ answer.IsNothing
  close : c.reply m .close = .done (.ok ())

/-- A closed manager refuses a client: no scope is entered, operations tell of that if nothing else
keeps them from a connection, and nothing is stored any more but by the scopes that are open. -/
structure Refused (m : Manager) (c : Client σ) : Prop where
  enter : ∃ error, c.reply m (.step .enter) = .connection (.error error) ∧
    ((Surroundings.strike .takeConnection c.world.surroundings).1 = none →
      error.name = "ConnectionUnavailableError")
  operate : ∀ op : Operation, op.HasTask (Surroundings.now c.world.surroundings) →
    Surroundings.Undisturbed c.world.surroundings →
    ∃ error answer, c.reply m (.step (.operate op .tolerant)) = .answer (.ok answer) ∧
      op.Tells error answer ∧ error.name = "ConnectionUnavailableError"
  stored : ∀ later, (∀ move ∈ later, ¬c.Commits move) →
    (c.play m later).world.database = c.world.database
  close : c.reply m .close = .done (.ok ())

/-- How a manager serves a client that has made some moves. -/
structure Served (m : Manager) (start : World σ) (moves : List Move) (c : Client σ) : Prop where
  enabled : c.reply m .isEnabled = .flag m.isEnabled
  count : closings c.world
    = closings start + if m.isEnabled && moves.any Move.isClose then 1 else 0
  disabled : m.isEnabled = false → c.Unserved m start
  closed : m.isEnabled = true → moves.any Move.isClose = true → c.Refused m

private theorem play_unserved (start : World σ) (moves : List Move) :
    (Client.play .disabled ⟨start, []⟩ moves).Unserved .disabled start := by
  refine ⟨play_rests (c := ⟨start, []⟩) rfl moves, ⟨_, rfl, rfl⟩, fun op policy bound => ?_, rfl⟩
  obtain ⟨answer, ran, nothing⟩ :=
    op.perform_disabled bound policy (Client.play .disabled ⟨start, []⟩ moves).world
  exact ⟨answer, by rw [reply, ran], nothing⟩

private theorem refused_of_hasPool (enabled : m.isEnabled = true) (has : m.HasPool true c.world) :
    c.Refused m := by
  refine ⟨?_, fun op task undisturbed => ?_, fun later spares => play_shut enabled has spares, ?_⟩
  · obtain ⟨fault, events, trace, refused, unstruck⟩ := Manager.acquire_closed enabled has
    refine ⟨fault, by rw [reply, refused], fun none => ?_⟩
    rw [unstruck none]
    rfl
  · obtain ⟨answer, answered, told⟩ := Operation.perform_closed enabled has undisturbed task
    exact ⟨.closedPool, answer, by rw [reply, answered], told, rfl⟩
  · rw [reply, Manager.close_again has]

end Client

/-- For every manager that was made, and all that a client asks of it and of a store over it:
whether it is enabled does not change; its pool is closed once, by the first call that asks for it;
a disabled one does nothing at all; and a closed one refuses, and nothing is stored any more but by
the scopes that are open. -/
theorem Manager.make_serves {source : Option (List (String × Value))} {retry : Retry}
    {before start : World σ} {m : Manager} (made : make source retry before = (.ok m, start))
    (moves : List Move) :
    (Client.play m ⟨start, []⟩ moves).Served m start moves := by
  have has : m.HasPool false start := make_hasPool made
  obtain ⟨shut, count⟩ := Client.play_spec (c := ⟨start, []⟩) has moves
  refine ⟨rfl, ?_, fun disabled => ?_, fun enabled closed => ?_⟩
  · rwa [Bool.not_false, Bool.and_true] at count
  · cases m with
    | disabled => exact Client.play_unserved start moves
    | enabled pool settings => cases disabled
  · rw [closed, Bool.false_or] at shut
    exact Client.refused_of_hasPool enabled shut

end

namespace Schedule

/-- Surroundings in which nothing fails but the closing of pools. -/
def stuck : World Schedule :=
  { surroundings :=
      { rules := [{ kind := .closePool, fault := .driver .operational "stuck" }],
        now := { clock := 0 } } }

/-- A scope is entered, and the manager closed twice before it is left. -/
def closing : List Move :=
  [.step .enter, .close, .isEnabled, .close, .step (.leave 0 false)]

end Schedule

/-- The closing fails, and counts: the pool is not closed again, and a statement is refused. -/
theorem Manager.make_serves_stuck : ∃ m start,
    make (some [("url", .text "postgresql://h/db")]) {} Schedule.stuck = (.ok m, start) ∧
      m.isEnabled = true ∧ closings start = 0 ∧
      closings (Client.play m ⟨start, []⟩ Schedule.closing).world = 1 ∧
      ∃ error answer,
        (Client.play m ⟨start, []⟩ Schedule.closing).reply m
          (.step (.operate (.executeSql "SELECT 1") .tolerant)) = .answer (.ok answer) ∧
        (Operation.executeSql "SELECT 1").Tells error answer ∧
        error.name = "ConnectionUnavailableError" := by
  let making := make (some [("url", .text "postgresql://h/db")]) {} Schedule.stuck
  -- The run is evaluated once, for all the facts that the theorem asks for.
  have facts : (making.1.toOption.any fun m =>
      let s := (Client.play m ⟨making.2, []⟩ Schedule.closing).world.surroundings
      let asked := Surroundings.strike .takeConnection (Surroundings.tick s).2
      let shown := Stopwatch.millis ⟨(Surroundings.tick s).1, (Surroundings.tick asked.2).1⟩
      m.isEnabled && closings making.2 == 0 && asked.1.isNone && shown.isOk) = true := by
    decide +kernel
  rcases made : making with ⟨_ | m, start⟩
  · rw [made] at facts
    cases facts
  · rw [made] at facts
    simp only [Except.toOption, Option.any_some, Bool.and_eq_true, beq_iff_eq,
      Option.isNone_iff_eq_none] at facts
    obtain ⟨⟨⟨enabled, unclosed⟩, unstruck⟩, regular⟩ := facts
    obtain ⟨-, count, -, closed⟩ := make_serves made Schedule.closing
    have refused := closed enabled rfl
    refine ⟨m, start, made, enabled, unclosed, ?_, ?_⟩
    · rw [count, unclosed, enabled]
      rfl
    · refine refused.operate (.executeSql "SELECT 1") trivial ⟨unstruck, ?_⟩
      revert regular
      generalize Stopwatch.millis _ = millis
      intro regular
      cases millis with
      | ok n => exact ⟨n, rfl⟩
      | error p => cases regular

end BucketStore
