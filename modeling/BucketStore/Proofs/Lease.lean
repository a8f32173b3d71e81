import BucketStore.Pool.Manager
import BucketStore.Proofs.Usage

/-!
Leases: how a connection is taken, what a block does with it, and how it is given back. Whatever
fails on the way, a connection that was handed out is given back once, as the last contact with it.
-/

namespace BucketStore

variable {σ α : Type}

/-- One rollback of a connection where it is needed, and none elsewhere. -/
inductive Undoes (id : Nat) : Bool → List Touch → Prop where
  | rolledBack (fault : Option Fault) (closed : Bool) :
      Undoes id true [⟨.rollback, some id, fault, closed⟩]
  | spared : Undoes id false []

theorem Undoes.on {id : Nat} {needed : Bool} {touches : List Touch}
    (undone : Undoes id needed touches) : ∀ t ∈ touches, t.connection = some id := by
  intro t member
  cases undone with
  | rolledBack fault closed => rw [List.mem_singleton.mp member]
  | spared => cases member

theorem Undoes.made_eq_nil {id : Nat} {needed : Bool} {touches : List Touch}
    (undone : Undoes id needed touches) (contact : Contact) (apart : contact ≠ .rollback) :
    made contact touches = [] := by
  cases undone with
  | rolledBack fault closed => simp [made, apart.symm]
  | spared => rfl

/-- The entry of a connection that was handed out. -/
def Touch.handedOut (id : Nat) (closed : Bool) : Touch :=
  ⟨.takeConnection, some id, none, closed⟩

/-- The entry of a request for a connection that was refused. -/
def Touch.refused (fault : Fault) : Touch :=
  ⟨.takeConnection, none, some fault, false⟩

/-- The entry of a connection that was given back. -/
def Touch.givenBack (id : Nat) (fault : Option Fault) (closed : Bool) : Touch :=
  ⟨.returnConnection, some id, fault, closed⟩

/-- Contacts that try out a connection. -/
def Probe (id : Nat) (touches : List Touch) : Prop :=
  ∀ t ∈ touches, t.IsUse id

/-- The contacts of a request for a connection. The flag tells whether it was handed out; one that
was refused may have been tried out before. -/
inductive Request (id : Nat) : Bool → List Touch → Prop where
  | idle : Request id false []
  | refused {probe : List Touch} (probed : Probe id probe) (fault : Fault) :
      Request id false (probe ++ [.refused fault])
  | granted {probe : List Touch} (probed : Probe id probe) (closed : Bool) :
      Request id true (probe ++ [.handedOut id closed])

theorem Request.one {id : Nat} {granted : Bool} {touches : List Touch}
    (request : Request id granted touches) : ∀ t ∈ touches, ∀ other ∈ t.connection, other = id := by
  intro t member other there
  cases request with
  | idle => cases member
  | refused probed fault =>
    rcases List.mem_append.mp member with early | last
    · rw [(probed t early).1] at there
      exact (Option.some.inj there).symm
    · rw [List.mem_singleton.mp last] at there
      cases there
  | granted probed closed =>
    rcases List.mem_append.mp member with early | last
    · rw [(probed t early).1] at there
      exact (Option.some.inj there).symm
    · rw [List.mem_singleton.mp last] at there
      exact (Option.some.inj there).symm

/-- A request makes no contact of any other kind. -/
theorem Request.made_eq_nil {id : Nat} {granted : Bool} {touches : List Touch}
    (request : Request id granted touches) (contact : Contact) (other : contact.isUse = false)
    (apart : contact ≠ .takeConnection) : made contact touches = [] := by
  have last (t : Touch) (taking : t.contact = .takeConnection) : made contact [t] = [] := by
    simp [made, taking, apart.symm]
  cases request with
  | idle => rfl
  | refused probed fault => rw [made_append, made_of_uses contact other probed, last _ rfl]; rfl
  | granted probed closed => rw [made_append, made_of_uses contact other probed, last _ rfl]; rfl

namespace Connection

private theorem setAutocommit_uses (id : Nat) (on : Bool) :
    Action.Within (Uses id) (setAutocommit id on : Action σ Unit) :=
  .bind (record_uses id _) fun _ => modify_uses id _ fun _ => rfl

private theorem setAutocommit_stands {id : Nat} {autocommit : Bool} {changes : List Change}
    {w : World σ} (on : Bool) (stands : Stands id autocommit changes w) :
    Stands id on changes (setAutocommit id on w).2 := by
  obtain ⟨c, found, _, staged⟩ := stands
  have changed := get?_modify id (fun c : Connection => { c with autocommit := on })
    (Action.record (.autocommit on) w).2
  have same : get? id (Action.record (.autocommit on) w).2 = some c := found
  rw [same] at changed
  exact ⟨_, changed, rfl, staged⟩

variable [Surroundings σ]

/-- A free statement outside a transaction leaves nothing behind. -/
theorem runFree_snd {id : Nat} {changes : List Change} {w : World σ} (sql : String)
    (stands : Stands id true changes w) : (runFree id sql w).2 = w := by
  obtain ⟨c, found, mode, _⟩ := stands
  rw [runFree, Action.bind_of_ok (Action.get_apply w)]
  cases Surroundings.refusal? w.surroundings sql with
  | some fault => rfl
  | none => simp [found, mode]

private theorem execute_stands {id : Nat} {changes : List Change} {w : World σ} (sql : String)
    (stands : Stands id true changes w) : Stands id true changes (execute id sql w).2 := by
  obtain ⟨fault, met, _⟩ := touch_spec id (.execute sql) (Action.record (.execute sql none) w).2
  have entered : Stands id true changes (enter id sql none w).2 := met.of_record.stands stands
  rcases ran : enter id sql none w with ⟨fault | _, w₁⟩ <;> rw [ran] at entered
  · have ended : execute id sql w = (.error fault, w₁) := Action.bind_of_error ran
    rw [ended]
    exact entered
  · have ended : execute id sql w = runFree id sql w₁ := Action.bind_of_ok ran
    rw [ended, runFree_snd sql entered]
    exact entered

private theorem tryOut_uses (id : Nat) (query : String) :
    Action.Within (Uses id) (tryOut id query : Action σ Unit) :=
  .bind .get fun _ => .bind (setAutocommit_uses id true) fun _ =>
    .ensuring (Stages.execute id query).uses (setAutocommit_uses id _)

/-- Trying a connection out leaves it in its mode and with its stage. -/
theorem tryOut_stands {id : Nat} {autocommit : Bool} {changes : List Change} {w : World σ}
    (query : String) (stands : Stands id autocommit changes w) :
    Stands id autocommit changes (tryOut id query w).2 := by
  have mode : ((get? id w).map (·.autocommit)).getD false = autocommit := by
    obtain ⟨c, found, mode, _⟩ := stands
    simp [found, mode]
  have ran : tryOut id query w = Action.ensuring (execute id query)
      (setAutocommit id (((get? id w).map (·.autocommit)).getD false))
      (setAutocommit id true w).2 :=
    rfl
  rw [ran, Action.ensuring_snd, mode]
  exact setAutocommit_stands _ (execute_stands query (setAutocommit_stands true stands))

private theorem rollbackQuietly_spec (id : Nat) (w : World σ) :
    ∃ undo, Confined id w (rollbackQuietly id w).2 ∧
      (rollbackQuietly id w).2.database = w.database ∧
      (rollbackQuietly id w).2.trace = w.trace ++ undo ∧ Undoes id (!hasClosed id w) undo := by
  cases closed : hasClosed id w with
  | true =>
    have ran : rollbackQuietly id w = (.ok (), w) := by
      simp [rollbackQuietly, Action.bind_apply, closed]
    rw [ran]
    exact ⟨[], .refl id w, rfl, by simp, .spared⟩
  | false =>
    obtain ⟨fault, confined, database, traced⟩ := rollback_spec id w
    have undone : Undoes id true [⟨.rollback, some id, fault, hasClosed id (rollback id w).2⟩] :=
      .rolledBack fault _
    rcases ran : rollback id w with ⟨failure | _, w₁⟩ <;>
      rw [ran] at confined database traced undone
    · by_cases driver : failure.isDriver = true
      · have quiet : rollbackQuietly id w = (.ok (), { w₁ with journal := w₁.journal ++ [
            { level := .debug, logger := .pool,
              message := "Rollback failed on returned connection: " ++ failure.message }] }) := by
          simp [rollbackQuietly, Action.bind_apply, closed, ran, driver, Action.log]
        rw [quiet]
        exact ⟨_, ⟨confined.pools, confined.journal.trans (List.prefix_append ..),
          confined.length, confined.others⟩, database, traced, undone⟩
      · have loud : rollbackQuietly id w = (.error failure, w₁) := by
          simp [rollbackQuietly, Action.bind_apply, closed, ran, driver]
        rw [loud]
        exact ⟨_, confined, database, traced, undone⟩
    · have quiet : rollbackQuietly id w = (.ok (), w₁) := by
        simp [rollbackQuietly, Action.bind_apply, closed, ran]
      rw [quiet]
      exact ⟨_, confined, database, traced, undone⟩

end Connection

/-- What asking for a connection leaves alone, and what it adds to the trace. -/
structure Asked (w : World σ) (touches : List Touch) (w' : World σ) : Prop where
  database : w'.database = w.database
  journal : w.journal <+: w'.journal
  grown : w.connections.length ≤ w'.connections.length
  kept : ∀ other < w.connections.length, w'.connections[other]? = w.connections[other]?
  trace : w'.trace = w.trace ++ touches
  known : Known w'.connections.length touches

/-- A refusal before anything was tried. -/
theorem Asked.untouched (w : World σ) (s : σ) : Asked w [] { w with surroundings := s } :=
  ⟨rfl, List.prefix_rfl, Nat.le_refl _, fun _ _ => rfl, (List.append_nil _).symm, by simp [Known]⟩

/-- A connection of a pool was handed out: a new one, with nothing staged. -/
structure Granted (pool : Pool.Id) (w w' : World σ) : Prop where
  there : pool < w.pools.length
  pools : w'.pools = w.pools.modify pool PoolState.lend
  length : w'.connections.length = w.connections.length + 1
  fresh : Connection.Waiting w.connections.length [] w'

namespace Pool

variable [Surroundings σ]

theorem touch_apply (contact : Contact) (w : World σ) :
    ∃ s, touch contact w = (.ok (), { w with surroundings := s }) ∨
      ∃ fault, touch contact w = (.error fault, { w with surroundings := s }) := by
  rcases asked : Surroundings.strike contact w.surroundings with ⟨strike | strike, s⟩
  · exact ⟨s, .inl (by simp [touch, Action.bind_apply, Action.ask_apply, asked])⟩
  · exact ⟨s, .inr ⟨strike.fault, by simp [touch, Action.bind_apply, Action.ask_apply, asked]⟩⟩

omit [Surroundings σ] in
/-- A world with one more connection, which may have been tried out. -/
theorem asked_of_uses {pool : Id} {w w₁ : World σ}
    (uses : Uses w.connections.length
      { w with connections := w.connections ++ [{ pool := pool }] } w₁) :
    ∃ probe, Probe w.connections.length probe ∧ Asked w probe w₁ ∧
      w₁.connections.length = w.connections.length + 1 := by
  obtain ⟨probe, traced, probed, _⟩ := uses.trace
  have length : w₁.connections.length = w.connections.length + 1 := by simpa using uses.length
  refine ⟨probe, probed, ⟨uses.database, uses.journal, by omega, ?_, traced,
    .of_one (one_of_on fun t member => (probed t member).1) (by omega)⟩, length⟩
  intro other earlier
  rw [uses.others other (by omega)]
  simp [List.getElem?_append_left earlier]

theorem provide_cases (pool : Id) (p : PoolState) (w : World σ) (there : pool < w.pools.length) :
    ∃ probe, Probe w.connections.length probe ∧ Asked w probe (provide pool p w).2 ∧
      ((∃ fault, (provide pool p w).1 = .error fault ∧ (provide pool p w).2.pools = w.pools) ∨
        (provide pool p w).1 = .ok w.connections.length ∧ Granted pool w (provide pool p w).2) := by
  let id := w.connections.length
  let made : World σ := { w with connections := w.connections ++ [{ pool := pool }] }
  let finish : Action σ Nat := do
    modify pool PoolState.lend
    return id
  have fresh : Connection.Waiting id [] made :=
    ⟨{ pool := pool }, by simp [Connection.get?, made, id], rfl, rfl⟩
  have granted : ∀ w₁, Uses id made w₁ → Connection.Waiting id [] w₁ →
      ∃ probe, Probe id probe ∧ Asked w probe (finish w₁).2 ∧ Granted pool w (finish w₁).2 := by
    intro w₁ uses waiting
    obtain ⟨probe, probed, asked, length⟩ := asked_of_uses uses
    refine ⟨probe, probed, ⟨asked.database, asked.journal, asked.grown, asked.kept, asked.trace,
      asked.known⟩, ⟨there, ?_, length, waiting⟩⟩
    exact congrArg (List.modify · pool PoolState.lend) uses.pools
  cases tries : Surroundings.triesOut w.surroundings with
  | false =>
    have ran : provide pool p w = finish made := by
      simp [provide, Action.bind_apply, tries, finish, made, id]
    obtain ⟨probe, probed, asked, granted⟩ := granted made (.refl id made) fresh
    rw [ran]
    exact ⟨probe, probed, asked, .inr ⟨rfl, granted⟩⟩
  | true =>
    have ran : provide pool p w = (Connection.tryOut id p.testQuery >>= fun _ => finish) made := by
      simp [provide, Action.bind_apply, tries, finish, made, id]
    have uses := Connection.tryOut_uses id p.testQuery made
    have waiting := Connection.tryOut_stands p.testQuery fresh
    rcases tried : Connection.tryOut id p.testQuery made with ⟨fault | _, w₁⟩ <;>
      rw [tried] at uses waiting
    · obtain ⟨probe, probed, asked, _⟩ := asked_of_uses uses
      rw [ran, Action.bind_of_error tried]
      exact ⟨probe, probed, asked, .inl ⟨fault, rfl, uses.pools⟩⟩
    · obtain ⟨probe, probed, asked, granted⟩ := granted w₁ uses waiting
      rw [ran, Action.bind_of_ok tried]
      exact ⟨probe, probed, asked, .inr ⟨rfl, granted⟩⟩

section

variable {pool : Id} {w w₁ : World σ} (touched : touch .takeConnection w = (.ok (), w₁))

include touched

theorem handOut_of_refusal {fault : Fault}
    (refused : ((get? pool w₁).getD { size := 0, testQuery := "" }).refusal? = some fault) :
    handOut pool w = (.error fault, w₁) := by
  rw [handOut, Action.bind_of_ok touched, Action.bind_of_ok (Action.get_apply w₁)]
  simp only [refused]
  rfl

theorem handOut_of_ready
    (ready : ((get? pool w₁).getD { size := 0, testQuery := "" }).refusal? = none) :
    handOut pool w = provide pool ((get? pool w₁).getD { size := 0, testQuery := "" }) w₁ := by
  rw [handOut, Action.bind_of_ok touched, Action.bind_of_ok (Action.get_apply w₁)]
  simp only [ready]

end

section

variable {pool : Id} {timeout : Float} {w w₁ : World σ}

theorem take_of_error {fault : Fault}
    (refused : handOut pool (Action.record (.take timeout) w).2 = (.error fault, w₁)) :
    take pool timeout w = (.error fault, { w₁ with trace := w₁.trace ++ [.refused fault] }) := by
  have recorded : Action.record (.take timeout) w
      = (.ok (), (Action.record (.take timeout) w).2) := rfl
  rw [take, Action.bind_of_ok recorded, Action.attempt_bind, refused]
  rfl

theorem take_of_ok {id : Nat}
    (handed : handOut pool (Action.record (.take timeout) w).2 = (.ok id, w₁)) :
    take pool timeout w = (.ok id, { w₁ with
      trace := w₁.trace ++ [.handedOut id (Connection.hasClosed id w₁)] }) := by
  have recorded : Action.record (.take timeout) w
      = (.ok (), (Action.record (.take timeout) w).2) := rfl
  rw [take, Action.bind_of_ok recorded, Action.attempt_bind, handed]
  rfl

end

theorem handOut_cases (pool : Id) (w : World σ) :
    ∃ probe, Probe w.connections.length probe ∧ Asked w probe (handOut pool w).2 ∧
      ((∃ fault, (handOut pool w).1 = .error fault ∧ (handOut pool w).2.pools = w.pools) ∨
        (handOut pool w).1 = .ok w.connections.length ∧ Granted pool w (handOut pool w).2) := by
  obtain ⟨s, touched | ⟨fault, touched⟩⟩ := touch_apply .takeConnection w
  · let asking : World σ := { w with surroundings := s }
    let p := (get? pool asking).getD { size := 0, testQuery := "" }
    cases refused : p.refusal? with
    | some fault =>
      rw [handOut_of_refusal touched refused]
      exact ⟨[], by simp [Probe], .untouched w s, .inl ⟨fault, rfl, rfl⟩⟩
    | none =>
      have there : pool < w.pools.length := by
        apply Nat.lt_of_not_le
        intro missing
        have none : get? pool asking = none := List.getElem?_eq_none missing
        simp [p, none, PoolState.refusal?] at refused
      rw [handOut_of_ready touched refused]
      obtain ⟨probe, probed, asked, ended⟩ := provide_cases pool p asking there
      refine ⟨probe, probed,
        ⟨asked.database, asked.journal, asked.grown, asked.kept, asked.trace, asked.known⟩, ?_⟩
      rcases ended with failed | ⟨handed, granted⟩
      · exact .inl failed
      · exact .inr ⟨handed, ⟨granted.there, granted.pools, granted.length, granted.fresh⟩⟩
  · have ran : handOut pool w = (.error fault, { w with surroundings := s }) :=
      Action.bind_of_error touched
    rw [ran]
    exact ⟨[], by simp [Probe], .untouched w s, .inl ⟨fault, rfl, rfl⟩⟩

/-- A request is kept in the trace with the connection that it hands out or with its refusal. -/
theorem take_cases (pool : Id) (timeout : Float) (w : World σ) :
    let taken := take pool timeout w
    ∃ touches, Asked w touches taken.2 ∧
      ((∃ fault, taken.1 = .error fault ∧ Request w.connections.length false touches ∧
          taken.2.pools = w.pools) ∨
        taken.1 = .ok w.connections.length ∧ Request w.connections.length true touches ∧
          Connection.hasClosed w.connections.length taken.2 = closedAfter false touches ∧
          Granted pool w taken.2) := by
  let id := w.connections.length
  let asking : World σ := (Action.record (.take timeout) w).2
  obtain ⟨probe, probed, asked, ended⟩ := handOut_cases pool asking
  rcases ended with ⟨fault, failed, pools⟩ | ⟨handed, granted⟩
  · have request : Request id false (probe ++ [.refused fault]) := .refused probed fault
    have refused : handOut pool asking = (.error fault, (handOut pool asking).2) :=
      Prod.ext failed rfl
    rw [take_of_error refused]
    refine ⟨probe ++ [.refused fault],
      ⟨asked.database, asked.journal, asked.grown, asked.kept, ?_, ?_⟩,
      .inl ⟨fault, rfl, request, pools⟩⟩
    · rw [← List.append_assoc]
      exact congrArg (· ++ [Touch.refused fault]) asked.trace
    · exact asked.known.append (by simp [Known, Touch.refused])
  · let closed := Connection.hasClosed id (handOut pool asking).2
    have request : Request id true (probe ++ [.handedOut id closed]) := .granted probed closed
    have given : handOut pool asking = (.ok id, (handOut pool asking).2) := Prod.ext handed rfl
    rw [take_of_ok given]
    refine ⟨probe ++ [.handedOut id closed],
      ⟨asked.database, asked.journal, asked.grown, asked.kept, ?_, .of_one request.one ?_⟩,
      .inr ⟨rfl, request, ?_,
        ⟨granted.there, granted.pools, granted.length, granted.fresh⟩⟩⟩
    · rw [← List.append_assoc]
      exact congrArg (· ++ [Touch.handedOut id closed]) asked.trace
    · exact Nat.lt_of_lt_of_eq (Nat.lt_succ_self _) granted.length.symm
    · rw [closedAfter_append]
      rfl

/-- A connection is counted as back and given back, whether that fails or not. -/
theorem giveBack_spec (pool : Id) (id : Nat) (w : World σ) :
    ∃ fault, Touched id .returnConnection fault
        { w with pools := w.pools.modify pool PoolState.takeBack } (giveBack pool id w).2 ∧
      (giveBack pool id w).1 = match fault with
        | none => .ok ()
        | some fault => .error fault := by
  let announced : World σ := { (Action.record (.giveBack id) w).2 with
    pools := w.pools.modify pool PoolState.takeBack }
  obtain ⟨fault, touched, ended⟩ := Connection.touch_spec id .returnConnection announced
  exact ⟨fault, ⟨⟨touched.pools, touched.journal, touched.length, touched.others⟩,
    touched.database, touched.trace, touched.kept⟩, ended⟩

end Pool

/-- The end of a lease: a rollback where it is needed, and the connection given back. -/
structure Left (pool : Pool.Id) (id : Nat) (faulted : Bool) (w w' : World σ) : Prop where
  database : w'.database = w.database
  journal : w.journal <+: w'.journal
  length : w'.connections.length = w.connections.length
  others : ∀ other, other ≠ id → w'.connections[other]? = w.connections[other]?
  pools : w'.pools = w.pools.modify pool PoolState.takeBack
  trace : ∃ undo fault closed, w'.trace = w.trace ++ undo ++ [.givenBack id fault closed] ∧
    Undoes id (faulted && !Connection.hasClosed id w) undo

namespace Manager

variable [Surroundings σ]

theorem leave_spec (pool : Pool.Id) (settings : DatabaseSettings) (id : Nat) (faulted : Bool)
    (w : World σ) : Left pool id faulted w ((enabled pool settings).leave id faulted w).2 := by
  let cleaning : Action σ Unit := if faulted then Connection.rollbackQuietly id else pure ()
  have cleaned : ∃ undo, Confined id w (cleaning w).2 ∧ (cleaning w).2.database = w.database ∧
      (cleaning w).2.trace = w.trace ++ undo ∧
      Undoes id (faulted && !Connection.hasClosed id w) undo := by
    cases faulted with
    | true => exact Connection.rollbackQuietly_spec id w
    | false => exact ⟨[], .refl id w, rfl, (List.append_nil _).symm, .spared⟩
  obtain ⟨undo, confined, database, traced, undone⟩ := cleaned
  obtain ⟨fault, touched, _⟩ := Pool.giveBack_spec pool id (cleaning w).2
  have ran : ((enabled pool settings).leave id faulted w).2
      = (Pool.giveBack pool id (cleaning w).2).2 := Action.ensuring_snd ..
  rw [ran]
  refine ⟨touched.database.trans database, confined.journal.trans touched.journal,
    touched.length.trans confined.length, ?_, ?_, undo, fault,
    Connection.hasClosed id (Pool.giveBack pool id (cleaning w).2).2, ?_, undone⟩
  · intro other apart
    exact (touched.others other apart).trans (confined.others other apart)
  · rw [touched.pools, confined.pools]
  · rw [touched.trace, traced]
    rfl

section

variable {pool : Pool.Id} {settings : DatabaseSettings} {w w₁ : World σ}

theorem acquire_of_error {fault : Fault}
    (refused : Pool.take pool settings.timeout w = (.error fault, w₁)) :
    (enabled pool settings).acquire w = (.error (refusal settings fault), w₁) := by
  rw [acquire, Action.attempt_bind, refused]
  rfl

theorem acquire_of_ok {id : Nat} (taken : Pool.take pool settings.timeout w = (.ok id, w₁)) :
    (enabled pool settings).acquire w = (.ok id, w₁) := by
  rw [acquire, Action.attempt_bind, taken]
  rfl

end

/-- A connection is handed out, or none is and a fault is told. -/
theorem acquire_cases (m : Manager) (w : World σ) :
    let acquired := m.acquire w
    ∃ touches, Asked w touches acquired.2 ∧
      ((∃ fault, acquired.1 = .error fault ∧ Request w.connections.length false touches ∧
          acquired.2.pools = w.pools) ∨
        acquired.1 = .ok w.connections.length ∧ Request w.connections.length true touches ∧
          Connection.hasClosed w.connections.length acquired.2 = closedAfter false touches ∧
          ∃ pool settings, m = .enabled pool settings ∧ Granted pool w acquired.2) := by
  cases m with
  | disabled =>
    exact ⟨[], .untouched w w.surroundings, .inl ⟨_, rfl, .idle, rfl⟩⟩
  | enabled pool settings =>
    obtain ⟨touches, asked, ended⟩ := Pool.take_cases pool settings.timeout w
    rcases ended with ⟨fault, failed, request, pools⟩ | ⟨handed, request, closed, granted⟩
    · rw [acquire_of_error (Prod.ext failed rfl)]
      exact ⟨touches, asked, .inl ⟨_, rfl, request, pools⟩⟩
    · rw [acquire_of_ok (Prod.ext handed rfl)]
      exact ⟨touches, asked, .inr ⟨rfl, request, closed, pool, settings, rfl, granted⟩⟩

/-- Asking for a connection does not change the database. -/
theorem acquire_database (m : Manager) (w : World σ) : (m.acquire w).2.database = w.database := by
  obtain ⟨_, asked, _⟩ := m.acquire_cases w
  exact asked.database

variable {m : Manager} {use : Nat → Action σ α} {w w₁ w₂ : World σ}

theorem withConnection_refused {fault : Fault} (refused : m.acquire w = (.error fault, w₁)) :
    m.withConnection use w = (.error fault, w₁) :=
  Action.bind_of_error refused

/-- What a use of a connection ends in counts unless its end itself fails. -/
theorem withConnection_used {id : Nat} {result : Except Fault α}
    (acquired : m.acquire w = (.ok id, w₁)) (used : use id w₁ = (result, w₂)) :
    m.withConnection use w = ((m.leave id (!result.isOk) w₂).1 >>= fun _ => result,
      (m.leave id (!result.isOk) w₂).2) := by
  rw [withConnection, Action.bind_of_ok acquired, Action.attempt_bind, used]
  cases result with
  | ok a =>
    rw [show (!(Except.ok a : Except Fault α).isOk) = false from rfl]
    change (m.leave id false >>= fun _ => pure a) w₂ = _
    rcases left : m.leave id false w₂ with ⟨fault | _, w₃⟩
    · rw [Action.bind_of_error left]
      rfl
    · rw [Action.bind_of_ok left]
      rfl
  | error failure =>
    rw [show (!(Except.error failure : Except Fault α).isOk) = true from rfl]
    change (m.leave id true >>= fun _ => throw failure) w₂ = _
    rcases left : m.leave id true w₂ with ⟨fault | _, w₃⟩
    · rw [Action.bind_of_error left]
      rfl
    · rw [Action.bind_of_ok left]
      rfl

/-- A use that came to its end had a connection. -/
theorem withConnection_eq_ok {x : α} (ran : m.withConnection use w = (.ok x, w₂)) :
    ∃ id w₁ w₃, m.acquire w = (.ok id, w₁) ∧ use id w₁ = (.ok x, w₃) := by
  rcases acquired : m.acquire w with ⟨fault | id, w₁⟩
  · rw [withConnection_refused acquired] at ran
    cases ran
  · rcases used : use id w₁ with ⟨result, w₃⟩
    rw [withConnection_used acquired used] at ran
    obtain ⟨_, _, same⟩ := Result.bind_eq_ok (congrArg Prod.fst ran)
    exact ⟨id, w₁, w₃, rfl, by rw [used, same]⟩

/-- After a use that came to its end, a connection is only given back, and that decides how the
lease ends. -/
theorem leave_unfaulted (pool : Pool.Id) (settings : DatabaseSettings) (id : Nat) (w : World σ) :
    ∃ fault closed,
      ((enabled pool settings).leave id false w).2.trace
        = w.trace ++ [.givenBack id fault closed] ∧
      ((enabled pool settings).leave id false w).1.isOk = fault.isNone := by
  have ran : (enabled pool settings).leave id false w = Pool.giveBack pool id w := by
    rcases given : Pool.giveBack pool id w with ⟨fault | _, w₁⟩ <;>
      simp [leave, Action.ensuring, given]
  obtain ⟨fault, touched, ended⟩ := Pool.giveBack_spec pool id w
  rw [ran, ended]
  refine ⟨fault, _, touched.trace, ?_⟩
  cases fault <;> rfl

end Manager

end BucketStore
