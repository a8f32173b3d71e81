import BucketStore.Proofs.Operations

/-!
The protocol between the store and its pool. A client performs operations and opens scopes with a
connection of their own, in any order and nested as it likes; any contact may end in a fault. Every
connection that was handed out is given back once, when its scope ends, and is rolled back before if
the scope ended by a fault that left it open.
-/

namespace BucketStore

variable {σ : Type}

/-- What a scope does with its connection. -/
inductive Use where
  | cursor
  | execute (sql : String)
  | select (g : Granularity) (since limit : Int)
  | deleteUntil (g : Granularity) (cutoff : Int)
  | upsertUsers (users : List (String × String))
  | insertRows (g : Granularity) (rows : List Row)
  | commit

def Use.perform [Surroundings σ] (connection : Nat) : Use → Action σ Unit
  | .cursor => Connection.cursor connection
  | .execute sql => Connection.execute connection sql
  | .select g since limit => do let _ ← Connection.select connection g since limit
  | .deleteUntil g cutoff => do let _ ← Connection.deleteUntil connection g cutoff
  | .upsertUsers users => Connection.upsertUsers connection users
  | .insertRows g rows => Connection.insertRows connection g rows
  | .commit => Connection.commit connection

/-- The steps of a client. A scope ends normally or by a fault of any kind. -/
inductive Step where
  | operate (op : Operation) (policy : Policy)
  | enter
  | use (connection : Nat) (use : Use)
  | leave (connection : Nat) (faulted : Bool)

/-- A world with a client in it. -/
structure Client (σ : Type) where
  world : World σ
  /-- The connections of the scopes that are open. -/
  held : List Nat := []

namespace Client

variable [Surroundings σ]

/-- Take a step. Only a connection of an open scope can be used or left. -/
def step (m : Manager) (c : Client σ) : Step → Client σ
  | .operate op policy => { c with world := (op.perform m policy c.world).2 }
  | .enter =>
    match m.acquire c.world with
    | (.ok connection, w) => ⟨w, connection :: c.held⟩
    | (.error _, w) => { c with world := w }
  | .use connection use =>
    if connection ∈ c.held then { c with world := (use.perform connection c.world).2 } else c
  | .leave connection faulted =>
    if connection ∈ c.held then
      ⟨(m.leave connection faulted c.world).2, c.held.erase connection⟩
    else c

def run (m : Manager) (c : Client σ) (steps : List Step) : Client σ :=
  steps.foldl (step m) c

end Client

/-- How many connections of a manager's pool are out. -/
def Manager.out (w : World σ) : Manager → Int
  | .disabled => 0
  | .enabled pool _ => ((Pool.get? pool w).map (·.out)).getD 0

/-- The manager's pool is there. -/
def Manager.Owns (w : World σ) : Manager → Prop
  | .disabled => False
  | .enabled pool _ => pool < w.pools.length

private theorem Manager.out_congr {w w' : World σ} (pools : w'.pools = w.pools) (m : Manager) :
    m.out w' = m.out w := by
  cases m <;> simp [out, Pool.get?, pools]

private theorem Manager.owns_congr {w w' : World σ} (pools : w'.pools = w.pools) (m : Manager) :
    m.Owns w' ↔ m.Owns w := by
  cases m <;> simp [Owns, pools]

private theorem Manager.owns_of_modify {pool : Pool.Id} {settings : DatabaseSettings}
    {w w' : World σ} {f : PoolState → PoolState} (pools : w'.pools = w.pools.modify pool f) :
    (enabled pool settings).Owns w' ↔ (enabled pool settings).Owns w := by
  simp [Owns, pools]

private theorem Manager.out_lend {pool : Pool.Id} {settings : DatabaseSettings} {w w' : World σ}
    (there : pool < w.pools.length) (pools : w'.pools = w.pools.modify pool PoolState.lend) :
    (enabled pool settings).out w' = (enabled pool settings).out w + 1 := by
  simp [out, Pool.get?, pools, List.getElem?_eq_getElem there, PoolState.lend]

private theorem Manager.out_takeBack {pool : Pool.Id} {settings : DatabaseSettings} {w w' : World σ}
    (there : pool < w.pools.length) (pools : w'.pools = w.pools.modify pool PoolState.takeBack) :
    (enabled pool settings).out w' = (enabled pool settings).out w - 1 := by
  simp [out, Pool.get?, pools, List.getElem?_eq_getElem there, PoolState.takeBack]

/-- The contacts with one connection. -/
def touchesOf (id : Nat) (touches : List Touch) : List Touch :=
  touches.filter (·.connection = some id)

/-- A contact of a scope with its connection: a use, or a commit. -/
def Touch.IsWork (id : Nat) (t : Touch) : Prop :=
  t.connection = some id ∧ (t.contact.isUse = true ∨ t.contact = .commit)

/-- All contacts with one connection, in order. The flag tells whether a scope holds it. -/
inductive Course (id : Nat) : Bool → List Touch → Prop where
  | untaken {probe : List Touch} (probed : Probe id probe) : Course id false probe
  | held {probe work : List Touch} (probed : Probe id probe) (closed : Bool)
      (worked : ∀ t ∈ work, t.IsWork id) : Course id true (probe ++ [.handedOut id closed] ++ work)
  | givenBack {probe work undo : List Touch} (probed : Probe id probe) (closed : Bool)
      (worked : ∀ t ∈ work, t.IsWork id) (faulted : Bool)
      (undone : Undoes id (faulted && !closedAfter closed work) undo)
      (fault : Option Fault) (closed' : Bool) :
      Course id false
        (probe ++ [.handedOut id closed] ++ work ++ undo ++ [.givenBack id fault closed'])

theorem Touch.IsUse.isWork {id : Nat} {t : Touch} (use : t.IsUse id) : t.IsWork id :=
  ⟨use.1, .inl use.2⟩

/-- Whatever a scope does with its connection is a use of it, unless it commits. -/
theorem Use.perform_uses [Surroundings σ] (id : Nat) {use : Use} (apart : use ≠ .commit) :
    Action.Within (Uses id) (use.perform id : Action σ Unit) := by
  cases use with
  | cursor => exact (Stages.cursor id).uses
  | execute sql => exact (Stages.execute id sql).uses
  | select g since limit => exact .bind (Stages.select id g since limit).uses fun _ => .pure ()
  | deleteUntil g cutoff => exact .bind (Stages.deleteUntil id g cutoff).uses fun _ => .pure ()
  | upsertUsers users => exact (Stages.upsertUsers id users).uses
  | insertRows g rows => exact (Stages.insertRows id g rows).uses
  | commit => exact absurd rfl apart

/-- What a scope does with its connection is work on that connection alone. -/
theorem Use.perform_spec [Surroundings σ] (id : Nat) (use : Use) (w : World σ) :
    ∃ touches, Confined id w (use.perform id w).2 ∧
      (use.perform id w).2.trace = w.trace ++ touches ∧ (∀ t ∈ touches, t.IsWork id) ∧
      Connection.hasClosed id (use.perform id w).2
        = closedAfter (Connection.hasClosed id w) touches := by
  by_cases commit : use = .commit
  · subst commit
    obtain ⟨fault, confined, traced, _⟩ := Connection.commit_spec id w
    refine ⟨_, confined, traced, fun t member => ?_, by simp [closedAfter, Use.perform]⟩
    rw [List.mem_singleton.mp member]
    exact ⟨rfl, .inr rfl⟩
  · have used := Use.perform_uses id commit w
    obtain ⟨touches, traced, uses, closed⟩ := used.trace
    exact ⟨touches, used.toConfined, traced, fun t member => (uses t member).isWork, closed⟩

/-- The contacts that a step adds to those of a client. -/
def Client.Adds [Surroundings σ] (m : Manager) (c : Client σ) (touches : List Touch) :
    Step → Prop
  | .operate _ _ => (made .takeConnection touches).length ≤ 1 ∧
      ∃ committed, Exchange c.world.connections.length committed touches
  | .enter => ∃ granted, Request c.world.connections.length granted touches ∧
      (c.step m .enter).held
        = if granted then c.world.connections.length :: c.held else c.held
  | .use connection _ => ∀ t ∈ touches, t.IsWork connection ∧ connection ∈ c.held
  | .leave connection faulted =>
    if connection ∈ c.held then
      ∃ undo fault closed, touches = undo ++ [.givenBack connection fault closed] ∧
        Undoes connection (faulted && !Connection.hasClosed connection c.world) undo
    else touches = []

@[simp] theorem touchesOf_append (id : Nat) (first last : List Touch) :
    touchesOf id (first ++ last) = touchesOf id first ++ touchesOf id last :=
  List.filter_append ..

theorem touchesOf_of_on {id : Nat} {touches : List Touch}
    (on : ∀ t ∈ touches, t.connection = some id) : touchesOf id touches = touches :=
  List.filter_eq_self.mpr fun t member => decide_eq_true (on t member)

@[simp] theorem touchesOf_singleton {id : Nat} {t : Touch} (on : t.connection = some id) :
    touchesOf id [t] = [t] := by
  simp [touchesOf, on]

theorem touchesOf_eq_nil {id : Nat} {touches : List Touch}
    (apart : ∀ t ∈ touches, ∀ other ∈ t.connection, other ≠ id) : touchesOf id touches = [] := by
  refine List.filter_eq_nil_iff.mpr fun t member same => ?_
  exact apart t member id (of_decide_eq_true same) rfl

theorem BlockTrace.isWork {id : Nat} {committed : Bool} {touches : List Touch}
    (worked : BlockTrace id committed touches) : ∀ t ∈ touches, t.IsWork id := by
  intro t member
  cases worked with
  | broken used => exact (used t member).isWork
  | ended used fault closed =>
    rcases List.mem_append.mp member with early | last
    · exact (used t early).isWork
    · rw [List.mem_singleton.mp last]
      exact ⟨rfl, .inr rfl⟩

private theorem touchesOf_probe {id : Nat} {probe : List Touch} (probed : Probe id probe) :
    touchesOf id probe = probe :=
  touchesOf_of_on fun t member => (probed t member).1

/-- A held connection may be worked with further. -/
theorem Course.work {id : Nat} {touches more : List Touch} (course : Course id true touches)
    (worked : ∀ t ∈ more, t.IsWork id) : Course id true (touches ++ more) := by
  cases course with
  | held probed closed before =>
    rw [List.append_assoc]
    refine .held probed closed fun t member => ?_
    rcases List.mem_append.mp member with early | late
    · exact before t early
    · exact worked t late

/-- A held connection is given back, after a rollback if it is needed. -/
theorem Course.leave {id : Nat} {touches undo : List Touch} {faulted : Bool}
    (course : Course id true touches)
    (undone : Undoes id (faulted && !closedAfter false touches) undo) (fault : Option Fault)
    (closed' : Bool) : Course id false (touches ++ (undo ++ [.givenBack id fault closed'])) := by
  cases course with
  | @held probe work probed closed worked =>
    have taken : closedAfter false (probe ++ [.handedOut id closed]) = closed := by
      simp [closedAfter, Touch.handedOut]
    rw [closedAfter_append, taken] at undone
    rw [← List.append_assoc]
    exact .givenBack probed closed worked faulted undone fault closed'

/-- A request leaves a connection untaken or held. -/
theorem Request.course {id : Nat} {granted : Bool} {touches : List Touch}
    (request : Request id granted touches) : Course id granted (touchesOf id touches) := by
  cases request with
  | idle => exact .untaken (by simp [Probe, touchesOf])
  | refused probed fault =>
    have last : touchesOf id [.refused fault] = [] := rfl
    rw [touchesOf_append, touchesOf_probe probed, last, List.append_nil]
    exact .untaken probed
  | granted probed closed =>
    have last : touchesOf id [.handedOut id closed] = _ := touchesOf_singleton rfl
    rw [touchesOf_append, touchesOf_probe probed, last, ← List.append_nil (_ ++ [_])]
    exact .held probed closed (by simp)

private theorem Request.touchesOf_granted {id : Nat} {touches : List Touch}
    (request : Request id true touches) : touchesOf id touches = touches := by
  cases request with
  | granted probed closed =>
    rw [touchesOf_append, touchesOf_probe probed, touchesOf_singleton rfl]

/-- An operation is done with its connection when it ends. -/
theorem Exchange.course {id : Nat} {committed : Bool} {touches : List Touch}
    (exchange : Exchange id committed touches) : Course id false (touchesOf id touches) := by
  cases exchange with
  | refused request => exact request.course
  | leased request worked undone fault closed =>
    have last : touchesOf id [.givenBack id fault closed] = _ := touchesOf_singleton rfl
    have held := request.course
    rw [request.touchesOf_granted] at held
    simp only [touchesOf_append, request.touchesOf_granted, touchesOf_of_on worked.on,
      touchesOf_of_on undone.on, last]
    rw [List.append_assoc]
    exact (held.work worked.isWork).leave undone fault closed

private theorem take_of_work {id : Nat} {touches : List Touch}
    (worked : ∀ t ∈ touches, t.IsWork id) :
    made .takeConnection touches = [] := by
  refine List.filter_eq_nil_iff.mpr fun t member taking => ?_
  have same : t.contact = .takeConnection := of_decide_eq_true taking
  rcases (worked t member).2 with use | commit
  · rw [same] at use
    cases use
  · rw [same] at commit
    cases commit

theorem Request.takes {id : Nat} {granted : Bool} {touches : List Touch}
    (request : Request id granted touches) : (made .takeConnection touches).length ≤ 1 := by
  cases request with
  | idle => exact Nat.zero_le 1
  | refused probed fault =>
    rw [made_append, made_of_uses .takeConnection rfl probed]
    exact Nat.le_refl 1
  | granted probed closed =>
    rw [made_append, made_of_uses .takeConnection rfl probed]
    exact Nat.le_refl 1

/-- An operation asks for a connection at most once. -/
theorem Exchange.takes {id : Nat} {committed : Bool} {touches : List Touch}
    (exchange : Exchange id committed touches) : (made .takeConnection touches).length ≤ 1 := by
  cases exchange with
  | refused request => exact request.takes
  | leased request worked undone fault closed =>
    have last : made .takeConnection [.givenBack id fault closed] = [] := rfl
    simpa only [made_append, take_of_work worked.isWork, undone.made_eq_nil .takeConnection nofun,
      last, List.append_nil] using request.takes

namespace Client

/-- What holds between the world that a client started in and the one that it is in, after given
contacts. -/
structure Sound (m : Manager) (start : World σ) (c : Client σ) (touches : List Touch) : Prop where
  trace : c.world.trace = start.trace ++ touches
  out : m.out c.world = m.out start + c.held.length
  owns : c.held ≠ [] → m.Owns c.world
  known : Known c.world.connections.length touches
  distinct : c.held.Nodup
  below : ∀ id ∈ c.held, id < c.world.connections.length
  closed : ∀ id ∈ c.held, Connection.hasClosed id c.world = closedAfter false (touchesOf id touches)
  course : ∀ id, Course id (decide (id ∈ c.held)) (touchesOf id touches)

theorem Sound.start (m : Manager) (start : World σ) : Sound m start ⟨start, []⟩ [] := by
  refine ⟨by simp, by simp, nofun, by simp [Known], .nil, nofun, nofun, fun id => ?_⟩
  exact .untaken (by simp [Probe, touchesOf])

/-- Contacts with one connection leave all others as they were. -/
theorem Sound.extend {m : Manager} {start : World σ} {c c' : Client σ}
    {touches more : List Touch} (id : Nat) (sound : Sound m start c touches)
    (trace : c'.world.trace = c.world.trace ++ more)
    (out : m.out c'.world = m.out start + c'.held.length) (owns : c'.held ≠ [] → m.Owns c'.world)
    (one : ∀ t ∈ more, ∀ other ∈ t.connection, other = id)
    (known : Known c'.world.connections.length more)
    (distinct : c'.held.Nodup)
    (grown : c.world.connections.length ≤ c'.world.connections.length)
    (below : id ∈ c'.held → id < c'.world.connections.length)
    (others : ∀ other, other ≠ id → (other ∈ c'.held ↔ other ∈ c.held))
    (kept : ∀ other < c.world.connections.length, other ≠ id →
      Connection.get? other c'.world = Connection.get? other c.world)
    (closed : id ∈ c'.held →
      Connection.hasClosed id c'.world = closedAfter false (touchesOf id (touches ++ more)))
    (course : Course id (decide (id ∈ c'.held)) (touchesOf id (touches ++ more))) :
    Sound m start c' (touches ++ more) := by
  have same : ∀ other, other ≠ id →
      touchesOf other (touches ++ more) = touchesOf other touches := by
    intro other apart
    have none : touchesOf other more = [] := touchesOf_eq_nil fun t member connection there =>
      one t member connection there ▸ apart.symm
    rw [touchesOf_append, none, List.append_nil]
  refine ⟨?_, out, owns, (sound.known.mono grown).append known, distinct, ?_, ?_, ?_⟩
  · rw [trace, sound.trace, List.append_assoc]
  · intro other member
    by_cases here : other = id
    · exact here ▸ below (here ▸ member)
    · exact Nat.lt_of_lt_of_le (sound.below other ((others other here).mp member)) grown
  · intro other member
    by_cases here : other = id
    · exact here ▸ closed (here ▸ member)
    · have before := (others other here).mp member
      rw [same other here, ← sound.closed other before, Connection.hasClosed, Connection.hasClosed,
        kept other (sound.below other before) here]
  · intro other
    by_cases here : other = id
    · exact here ▸ course
    · rw [same other here, decide_eq_decide.mpr (others other here)]
      exact sound.course other

/-- A connection that does not exist yet is not held and has not been touched. -/
theorem Sound.fresh {m : Manager} {start : World σ} {c : Client σ} {touches : List Touch}
    (sound : Sound m start c touches) : c.world.connections.length ∉ c.held ∧
      touchesOf c.world.connections.length touches = [] := by
  refine ⟨fun member => Nat.lt_irrefl _ (sound.below _ member), ?_⟩
  exact touchesOf_eq_nil fun t member id there => Nat.ne_of_lt (sound.known t member id there)

variable [Surroundings σ] {m : Manager} {start : World σ} {c : Client σ} {touches : List Touch}

theorem Sound.operate (sound : Sound m start c touches) (op : Operation) (policy : Policy) :
    ∃ more, c.Adds m more (.operate op policy) ∧
      Sound m start (c.step m (.operate op policy)) (touches ++ more) := by
  obtain ⟨committed, effect⟩ := op.perform_effect m policy c.world
  obtain ⟨more, traced, exchange, known⟩ := effect.trace
  obtain ⟨free, untouched⟩ := sound.fresh
  refine ⟨more, ⟨exchange.takes, committed, exchange⟩, ?_⟩
  refine sound.extend _ traced ?_ ?_ exchange.one known sound.distinct effect.grown ?_
    (fun _ _ => Iff.rfl) ?_ ?_ ?_
  · exact (Manager.out_congr effect.pools m).trans sound.out
  · exact fun open_ => (Manager.owns_congr effect.pools m).mpr (sound.owns open_)
  · exact fun member => absurd member free
  · exact fun other earlier _ => effect.kept other earlier
  · exact fun member => absurd member free
  · change Course _ (decide (_ ∈ c.held)) _
    rw [touchesOf_append, untouched, decide_eq_false free]
    exact exchange.course

theorem Sound.enter (sound : Sound m start c touches) :
    ∃ more, c.Adds m more .enter ∧ Sound m start (c.step m .enter) (touches ++ more) := by
  let id := c.world.connections.length
  obtain ⟨free, untouched⟩ := sound.fresh
  obtain ⟨more, asked, ended⟩ := m.acquire_cases c.world
  rcases ran : m.acquire c.world with ⟨result, w⟩
  rw [ran] at asked ended
  rcases ended with ⟨fault, refused, request, pools⟩ |
    ⟨handed, request, closed, pool, settings, rfl, granted⟩
  · have stepped : c.step m .enter = { c with world := w } := by
      simp only [step, ran, show result = .error _ from refused]
    refine ⟨more, ⟨false, request, by rw [stepped]; rfl⟩, ?_⟩
    rw [stepped]
    refine sound.extend id asked.trace ?_ ?_ request.one asked.known sound.distinct asked.grown ?_
      (fun _ _ => Iff.rfl) ?_ ?_ ?_
    · exact (Manager.out_congr pools m).trans sound.out
    · exact fun open_ => (Manager.owns_congr pools m).mpr (sound.owns open_)
    · exact fun member => absurd member free
    · exact fun other earlier _ => asked.kept other earlier
    · exact fun member => absurd member free
    · change Course id (decide (id ∈ c.held)) _
      rw [touchesOf_append, untouched, decide_eq_false free]
      exact request.course
  · have stepped : c.step (.enabled pool settings) .enter = ⟨w, id :: c.held⟩ := by
      simp only [step, ran, show result = .ok _ from handed, id]
    refine ⟨more, ⟨true, request, by rw [stepped]; rfl⟩, ?_⟩
    rw [stepped]
    refine sound.extend id asked.trace ?_ ?_ request.one asked.known ?_ asked.grown ?_ ?_ ?_ ?_ ?_
    · rw [Manager.out_lend granted.there granted.pools, sound.out, List.length_cons]
      omega
    · intro _
      exact (Manager.owns_of_modify granted.pools).mpr granted.there
    · exact List.nodup_cons.mpr ⟨free, sound.distinct⟩
    · intro _
      exact Nat.lt_of_lt_of_eq (Nat.lt_succ_self _) granted.length.symm
    · intro other apart
      simp [apart]
    · exact fun other earlier _ => asked.kept other earlier
    · intro _
      rw [touchesOf_append, untouched, List.nil_append, request.touchesOf_granted]
      exact closed
    · rw [touchesOf_append, untouched, decide_eq_true List.mem_cons_self]
      exact request.course

theorem Sound.use (sound : Sound m start c touches) (connection : Nat) (use : Use) :
    ∃ more, c.Adds m more (.use connection use) ∧
      Sound m start (c.step m (.use connection use)) (touches ++ more) := by
  by_cases held : connection ∈ c.held
  · obtain ⟨more, confined, traced, worked, closed⟩ := use.perform_spec connection c.world
    have on : ∀ t ∈ more, t.connection = some connection := fun t member => (worked t member).1
    have stepped : c.step m (.use connection use)
        = { c with world := (use.perform connection c.world).2 } := if_pos held
    refine ⟨more, fun t member => ⟨worked t member, held⟩, ?_⟩
    rw [stepped]
    have below := Nat.lt_of_lt_of_eq (sound.below connection held) confined.length.symm
    refine sound.extend connection traced ?_ ?_ (one_of_on on) (.of_one (one_of_on on) below)
      sound.distinct (Nat.le_of_eq confined.length.symm) (fun _ => below) (fun _ _ => Iff.rfl)
      ?_ ?_ ?_
    · exact (Manager.out_congr confined.pools m).trans sound.out
    · exact fun open_ => (Manager.owns_congr confined.pools m).mpr (sound.owns open_)
    · exact fun other _ apart => confined.get? apart
    · intro _
      rw [closed, sound.closed connection held, touchesOf_append, closedAfter_append,
        touchesOf_of_on on]
    · have course := sound.course connection
      change Course _ (decide (_ ∈ c.held)) _
      rw [decide_eq_true held] at course ⊢
      rw [touchesOf_append, touchesOf_of_on on]
      exact course.work worked
  · have stepped : c.step m (.use connection use) = c := if_neg held
    refine ⟨[], nofun, ?_⟩
    rw [stepped, List.append_nil]
    exact sound

theorem Sound.leave (sound : Sound m start c touches) (connection : Nat) (faulted : Bool) :
    ∃ more, c.Adds m more (.leave connection faulted) ∧
      Sound m start (c.step m (.leave connection faulted)) (touches ++ more) := by
  by_cases held : connection ∈ c.held
  · have owns := sound.owns (List.ne_nil_of_mem held)
    cases m with
    | disabled => cases owns
    | enabled pool settings =>
      have left := Manager.leave_spec pool settings connection faulted c.world
      have stepped : c.step (.enabled pool settings) (.leave connection faulted)
          = ⟨((Manager.enabled pool settings).leave connection faulted c.world).2,
            c.held.erase connection⟩ := if_pos held
      obtain ⟨undo, fault, closed', traced, undone⟩ := left.trace
      have gone : connection ∉ c.held.erase connection := sound.distinct.not_mem_erase
      have on : ∀ t ∈ undo ++ [.givenBack connection fault closed'],
          t.connection = some connection := by
        intro t member
        rcases List.mem_append.mp member with undoing | last
        · exact undone.on t undoing
        · rw [List.mem_singleton.mp last]
          rfl
      refine ⟨undo ++ [.givenBack connection fault closed'], ?_, ?_⟩
      · simp only [Adds, if_pos held]
        exact ⟨undo, fault, closed', rfl, undone⟩
      rw [stepped]
      refine sound.extend connection (traced.trans (List.append_assoc ..)) ?_ ?_ (one_of_on on) ?_
        (sound.distinct.erase connection) (Nat.le_of_eq left.length.symm) ?_ ?_ ?_ ?_ ?_
      · rw [Manager.out_takeBack owns left.pools, sound.out, List.length_erase_of_mem held]
        have some := List.length_pos_of_mem held
        omega
      · exact fun _ => (Manager.owns_of_modify left.pools).mpr owns
      · exact .of_one (one_of_on on)
          (Nat.lt_of_lt_of_eq (sound.below connection held) left.length.symm)
      · exact fun member => absurd member gone
      · exact fun other apart => List.mem_erase_of_ne apart
      · exact fun other _ apart => left.others other apart
      · exact fun member => absurd member gone
      · have course := sound.course connection
        rw [decide_eq_true held] at course
        rw [decide_eq_false gone, touchesOf_append, touchesOf_of_on on]
        rw [sound.closed connection held] at undone
        exact course.leave undone fault closed'
  · have stepped : c.step m (.leave connection faulted) = c := if_neg held
    refine ⟨[], ?_, ?_⟩
    · simp only [Adds, if_neg held]
    · rw [stepped, List.append_nil]
      exact sound

/-- What one step preserves. -/
theorem Sound.step (sound : Sound m start c touches) (step : Step) :
    ∃ more, c.Adds m more step ∧ Sound m start (c.step m step) (touches ++ more) := by
  cases step with
  | operate op policy => exact sound.operate op policy
  | enter => exact sound.enter
  | use connection use => exact sound.use connection use
  | leave connection faulted => exact sound.leave connection faulted

/-- What a whole run preserves. -/
theorem Sound.run (sound : Sound m start c touches) (steps : List Step) :
    ∃ more, Sound m start (c.run m steps) (touches ++ more) := by
  induction steps generalizing c touches with
  | nil => exact ⟨[], by rwa [List.append_nil]⟩
  | cons step rest ih =>
    obtain ⟨more, _, next⟩ := sound.step step
    obtain ⟨others, last⟩ := ih next
    exact ⟨more ++ others, by rwa [← List.append_assoc]⟩

/-- After any steps of a client, whatever failed on the way, as many more connections are out as
scopes are open. Each connection was handed out and given back at most once, in this order and with
nothing after it, and the next step adds only what its kind may add. -/
theorem run_protocol (m : Manager) (start : World σ) (steps : List Step) :
    let c := run m ⟨start, []⟩ steps
    m.out c.world = m.out start + c.held.length ∧
      (∃ touches, c.world.trace = start.trace ++ touches ∧
        ∀ id, Course id (decide (id ∈ c.held)) (touchesOf id touches)) ∧
      ∀ step, ∃ touches, (c.step m step).world.trace = c.world.trace ++ touches ∧
        c.Adds m touches step := by
  intro c
  obtain ⟨touches, sound⟩ := (Sound.start m start).run steps
  refine ⟨sound.out, ⟨_, sound.trace, sound.course⟩, fun step => ?_⟩
  obtain ⟨more, adds, next⟩ := sound.step step
  refine ⟨more, ?_, adds⟩
  rw [next.trace, sound.trace]
  exact (List.append_assoc ..).symm

end Client

end BucketStore
