import BucketStore.Pool.Connection
import BucketStore.Proofs.Action

/-!
What the use of one connection changes: its own stage, whether it is closed, and the trace. Only a
commit reaches the database, and what it applies there is the stage of its connection.
-/

namespace BucketStore

/-- What an action does with a connection between taking it and ending its transaction. -/
def Contact.isUse : Contact → Bool
  | .cursor | .execute _ | .executeMany _ | .row _ _ => true
  | _ => false

/-- A use of a given connection. -/
def Touch.IsUse (id : Nat) (t : Touch) : Prop :=
  t.connection = some id ∧ t.contact.isUse = true

/-- The contacts of one kind. -/
def made (contact : Contact) (touches : List Touch) : List Touch :=
  touches.filter (·.contact = contact)

@[simp] theorem made_append (contact : Contact) (first last : List Touch) :
    made contact (first ++ last) = made contact first ++ made contact last :=
  List.filter_append ..

theorem made_of_uses (contact : Contact) (other : contact.isUse = false) {id : Nat}
    {touches : List Touch} (used : ∀ t ∈ touches, t.IsUse id) : made contact touches = [] := by
  refine List.filter_eq_nil_iff.mpr fun t member same => ?_
  obtain ⟨_, use⟩ := used t member
  rw [of_decide_eq_true same, other] at use
  cases use

/-- All connections that contacts were made with are below a number. -/
def Known (count : Nat) (touches : List Touch) : Prop :=
  ∀ t ∈ touches, ∀ id ∈ t.connection, id < count

theorem Known.mono {count count' : Nat} {touches : List Touch} (known : Known count touches)
    (grown : count ≤ count') : Known count' touches :=
  fun t member id there => Nat.lt_of_lt_of_le (known t member id there) grown

theorem Known.append {count : Nat} {first last : List Touch} (early : Known count first)
    (late : Known count last) : Known count (first ++ last) := by
  intro t member
  rcases List.mem_append.mp member with before | after
  · exact early t before
  · exact late t after

theorem one_of_on {id : Nat} {touches : List Touch} (on : ∀ t ∈ touches, t.connection = some id) :
    ∀ t ∈ touches, ∀ other ∈ t.connection, other = id := by
  intro t member other there
  rw [on t member] at there
  exact (Option.some.inj there).symm

theorem Known.of_one {count id : Nat} {touches : List Touch}
    (one : ∀ t ∈ touches, ∀ other ∈ t.connection, other = id) (below : id < count) :
    Known count touches :=
  fun t member other there => one t member other there ▸ below

/-- Whether a connection is closed after contacts with it. -/
def closedAfter (before : Bool) (touches : List Touch) : Bool :=
  (touches.getLast?.map (·.closed)).getD before

theorem closedAfter_append (before : Bool) (first last : List Touch) :
    closedAfter before (first ++ last) = closedAfter (closedAfter before first) last := by
  cases final : last.getLast? <;> simp [closedAfter, final]

variable {σ α β : Type}

/-- Nothing but one connection, the database and the records of contacts differ. -/
structure Confined (id : Nat) (w w' : World σ) : Prop where
  pools : w'.pools = w.pools
  journal : w.journal <+: w'.journal
  length : w'.connections.length = w.connections.length
  others : ∀ other, other ≠ id → w'.connections[other]? = w.connections[other]?

/-- One connection was used; the database is what it was. -/
structure Uses (id : Nat) (w w' : World σ) : Prop extends Confined id w w' where
  database : w'.database = w.database
  trace : ∃ touches, w'.trace = w.trace ++ touches ∧ (∀ t ∈ touches, t.IsUse id) ∧
    Connection.hasClosed id w' = closedAfter (Connection.hasClosed id w) touches

/-- One contact with a connection was made, and may have closed it. -/
structure Touched (id : Nat) (contact : Contact) (fault : Option Fault) (w w' : World σ) : Prop
    extends Confined id w w' where
  database : w'.database = w.database
  trace : w'.trace = w.trace ++ [⟨contact, some id, fault, Connection.hasClosed id w'⟩]
  kept : ∃ closes : Bool, Connection.get? id w' =
    (Connection.get? id w).map fun c => { c with closed := c.closed || closes }

theorem Confined.refl (id : Nat) (w : World σ) : Confined id w w :=
  ⟨rfl, List.prefix_rfl, rfl, fun _ _ => rfl⟩

theorem Confined.trans {id : Nat} {w₁ w₂ w₃ : World σ} (first : Confined id w₁ w₂)
    (last : Confined id w₂ w₃) : Confined id w₁ w₃ :=
  ⟨last.pools.trans first.pools, first.journal.trans last.journal,
    last.length.trans first.length,
    fun other apart => (last.others other apart).trans (first.others other apart)⟩

theorem Confined.get? {id other : Nat} {w w' : World σ} (confined : Confined id w w')
    (apart : other ≠ id) : Connection.get? other w' = Connection.get? other w :=
  confined.others other apart

theorem Uses.refl (id : Nat) (w : World σ) : Uses id w w :=
  ⟨.refl id w, rfl, [], by simp, by simp, by simp [closedAfter]⟩

theorem Uses.trans {id : Nat} {w₁ w₂ w₃ : World σ} (first : Uses id w₁ w₂)
    (last : Uses id w₂ w₃) : Uses id w₁ w₃ := by
  obtain ⟨touches, traced, uses, closed⟩ := first.trace
  obtain ⟨touches', traced', uses', closed'⟩ := last.trace
  refine ⟨first.toConfined.trans last.toConfined, last.database.trans first.database,
    touches ++ touches', ?_, ?_, ?_⟩
  · rw [traced', traced, List.append_assoc]
  · intro t member
    rcases List.mem_append.mp member with early | late
    · exact uses t early
    · exact uses' t late
  · rw [closed', closed, closedAfter_append]

instance (id : Nat) : IsPreorder (World σ) (Uses id) where
  refl := Uses.refl id
  trans _ _ _ := Uses.trans

theorem Touched.uses {id : Nat} {contact : Contact} {fault : Option Fault} {w w' : World σ}
    (touched : Touched id contact fault w w') (use : contact.isUse = true) : Uses id w w' := by
  refine ⟨touched.toConfined, touched.database, _, touched.trace, ?_, ?_⟩
  · intro t member
    rw [List.mem_singleton.mp member]
    exact ⟨rfl, use⟩
  · simp [closedAfter]

/-- A connection is there, in a given mode and with given changes waiting. -/
def Connection.Stands (id : Nat) (autocommit : Bool) (changes : List Change) (w : World σ) : Prop :=
  ∃ c, Connection.get? id w = some c ∧ c.autocommit = autocommit ∧ c.stage = changes

/-- A connection is inside a transaction in which given changes wait. -/
abbrev Connection.Waiting (id : Nat) (changes : List Change) (w : World σ) : Prop :=
  Connection.Stands id false changes w

theorem Connection.Stands.stageOf {id : Nat} {autocommit : Bool} {changes : List Change}
    {w : World σ} (stands : Connection.Stands id autocommit changes w) :
    Connection.stageOf id w = changes := by
  obtain ⟨c, found, _, staged⟩ := stands
  simp [Connection.stageOf, found, staged]

theorem Touched.stageOf {id : Nat} {contact : Contact} {fault : Option Fault} {w w' : World σ}
    (touched : Touched id contact fault w w') :
    Connection.stageOf id w' = Connection.stageOf id w := by
  obtain ⟨closes, kept⟩ := touched.kept
  simp [Connection.stageOf, kept, Option.map_map, Function.comp_def]

/-- A contact may have been announced in the events before. -/
theorem Touched.of_record {id : Nat} {contact : Contact} {fault : Option Fault} {w w' : World σ}
    {e : Event} (touched : Touched id contact fault (Action.record e w).2 w') :
    Touched id contact fault w w' :=
  ⟨⟨touched.pools, touched.journal, touched.length, touched.others⟩, touched.database,
    touched.trace, touched.kept⟩

theorem Touched.stands {id : Nat} {contact : Contact} {fault : Option Fault} {w w' : World σ}
    {autocommit : Bool} {changes : List Change} (touched : Touched id contact fault w w')
    (stands : Connection.Stands id autocommit changes w) :
    Connection.Stands id autocommit changes w' := by
  obtain ⟨c, found, mode, staged⟩ := stands
  obtain ⟨closes, kept⟩ := touched.kept
  exact ⟨{ c with closed := c.closed || closes }, by rw [kept, found]; rfl, mode, staged⟩

namespace Connection

@[simp] theorem isClosed_apply (id : Nat) (w : World σ) :
    isClosed id w = (.ok (hasClosed id w), w) := rfl

theorem modify_apply (id : Nat) (f : Connection → Connection) (w : World σ) :
    modify id f w = (.ok (), { w with connections := w.connections.modify id f }) := rfl

theorem get?_modify (id : Nat) (f : Connection → Connection) (w : World σ) :
    get? id (modify id f w).2 = (get? id w).map f := by
  simp [get?, modify_apply]

private theorem modify_confined (id : Nat) (f : Connection → Connection) :
    ∀ w : World σ, Confined id w (modify id f w).2 := by
  intro w
  refine ⟨rfl, List.prefix_rfl, by simp [modify_apply], ?_⟩
  intro other apart
  simp [modify_apply, Ne.symm apart]

private theorem hasClosed_modify (id : Nat) (f : Connection → Connection)
    (kept : ∀ c, (f c).closed = c.closed) (w : World σ) :
    hasClosed id (modify id f w).2 = hasClosed id w := by
  rw [hasClosed, get?_modify]
  simp [hasClosed, Option.map_map, Function.comp_def, kept]

/-- A change of a connection that does not close it is a use without contacts. -/
theorem modify_uses (id : Nat) (f : Connection → Connection) (kept : ∀ c, (f c).closed = c.closed) :
    Action.Within (Uses id) (modify id f : Action σ Unit) := by
  intro w
  refine ⟨modify_confined id f w, rfl, [], by simp [modify_apply], by simp, ?_⟩
  exact hasClosed_modify id f kept w

theorem record_uses (id : Nat) (e : Event) :
    Action.Within (Uses id) (Action.record e : Action σ Unit) :=
  fun _ => ⟨⟨rfl, List.prefix_rfl, rfl, fun _ _ => rfl⟩, rfl, [], by simp [Action.record], by simp,
    by simp [closedAfter, hasClosed, get?, Action.record]⟩

theorem ask_uses (id : Nat) (f : σ → α × σ) :
    Action.Within (Uses id) (Action.ask f : Action σ α) :=
  fun _ => ⟨⟨rfl, List.prefix_rfl, rfl, fun _ _ => rfl⟩, rfl, [], by simp [Action.ask_apply],
    by simp, by simp [closedAfter, hasClosed, get?, Action.ask_apply]⟩

variable [Surroundings σ]

/-- Every contact is kept in the trace together with the fault that it ends in. -/
theorem touch_spec (id : Nat) (contact : Contact) (w : World σ) :
    ∃ fault, Touched id contact fault w (touch id contact w).2 ∧
      (touch id contact w).1 = match fault with
        | none => .ok ()
        | some fault => .error fault := by
  rcases asked : Surroundings.strike contact w.surroundings with ⟨answer, s⟩
  let struck : World σ := { w with
    surroundings := s
    connections := w.connections.modify id fun c =>
      { c with closed := c.closed || answer.any (·.closes) } }
  let traced : World σ := { struck with
    trace := w.trace ++ [⟨contact, some id, answer.map (·.fault), hasClosed id struck⟩] }
  have ran : touch id contact w
      = (answer.elim (.ok ()) fun strike => .error strike.fault, traced) := by
    have told : Action.ask (Surroundings.strike contact) w
        = (.ok answer, { w with surroundings := s }) := by
      rw [Action.ask_apply, asked]
    rw [touch, Action.bind_of_ok told]
    cases answer <;> rfl
  have touched : Touched id contact (answer.map (·.fault)) w traced := by
    refine ⟨⟨rfl, List.prefix_rfl, by simp [traced, struck], ?_⟩, rfl, rfl,
      answer.any (·.closes), ?_⟩
    · intro other apart
      simp [traced, struck, Ne.symm apart]
    · simp [get?, traced, struck]
  refine ⟨answer.map (·.fault), ?_⟩
  rw [ran]
  cases answer with
  | none => exact ⟨touched, rfl⟩
  | some strike => exact ⟨touched, rfl⟩

/-- A commit that passes applies the whole stage, and one that fails applies nothing. -/
theorem commit_spec (id : Nat) (w : World σ) :
    ∃ fault, Confined id w (commit id w).2 ∧
      (commit id w).2.trace =
        w.trace ++ [⟨.commit, some id, fault, hasClosed id (commit id w).2⟩] ∧
      match fault with
      | none => (commit id w).1 = .ok () ∧
          (commit id w).2.database = w.database.applyAll (stageOf id w)
      | some fault => (commit id w).1 = .error fault ∧ (commit id w).2.database = w.database := by
  obtain ⟨fault, met, ended⟩ := touch_spec id .commit (Action.record (.commit id) w).2
  rcases ran : touch id .commit (Action.record (.commit id) w).2 with ⟨result, w₁⟩
  rw [ran] at met ended
  have touched : Touched id .commit fault w w₁ := met.of_record
  cases fault with
  | none =>
    cases ended
    have done : commit id w = (.ok (), { w₁ with
        database := w₁.database.applyAll (stageOf id w₁)
        connections := w₁.connections.modify id fun c => { c with stage := [] } }) :=
      Action.bind_of_ok ran
    refine ⟨none, ?_⟩
    rw [done, touched.stageOf, touched.database]
    have emptied := modify_confined id (fun c => { c with stage := [] }) w₁
    have closed := hasClosed_modify id (fun c => { c with stage := [] }) (fun _ => rfl) w₁
    refine ⟨?_, ?_, rfl, rfl⟩
    · exact touched.toConfined.trans
        ⟨emptied.pools, emptied.journal, emptied.length, emptied.others⟩
    · exact touched.trace.trans (by rw [← closed]; rfl)
  | some fault =>
    cases ended
    have done : commit id w = (.error fault, w₁) :=
      (Action.bind_of_ok rfl).trans (Action.bind_of_error ran)
    refine ⟨some fault, ?_⟩
    rw [done]
    exact ⟨touched.toConfined, touched.trace, rfl, touched.database⟩

/-- A rollback that fails has emptied the stage all the same. -/
theorem rollback_spec (id : Nat) (w : World σ) :
    ∃ fault, Confined id w (rollback id w).2 ∧ (rollback id w).2.database = w.database ∧
      (rollback id w).2.trace =
        w.trace ++ [⟨.rollback, some id, fault, hasClosed id (rollback id w).2⟩] := by
  let emptied := (modify id (fun c => { c with stage := [] }) (Action.record (.rollback id) w).2).2
  obtain ⟨fault, touched, _⟩ := touch_spec id .rollback emptied
  have moved := modify_confined id (fun c => { c with stage := [] })
    (Action.record (.rollback id) w).2
  have confined : Confined id w emptied := ⟨moved.pools, moved.journal, moved.length, moved.others⟩
  exact ⟨fault, confined.trans touched.toConfined, touched.database, touched.trace⟩

end Connection

/-- An action that uses one connection and, if it comes to its end, has staged given changes. -/
structure Stages (id : Nat) (changes : List Change) (a : Action σ α) : Prop where
  uses : Action.Within (Uses id) a
  staged : ∀ {w x w' before}, Connection.Waiting id before w → a w = (.ok x, w') →
    Connection.Waiting id (before ++ changes) w'

/-- A free statement does no more than its staging. -/
theorem Connection.runFree_within [Surroundings σ] {R : World σ → World σ → Prop}
    [IsPreorder (World σ) R] {id : Nat} (sql : String)
    (staged : Action.Within R (stageChange id (.run sql) : Action σ Unit)) :
    Action.Within R (runFree id sql : Action σ Unit) := by
  refine .bind .get fun w => ?_
  split
  · exact .throw _
  · dsimp only
    split
    · exact staged
    · exact .pure ()

namespace Stages

theorem bind {id : Nat} {first last : List Change} {a : Action σ α} {f : α → Action σ β}
    (before : Stages id first a) (after : ∀ x, Stages id last (f x)) :
    Stages id (first ++ last) (a >>= f) := by
  refine ⟨.bind before.uses fun x => (after x).uses, ?_⟩
  intro w y w₂ staged waiting ran
  obtain ⟨x, w₁, ran₁, ran₂⟩ := Action.bind_eq_ok ran
  rw [← List.append_assoc]
  exact (after x).staged (before.staged waiting ran₁) ran₂

/-- A part that stages nothing may stand in front. -/
theorem after {id : Nat} {changes : List Change} {a : Action σ α} {f : α → Action σ β}
    (before : Stages id [] a) (rest : ∀ x, Stages id changes (f x)) :
    Stages id changes (a >>= f) :=
  before.bind rest

/-- Nothing is staged where the connection itself does not change. -/
theorem of_get?_eq {id : Nat} {a : Action σ α} (uses : Action.Within (Uses id) a)
    (same : ∀ w, Connection.get? id (a w).2 = Connection.get? id w) : Stages id [] a := by
  refine ⟨uses, ?_⟩
  intro w x w' before waiting ran
  obtain ⟨c, found, manual, staged⟩ := waiting
  have kept := same w
  rw [ran] at kept
  exact ⟨c, kept.trans found, manual, by rw [staged, List.append_nil]⟩

theorem pure (id : Nat) (a : α) : Stages id [] (Pure.pure a : Action σ α) :=
  of_get?_eq (.pure a) fun _ => rfl

theorem get (id : Nat) : Stages id [] (MonadState.get : Action σ (World σ)) :=
  of_get?_eq .get fun _ => rfl

theorem ofExcept (id : Nat) (result : Except Fault α) :
    Stages id [] (Action.ofExcept result : Action σ α) :=
  of_get?_eq (.ofExcept result) fun _ => rfl

theorem record (id : Nat) (e : Event) : Stages id [] (Action.record e : Action σ Unit) :=
  of_get?_eq (Connection.record_uses id e) fun _ => rfl

theorem ask (id : Nat) (f : σ → α × σ) : Stages id [] (Action.ask f : Action σ α) :=
  of_get?_eq (Connection.ask_uses id f) fun _ => rfl

theorem throw (id : Nat) (changes : List Change) (fault : Fault) :
    Stages id changes (MonadExcept.throw fault : Action σ α) := by
  refine ⟨.throw fault, ?_⟩
  intro w x w' before _ ran
  cases ran

theorem stageChange (id : Nat) (change : Change) :
    Stages id [change] (Connection.stageChange id change : Action σ Unit) := by
  refine ⟨Connection.modify_uses id _ fun _ => rfl, ?_⟩
  intro w x w' before waiting ran
  obtain ⟨c, found, manual, staged⟩ := waiting
  have changed := Connection.get?_modify id
    (fun c : Connection => { c with stage := c.stage ++ [change] }) w
  rw [found] at changed
  cases ran
  exact ⟨_, changed, manual, by rw [← staged]⟩

variable [Surroundings σ]

theorem touch (id : Nat) {contact : Contact} (use : contact.isUse = true) :
    Stages id [] (Connection.touch id contact : Action σ Unit) := by
  refine ⟨?_, ?_⟩
  · intro w
    obtain ⟨fault, touched, _⟩ := Connection.touch_spec id contact w
    exact touched.uses use
  · intro w x w' before waiting ran
    obtain ⟨fault, touched, _⟩ := Connection.touch_spec id contact w
    rw [ran] at touched
    rw [List.append_nil]
    exact touched.stands waiting

theorem enter (id : Nat) (sql : String) (parameters : Option (List Int)) :
    Stages id [] (Connection.enter id sql parameters : Action σ Unit) :=
  (record id _).after fun _ => touch id rfl

theorem cursor (id : Nat) : Stages id [] (Connection.cursor id : Action σ Unit) :=
  touch id rfl

theorem runFree (id : Nat) (sql : String) :
    Stages id [.run sql] (Connection.runFree id sql : Action σ Unit) := by
  refine ⟨Connection.runFree_within sql (stageChange id _).uses, ?_⟩
  intro w x w' before waiting ran
  have held := waiting
  obtain ⟨c, found, manual, _⟩ := held
  cases refused : Surroundings.refusal? w.surroundings sql with
  | some fault =>
    rw [Connection.runFree, Action.bind_of_ok (Action.get_apply w), refused] at ran
    cases ran
  | none =>
    have ran' : Connection.stageChange id (.run sql) w = (.ok x, w') := by
      simpa [Connection.runFree, Action.bind_apply, refused, found, manual] using ran
    exact (stageChange id (.run sql)).staged waiting ran'

theorem execute (id : Nat) (sql : String) :
    Stages id [.run sql] (Connection.execute id sql : Action σ Unit) :=
  (enter id _ _).after fun _ => runFree id sql

theorem stageDeletion (id : Nat) (g : Granularity) (cutoff : Int) :
    Stages id [.deleteUntil g cutoff] (Connection.stageDeletion id g cutoff : Action σ Int) := by
  refine (get id).after fun _ => ?_
  refine (stageChange id _).bind fun _ => (ask id _).after fun _ => pure id _

theorem deleteUntil (id : Nat) (g : Granularity) (cutoff : Int) :
    Stages id [.deleteUntil g cutoff] (Connection.deleteUntil id g cutoff : Action σ Int) := by
  rw [Connection.deleteUntil_eq]
  exact (enter id _ _).after fun _ => stageDeletion id g cutoff

theorem answerPoints (id : Nat) (g : Granularity) (since limit : Int) :
    Stages id [] (Connection.answerPoints g since limit : Action σ (List Value)) := by
  refine (ask id _).after fun answer => ?_
  cases answer with
  | some rows => exact pure id rows
  | none => exact (get id).after fun _ => pure id _

theorem select (id : Nat) (g : Granularity) (since limit : Int) :
    Stages id [] (Connection.select id g since limit : Action σ (List Value)) := by
  rw [Connection.select_eq]
  exact (enter id _ _).after fun _ => answerPoints id g since limit

theorem handOver (id : Nat) (sql : String) (batch : Batch) :
    Stages id [] (Connection.handOver id sql batch : Action σ Unit) :=
  (record id _).after fun _ => touch id rfl

theorem upsertEach (id : Nat) (sql : String) (index : Nat) (users : List (String × String)) :
    Stages id (users.map fun user => .upsert user.1 user.2)
      (Connection.upsertEach id sql index users : Action σ Unit) := by
  induction users generalizing index with
  | nil => exact pure id ()
  | cons user rest ih =>
    exact (touch id rfl).after fun _ => (stageChange id _).bind fun _ => ih (index + 1)

theorem upsertUsers (id : Nat) (users : List (String × String)) :
    Stages id (users.map fun user => .upsert user.1 user.2)
      (Connection.upsertUsers id users : Action σ Unit) := by
  rw [Connection.upsertUsers_eq]
  exact (handOver id _ _).after fun _ => upsertEach id _ 0 users

theorem insertEach (id : Nat) (g : Granularity) (sql : String) (taken : List Row.Identity)
    (index : Nat) (rows : List Row) :
    Stages id (rows.map (.insert g))
      (Connection.insertEach id g sql taken index rows : Action σ Unit) := by
  induction rows generalizing taken index with
  | nil => exact pure id ()
  | cons row rest ih =>
    refine (touch id rfl).after fun _ => ?_
    split
    · exact throw id _ _
    · exact (stageChange id _).bind fun _ => ih _ (index + 1)

theorem insertRows (id : Nat) (g : Granularity) (rows : List Row) :
    Stages id (rows.map (.insert g)) (Connection.insertRows id g rows : Action σ Unit) := by
  rw [Connection.insertRows_eq]
  exact (handOver id _ _).after fun _ => (get id).after fun _ => insertEach id g _ _ 0 rows

end Stages

end BucketStore
