import BucketStore.CommandLine.Administration
import BucketStore.CommandLine.Generation
import BucketStore.Proofs.Lifecycle
import BucketStore.Proofs.Speech

/-!
Programs leave no pool open. Whatever a program is asked to do, and wherever a fault ends it, each
pool that it made has been closed once, and all connections were back by then.
-/

namespace BucketStore

variable {σ α : Type}

/-! ### Connections -/

/-- The connections that were handed out in between are given back, each once. -/
structure Settled (w w' : World σ) : Prop where
  grown : w.connections.length ≤ w'.connections.length
  trace : ∃ touches, w'.trace = w.trace ++ touches ∧
    (∀ t ∈ touches, ∀ id ∈ t.connection,
      w.connections.length ≤ id ∧ id < w'.connections.length) ∧
    ∀ id, Course id false (touchesOf id touches)

namespace Settled

variable {w w' w'' : World σ}

theorem of_eq (trace : w'.trace = w.trace) (connections : w'.connections = w.connections) :
    Settled w w' := by
  refine ⟨Nat.le_of_eq (by rw [connections]), [], by rw [trace, List.append_nil], nofun, ?_⟩
  exact fun id => .untaken nofun

/-- Connections have numbers of their own, so that no connection is used again once it is back. -/
theorem trans (first : Settled w w') (last : Settled w' w'') : Settled w w'' := by
  obtain ⟨grown, touches, traced, within, course⟩ := first
  obtain ⟨grown', more, traced', within', course'⟩ := last
  refine ⟨Nat.le_trans grown grown', touches ++ more, ?_, ?_, fun id => ?_⟩
  · rw [traced', traced, List.append_assoc]
  · intro t member id there
    obtain early | late := List.mem_append.mp member
    · exact ⟨(within t early id there).1, Nat.lt_of_lt_of_le (within t early id there).2 grown'⟩
    · exact ⟨Nat.le_trans grown (within' t late id there).1, (within' t late id there).2⟩
  · rw [touchesOf_append]
    by_cases known : id < w'.connections.length
    · have none : touchesOf id more = [] := touchesOf_eq_nil fun t member other there same => by
        have := (within' t member other there).1
        omega
      rw [none, List.append_nil]
      exact course id
    · have none : touchesOf id touches = [] := touchesOf_eq_nil fun t member other there same => by
        have := (within t member other there).2
        omega
      rw [none, List.nil_append]
      exact course' id

instance : IsPreorder (World σ) Settled where
  refl _ := .of_eq rfl rfl
  trans _ _ _ := .trans

/-- An operation is done with its connection when it ends. -/
theorem of_effect {whole : List Change → Prop} {committed : Bool}
    (effect : Effect whole committed w w') : Settled w w' := by
  obtain ⟨touches, traced, exchange, known⟩ := effect.trace
  refine ⟨effect.grown, touches, traced, fun t member id there => ?_, fun id => ?_⟩
  · have same := exchange.one t member id there
    exact ⟨Nat.le_of_eq same.symm, known t member id there⟩
  · by_cases same : id = w.connections.length
    · exact same ▸ exchange.course
    · have none : touchesOf id touches = [] := touchesOf_eq_nil fun t member other there =>
        exchange.one t member other there ▸ Ne.symm same
      rw [none]
      exact .untaken nofun

end Settled

/-! ### Pools -/

/-- Pools that were made in between and closed again: each of them was closed once, in order, when
none of its connections was out. No other pool was closed. -/
structure Disposes (made : List PoolState) (w w' : World σ) : Prop where
  closed : ∀ p ∈ made, p.closed = true ∧ p.out = 0
  disposals : w'.disposals
    = w.disposals ++ (List.range' w.pools.length made.length).map fun pool => (pool, 0)
  closings : closings w' = closings w + made.length

/-- Every pool that was made in between is closed, and every connection is back. -/
structure Tidy (w w' : World σ) : Prop extends Settled w w' where
  pools : ∃ made, w'.pools = w.pools ++ made ∧ Disposes made w w'

/-- As tidy as it can be while a pool is open, of which no connection is out. -/
structure Opened (pool : Pool.Id) (w w' : World σ) : Prop extends Settled w w' where
  pools : ∃ made p, w'.pools = w.pools ++ made ++ [p] ∧ pool = (w.pools ++ made).length ∧
    p.out = 0 ∧ p.retired = false ∧ Disposes made w w'

/-- Nothing was done to any pool, and every connection is back. -/
structure Spares (w w' : World σ) : Prop extends Settled w w' where
  pools : w'.pools = w.pools
  disposals : w'.disposals = w.disposals
  closings : closings w' = closings w

section

variable {made more : List PoolState} {pool : Pool.Id} {w w₁ w₂ w' : World σ}

theorem Disposes.trans (pools : w₁.pools = w.pools ++ made) (first : Disposes made w w₁)
    (last : Disposes more w₁ w') : Disposes (made ++ more) w w' := by
  refine ⟨fun p member => ?_, ?_, ?_⟩
  · exact (List.mem_append.mp member).elim (first.closed p) (last.closed p)
  · rw [last.disposals, first.disposals, pools, List.length_append, List.length_append,
      List.append_assoc, ← List.map_append]
    congr 2
    exact (List.range'_append_1 ..)
  · rw [last.closings, first.closings, List.length_append, Nat.add_assoc]

theorem Disposes.congr (first : Disposes made w w') (disposals : w₂.disposals = w'.disposals)
    (same : BucketStore.closings w₂ = BucketStore.closings w') : Disposes made w w₂ :=
  ⟨first.closed, disposals.trans first.disposals, same.trans first.closings⟩

theorem Disposes.nothing (disposals : w'.disposals = w.disposals)
    (same : BucketStore.closings w' = BucketStore.closings w) : Disposes [] w w' :=
  ⟨nofun, by simpa using disposals, same⟩

instance : IsPreorder (World σ) Spares where
  refl w := ⟨refl_of Settled w, rfl, rfl, rfl⟩
  trans _ _ _ first last :=
    ⟨first.toSettled.trans last.toSettled, last.pools.trans first.pools,
      last.disposals.trans first.disposals, last.closings.trans first.closings⟩

theorem Spares.tidy (spared : Spares w w') : Tidy w w' :=
  ⟨spared.toSettled, [], by rw [spared.pools, List.append_nil],
    .nothing spared.disposals spared.closings⟩

instance : IsPreorder (World σ) Tidy where
  refl w := Spares.tidy (refl_of Spares w)
  trans _ _ _ first last := by
    obtain ⟨settled, made, pools, disposes⟩ := first
    obtain ⟨settled', more, pools', disposes'⟩ := last
    refine ⟨settled.trans settled', made ++ more, ?_, disposes.trans pools disposes'⟩
    rw [pools', pools, List.append_assoc]

theorem Tidy.opened (tidy : Tidy w w₁) (opened : Opened pool w₁ w') : Opened pool w w' := by
  obtain ⟨settled, made, pools, disposes⟩ := tidy
  obtain ⟨settled', more, p, pools', here, out, unretired, disposes'⟩ := opened
  refine ⟨settled.trans settled', made ++ more, p, ?_, ?_, out, unretired,
    disposes.trans pools disposes'⟩
  · rw [pools', pools, List.append_assoc w.pools]
  · rw [here, pools, List.append_assoc]

theorem Opened.spares (opened : Opened pool w w₁) (spared : Spares w₁ w') : Opened pool w w' := by
  obtain ⟨settled, made, p, pools, here, out, unretired, disposes⟩ := opened
  exact ⟨settled.trans spared.toSettled, made, p, spared.pools.trans pools, here, out, unretired,
    disposes.congr spared.disposals spared.closings⟩

end

section

variable {β : Type} {held : α → Option Pool.Id} {w w₁ w' : World σ}

/-- All is tidy, but for a pool that is held open. -/
def Holds (w w' : World σ) : Option Pool.Id → Prop
  | some pool => Opened pool w w'
  | none => Tidy w w'

theorem Holds.after {pool : Option Pool.Id} (tidy : Tidy w w₁) (holds : Holds w₁ w' pool) :
    Holds w w' pool := by
  cases pool with
  | some pool => exact tidy.opened holds
  | none => exact trans_of Tidy tidy holds

theorem Holds.spares {pool : Option Pool.Id} (holds : Holds w w₁ pool) (spared : Spares w₁ w') :
    Holds w w' pool := by
  cases pool with
  | some pool => exact Opened.spares holds spared
  | none => exact trans_of Tidy holds spared.tidy

/-- How an action ends that may open a pool, which its result holds. -/
def Leaves (held : α → Option Pool.Id) (w w' : World σ) : Except Fault α → Prop
  | .ok x => Holds w w' (held x)
  | .error _ => Tidy w w'

def Action.Opens (held : α → Option Pool.Id) (a : Action σ α) : Prop :=
  ∀ w, Leaves held w (a w).2 (a w).1

theorem Leaves.after {result : Except Fault α} (tidy : Tidy w w₁)
    (leaves : Leaves held w₁ w' result) : Leaves held w w' result := by
  cases result with
  | error fault => exact trans_of Tidy tidy leaves
  | ok x => exact Holds.after tidy leaves

namespace Action.Opens

theorem throw (fault : Fault) : Opens held (MonadExcept.throw fault : Action σ α) :=
  fun w => refl_of Tidy w

theorem nothing {x : α} (none : held x = none) : Opens held (pure x : Action σ α) := by
  intro w
  change Holds w w (held x)
  rw [none]
  exact refl_of Tidy w

theorem bind {a : Action σ β} {f : β → Action σ α} (first : Within Tidy a)
    (rest : ∀ x, Opens held (f x)) : Opens held (a >>= f) := by
  intro w
  have before := first w
  rcases ran : a w with ⟨fault | x, w₁⟩ <;> rw [ran] at before
  · rw [bind_of_error ran]
    exact before
  · rw [bind_of_ok ran]
    exact (rest x w₁).after before

/-- A pool that was opened is handed on by what only speaks about it. -/
theorem attempt {held' : β → Option Pool.Id} {a : Action σ α} {f : Except Fault α → Action σ β}
    (first : Opens held a)
    (opened : ∀ x w, ∃ y, (f (.ok x) w).1 = .ok y ∧ held' y = held x ∧ Spares w (f (.ok x) w).2)
    (failed : ∀ fault, Opens held' (f (.error fault))) : Opens held' (Action.attempt a >>= f) := by
  intro w
  rw [attempt_bind]
  have before := first w
  rcases ran : a w with ⟨fault | x, w₁⟩ <;> rw [ran] at before
  · exact (failed fault w₁).after before
  · obtain ⟨y, answered, same, spared⟩ := opened x w₁
    dsimp only
    rw [answered]
    change Holds w _ (held' y)
    rw [same]
    exact Holds.spares before spared

theorem map {held' : β → Option Pool.Id} {a : Action σ α} {f : α → β} (first : Opens held a)
    (same : ∀ x, held' (f x) = held x) : Opens held' (a >>= fun x => pure (f x)) := by
  intro w
  rw [bind_pure_apply]
  have before := first w
  rcases ran : a w with ⟨fault | x, w₁⟩ <;> rw [ran] at before
  · exact before
  · change Holds w w₁ (held' (f x))
    rw [same]
    exact before

/-- What goes on with an open pool has to close it. -/
theorem used {a : Action σ α} {f : α → Action σ β} (first : Opens held a)
    (rest : ∀ x {w w₁}, Holds w w₁ (held x) → Tidy w (f x w₁).2) : Within Tidy (a >>= f) := by
  intro w
  have before := first w
  rcases ran : a w with ⟨fault | x, w₁⟩ <;> rw [ran] at before
  · rw [bind_of_error ran]
    exact before
  · rw [bind_of_ok ran]
    exact rest x before

end Action.Opens

theorem Action.Within.forM {R : World σ → World σ → Prop} [IsPreorder (World σ) R]
    {f : α → Action σ Unit} (each : ∀ x, Within R (f x)) (xs : List α) : Within R (xs.forM f) := by
  induction xs with
  | nil => exact .pure _
  | cons x rest ih => exact .bind (each x) fun _ => ih

theorem Action.Within.tidy {a : Action σ α} (within : Within Spares a) : Within Tidy a :=
  fun w => (within w).tidy

end

/-! ### Opening and closing -/

theorem Spares.of_spoken {w w' : World σ} (spoken : Spoken w w') : Spares w w' := by
  obtain ⟨_, _, _, rfl⟩ := spoken
  exact ⟨.of_eq rfl rfl, rfl, rfl, rfl⟩

theorem Action.Within.spares {a : Action σ α} (spoken : Within Spoken a) : Within Spares a :=
  fun w => .of_spoken (spoken w)

theorem Spares.record {e : Event} (other : e.isClosing = false) :
    Action.Within Spares (Action.record e : Action σ Unit) := by
  refine fun w => ⟨.of_eq rfl rfl, rfl, rfl, (closings_concat w e).trans ?_⟩
  rw [other]
  rfl

theorem Spares.ask {β : Type} (f : σ → β × σ) : Action.Within Spares (Action.ask f) :=
  fun _ => ⟨.of_eq rfl rfl, rfl, rfl, rfl⟩

namespace Manager

variable [Surroundings σ] {s : DatabaseSettings}

/-- A pool that could not be opened is closed again. -/
theorem openPoolOnce_opens_tidily (s : DatabaseSettings) :
    Action.Opens some (openPoolOnce s : Action σ Pool.Id) := by
  intro w
  cases usable : s.conninfo with
  | error fault =>
    have failed : Action.ofExcept s.conninfo w = (.error fault, w) := by
      rw [usable]
      rfl
    rw [openPoolOnce, Action.bind_of_error failed]
    exact refl_of Tidy w
  | ok conninfo =>
    rw [openPoolOnce_apply usable]
    cases (Pool.tryOutcome w.surroundings).1 with
    | none =>
      refine ⟨.of_eq rfl rfl, [], { Pool.fresh s with closed := false }, ?_, ?_, rfl, rfl, ?_⟩
      · rw [List.append_nil]
        rfl
      · rw [List.append_nil]
      · refine .nothing (List.append_nil _) ?_
        simp [closings, Pool.tryEvents, Event.isClosing]
    | some fault =>
      refine ⟨.of_eq rfl rfl, [Pool.fresh s], rfl, ?_, rfl, ?_⟩
      · intro p member
        rw [List.mem_singleton.mp member]
        exact ⟨rfl, rfl⟩
      · simp [closings, Pool.tryEvents, Event.isClosing]

theorem openPool_opens_tidily {retry : Retry} (made left : Nat) :
    Action.Opens some (openPool s retry made left : Action σ Pool.Id) := by
  induction left generalizing made with
  | zero => exact openPoolOnce_opens_tidily s
  | succ left ih =>
    rw [openPool]
    refine .attempt (openPoolOnce_opens_tidily s) (fun pool w => ⟨pool, rfl, rfl, refl_of Spares w⟩)
      fun fault => ?_
    dsimp only
    split
    · refine .bind (.ofExcept _) fun pause => .bind (.ofExcept _) fun spent => ?_
      have again : Action.Opens some (Action.record (.sleep pause) >>= fun _ =>
          openPool s retry (made + 1) left : Action σ Pool.Id) :=
        .bind (Spares.record rfl).tidy fun _ => ih _
      split
      · exact .bind (.throw _) fun _ => again
      · exact again
    · exact .throw fault

/-- The pool of a manager. -/
def pool? : Manager → Option Pool.Id
  | .disabled => none
  | .enabled pool _ => some pool

theorem make_opens_tidily (source : Option (List (String × Value))) (retry : Retry) :
    Action.Opens pool? (make source retry : Action σ Manager) := by
  rw [make]
  have logs (entry : LogEntry) : Action.Within Spares (Action.log entry : Action σ Unit) :=
    (Spoken.log entry).spares
  refine .bind (readSource_spoken source).spares.tidy fun settings => ?_
  cases settings with
  | none => exact .nothing rfl
  | some settings =>
    refine .bind (logs _).tidy fun _ => .bind (logs _).tidy fun _ =>
      .bind (logs _).tidy fun _ => ?_
    refine .attempt (openPool_opens_tidily 0 _) (fun pool w => ?_) fun fault => ?_
    · exact ⟨_, rfl, rfl, logs _ w⟩
    · dsimp only
      split
      · exact .bind (logs _).tidy fun _ => .nothing rfl
      · exact .throw fault

theorem ofSettings_opens_tidily (settings : Settings) (file : String → Properties.File) :
    Action.Opens pool? (ofSettings settings file : Action σ Manager) :=
  .bind (readProperties_spoken _ _).spares.tidy fun _ => make_opens_tidily _ _

end Manager

section

variable [Surroundings σ] {w w₁ : World σ}

/-- A pool that is held open is closed. -/
theorem Manager.close_tidy (m : Manager) (holds : Holds w w₁ m.pool?) : Tidy w (m.close w₁).2 := by
  cases m with
  | disabled => exact holds
  | enabled pool settings =>
    obtain ⟨settled, made, p, pools, here, out, unretired, disposes⟩ := (holds : Opened pool w w₁)
    have found : Pool.get? pool w₁ = some p := by
      rw [Pool.get?, pools, here, List.getElem?_concat_length]
    obtain ⟨surroundings, journal, ended⟩ := close_first found unretired settings
    rw [ended, out]
    refine ⟨settled.trans (.of_eq rfl rfl), made ++ [{ p with retired := true, closed := true }],
      ?_, ?_, ?_, ?_⟩
    · dsimp only
      rw [pools, here, Pool.modify_last, Pool.modify_last, List.append_assoc]
    · intro q member
      obtain earlier | last := List.mem_append.mp member
      · exact disposes.closed q earlier
      · rw [List.mem_singleton.mp last]
        exact ⟨rfl, out⟩
    · dsimp only
      rw [disposes.disposals, List.length_append, List.length_singleton, List.range'_concat,
        List.map_append, here, List.length_append]
      simp
    · refine (closings_concat w₁ .closePool).trans ?_
      rw [disposes.closings, List.length_append, Nat.add_assoc]
      rfl

omit [Surroundings σ] in
theorem Tidy.before {β : Type} {a : Action σ α} {f : α → Action σ β} (tidy : Tidy w (a w₁).2)
    (rest : ∀ x, Action.Within Spares (f x)) : Tidy w ((a >>= f) w₁).2 := by
  rcases ran : a w₁ with ⟨fault | x, w₂⟩ <;> rw [ran] at tidy
  · rw [Action.bind_of_error ran]
    exact tidy
  · rw [Action.bind_of_ok ran]
    exact trans_of Tidy tidy (rest x w₂).tidy

/-- The pool is closed however its use ends. -/
theorem Manager.ensuring_tidy (m : Manager) {body : Action σ α}
    (spares : Action.Within Spares body) (holds : Holds w w₁ m.pool?) :
    Tidy w (Action.ensuring body m.close w₁).2 := by
  rw [Action.ensuring_snd]
  exact m.close_tidy (holds.spares (spares w₁))

end

/-! ### Operations -/

/-- An operation closes no pool. -/
instance : Frame (fun w w' : World σ => w'.disposals = w.disposals) where
  refl _ := rfl
  trans _ _ _ first last := Eq.trans last first
  unseen _ _ same := same
  exchange _ _ _ := rfl
  debug _ _ _ := rfl

section

variable [Surroundings σ]

private theorem Operation.perform_spares (m : Manager) (op : Operation) (policy : Policy) :
    Action.Within Spares (op.perform m policy : Action σ Answer) := by
  intro w
  obtain ⟨_, effect⟩ := op.perform_effect m policy w
  refine ⟨.of_effect effect, effect.pools, ?_, op.perform_unclosing m policy w⟩
  have kept : Action.Within (fun w w' : World σ => w'.disposals = w.disposals)
      (op.perform m policy : Action σ Answer) :=
    Operation.perform_within
      (fun remarks => by obtain ⟨entries, rfl⟩ := remarks; rfl)
      (fun _ _ => rfl) (fun framed => m.withConnection_framed (Batch.block_framed framed)) op policy
  exact kept w

/-- What an operation is made of does as it does. -/
theorem Spares.of_perform {m : Manager} {policy : Policy} {a : Action σ α} {f : α → Answer}
    (op : Operation) (whole : op.perform m policy = a >>= fun x => pure (f x)) :
    Action.Within Spares a := by
  intro w
  have spared := op.perform_spares m policy w
  rw [whole, Action.bind_pure_apply] at spared
  exact spared

end

/-! ### Programs -/

namespace CommandLine

variable (host : Host)

variable [Surroundings σ]

private theorem executeStatement_spares (m : Manager) (sql : String) :
    Action.Within Spares (executeStatement host m sql : Action σ (Option BatchResult)) := by
  intro w
  have executed : Action.Within Spares (Store.executeSql m sql .strict : Action σ BatchResult) :=
    .of_perform (.executeSql sql) rfl
  exact trans_of Spares (executed w) (.of_spoken (executeStatement_spoken host m sql w))

private theorem Generation.store_spares (m : Manager) (order : Generation) (nowMillis : Int)
    (g : Granularity) :
    Action.Within Spares (Generation.store host m order nowMillis g : Action σ Unit) :=
  .bind (Spares.of_perform (.insertAverages _ g) rfl) fun _ => (host.print_spoken _).spares

theorem Host.connect_opens_tidily :
    Action.Opens (fun connected => connected.2.pool?)
      (host.connect : Action σ (Settings × Manager)) :=
  .bind (.ofExcept _) fun settings => .bind (Spares.record rfl).tidy fun _ =>
    .bind (.ofExcept _) fun _ =>
      .map (Manager.ofSettings_opens_tidily settings host.file) fun _ => rfl

theorem Command.perform_tidy (command : Command) :
    Action.Within Tidy (command.perform host : Action σ Nat) := by
  refine host.connect_opens_tidily.used ?_
  rintro ⟨settings, m⟩ w w₁ holds
  cases command with
  | info => exact Tidy.before (m.ensuring_tidy (host.print_spoken _).spares holds) fun _ => .pure _
  | purge now =>
    refine Tidy.before (m.ensuring_tidy ?_ holds) fun _ => .pure _
    exact .bind (Spares.of_perform (.purge now) rfl) fun _ => (printReport_spoken host _).spares
  | query g since limit =>
    refine Tidy.before (m.ensuring_tidy ?_ holds) fun _ => .pure _
    exact .bind (Spares.of_perform (.selectPoints since limit g) rfl) fun _ =>
      (printReport_spoken host _).spares
  | execute sql =>
    refine Tidy.before (m.ensuring_tidy (executeStatement_spares host m sql) holds) fun result => ?_
    cases result with
    | some result => exact .bind (printReport_spoken host _).spares fun _ => .pure _
    | none => exact .pure _

theorem Generation.perform_tidy (order : Generation) :
    Action.Within Tidy (order.perform host : Action σ Nat) := by
  refine host.connect_opens_tidily.used ?_
  rintro ⟨settings, m⟩ w w₁ holds
  dsimp only
  split
  next disabled =>
    cases m with
    | enabled pool settings => cases disabled
    | disabled =>
      refine trans_of Tidy holds (Action.Within.tidy (.bind (host.complain_spoken _).spares ?_) w₁)
      exact fun _ => .pure _
  · rw [Action.bind_of_ok (Action.get_apply w₁), Action.bind_of_ok (Action.ask_apply _ w₁)]
    have ticked := Holds.spares holds (Spares.ask Surroundings.tick w₁)
    refine Tidy.before (m.ensuring_tidy ?_ ticked) fun _ => .bind (Spares.ask _) fun _ =>
      .bind (host.print_spoken _).spares fun _ => .pure _
    exact .forM (fun g => Generation.store_spares host m order _ g) _

omit [Surroundings σ] in
theorem obey_tidy (usage : String) (order : Order α) {perform : α → Action σ Nat}
    (tidy : ∀ order, Action.Within Tidy (perform order)) :
    Action.Within Tidy (obey usage order perform) := by
  rcases order with misuse | _ | order
  · exact (Action.Within.bind (Spoken.complain _) fun _ => .pure misused).spares.tidy
  · exact (Action.Within.bind (Spoken.print usage) fun _ => .pure 0).spares.tidy
  · exact tidy order

/-- No program leaves a pool open, whatever it is asked to do and wherever a fault ends it. -/
theorem programs_tidy (args : List String) (w : World σ) :
    Tidy w (administer host args w).2 ∧ Tidy w (generate host args w).2 :=
  ⟨obey_tidy _ _ (Command.perform_tidy host) w, obey_tidy _ _ (Generation.perform_tidy host) w⟩

end CommandLine

end BucketStore
