import BucketStore.Proofs.Operations

/-!
The failure policy decides how a failure is reported, and nothing else. Two runs of an operation
that differ in their policy make the same contacts and end in the same world, except for the
journal.
-/

namespace BucketStore

variable {σ α β γ : Type}

/-- How the outcomes of a strict and of a tolerant run are related. -/
inductive Alike (outside : Fault → Prop) (tells : Fault → β → Prop) :
    Except Fault β → Except Fault β → Prop where
  | same (answer : β) : Alike outside tells (.ok answer) (.ok answer)
  | both (fault : Fault) (cause : fault.isError = false ∨ outside fault) :
      Alike outside tells (.error fault) (.error fault)
  | told (error : Fault) (answer : β) (told : tells error answer) :
      Alike outside tells (.error error) (.ok answer)

theorem Alike.map {outside : Fault → Prop} {tells : Fault → β → Prop} {tells' : Fault → γ → Prop}
    {strict tolerant : Except Fault β} (alike : Alike outside tells strict tolerant) (f : β → γ)
    (kept : ∀ error answer, tells error answer → tells' error (f answer)) :
    Alike outside tells' (strict.map f) (tolerant.map f) := by
  cases alike with
  | same answer => exact .same (f answer)
  | both fault cause => exact .both fault cause
  | told error answer told => exact .told error (f answer) (kept error answer told)

/-- A strict and a tolerant run: their worlds differ in the journal only, and their outcomes are
alike. -/
structure Twins (outside : Fault → Prop) (tells : Fault → β → Prop)
    (strict tolerant : Except Fault β × World σ) : Prop where
  world : strict.2 = { tolerant.2 with journal := strict.2.journal }
  outcome : Alike outside tells strict.1 tolerant.1

/-- A summary tells of an error: nothing was written, and its text and name are given. -/
def BatchResult.Tells (error : Fault) (r : BatchResult) : Prop :=
  r.rows = 0 ∧ r.error = some error.message ∧
    ∃ details, r.details = some details ∧
      details.lookup "error_type" = some (.text error.name)

/-- What an operation answers that tells of an error. -/
def Operation.Tells (error : Fault) (answer : Answer) : Operation → Prop
  | .selectPoints .. => answer = .points []
  | .purge _ => ∃ summary, answer = .summary summary ∧ summary.Tells error ∧
      summary.removed = some [(.minute, 0), (.hourly, 0)]
  | _ => ∃ summary, answer = .summary summary ∧ summary.Tells error

/-- The clock shows no duration between its next reading and a later one. -/
def Surroundings.Irregular [Surroundings σ] (started : σ) (p : Problem) : Prop :=
  ∃ ended : σ, Stopwatch.millis ⟨(tick started).1, (tick ended).1⟩ = .error p

/-- The faults that an operation raises outside its batch: about a moment that is too early for the
retention of a table, or about the clock. -/
def Operation.RaisesOutside [Surroundings σ] (w : World σ) (op : Operation) (fault : Fault) :
    Prop :=
  (∃ now p, op = .purge now ∧ fault = .problem p ∧
      Store.cutoffs (now.getD (Surroundings.now w.surroundings)) = .error p) ∨
    ∃ p, fault = .problem p ∧ Surroundings.Irregular w.surroundings p

namespace Twins

variable {outside : Fault → Prop} {tells : Fault → β → Prop}

theorem of_eq {ran : Except Fault β × World σ}
    (cause : ∀ fault, ran.1 = .error fault → fault.isError = false ∨ outside fault) :
    Twins outside tells ran ran := by
  refine ⟨rfl, ?_⟩
  cases outcome : ran.1 with
  | ok answer => exact .same answer
  | error fault => exact .both fault (cause fault outcome)

/-- What has to be found out first may fail. -/
theorem of_result {result : Except Fault α} {strict tolerant : α → Action σ β} {w : World σ}
    (cause : ∀ fault, result = .error fault → fault.isError = false ∨ outside fault)
    (rest : ∀ x, result = .ok x → Twins outside tells (strict x w) (tolerant x w)) :
    Twins outside tells ((Action.ofExcept result >>= strict) w)
      ((Action.ofExcept result >>= tolerant) w) := by
  cases result with
  | error fault =>
    refine of_eq fun failure failed => ?_
    cases failed
    exact cause fault rfl
  | ok x => exact rest x rfl

/-- Answers may be given another form. -/
theorem bind_pure {tells' : Fault → γ → Prop} {strict tolerant : Action σ β} {w : World σ}
    (twins : Twins outside tells (strict w) (tolerant w)) (f : β → γ)
    (kept : ∀ error answer, tells error answer → tells' error (f answer)) :
    Twins outside tells' ((strict >>= fun x => pure (f x)) w)
      ((tolerant >>= fun x => pure (f x)) w) := by
  obtain ⟨world, outcome⟩ := twins
  rw [Action.bind_pure_apply, Action.bind_pure_apply]
  exact ⟨world, outcome.map f kept⟩

end Twins

/-- What follows a batch ends in a given answer, unless the clock shows no duration. -/
def Finishes (finish : BatchResult × Option α → Action σ β)
    (answer : BatchResult × Option α → β) : Prop :=
  ∀ batch w,
    (∃ p, Stopwatch.wholeMillis batch.1.seconds = .error p ∧
      finish batch w = (.error (.problem p), w)) ∨
    (finish batch w).1 = .ok (answer batch) ∧ Remarks w (finish batch w).2

theorem Finishes.pure (answer : BatchResult × Option α → β) :
    Finishes (fun batch => (Pure.pure (answer batch) : Action σ β)) answer :=
  fun _ w => .inr ⟨rfl, refl_of Remarks w⟩

theorem Finishes.finish {answer : BatchResult × Option α → BatchResult}
    {message : BatchResult × Option α → String → String}
    {details : BatchResult × Option α → List (String × Value)}
    (seconds : ∀ batch, (answer batch).seconds = batch.1.seconds) :
    Finishes (fun batch => (Batch.finish (answer batch) (message batch) (details batch) :
      Action σ BatchResult)) answer := by
  intro batch w
  dsimp only [Batch.finish]
  split
  · rw [seconds batch]
    cases shown : Stopwatch.wholeMillis batch.1.seconds with
    | error p => exact .inl ⟨p, rfl, Action.bind_of_error (Batch.logTimed_of_error rfl _ w)⟩
    | ok millis =>
      rw [Action.bind_of_ok (Batch.logTimed_of_ok rfl _ w)]
      exact .inr ⟨rfl, _, rfl⟩
  · exact .inr ⟨rfl, refl_of Remarks w⟩

namespace Batch

section Logged

variable {operation : String} {attempted : Int} {details : List (String × Value)}
  {watch : Stopwatch}

theorem conclude_strict {fault : Fault} (caught : fault.isError = true) :
    (conclude operation attempted .strict details (.error fault) watch :
      Action σ (BatchResult × Option α)) = (do
        logRaised operation watch (reported operation fault)
        throw (reported operation fault)) := by
  simp [conclude, caught]

theorem conclude_tolerant {fault : Fault} (caught : fault.isError = true) :
    (conclude operation attempted .tolerant details (.error fault) watch :
      Action σ (BatchResult × Option α)) = (do
        logTolerated operation attempted watch (reported operation fault) details
        return ({ operation, seconds := watch.seconds,
                  error := some (reported operation fault).message,
                  details := some (putEntry details "error_type"
                    (.text (reported operation fault).name)) }, none)) := by
  simp [conclude, caught]

end Logged

/-- A failure that a tolerant batch tells of. -/
theorem conclude_tells {watch : Stopwatch} {fault : Fault} {millis : Int}
    (caught : fault.isError = true) (shown : watch.millis = .ok millis) (operation : String)
    (attempted : Int) (details : List (String × Value)) (w : World σ) :
    ∃ summary entry, summary.Tells (reported operation fault) ∧ summary.seconds = watch.seconds ∧
      (conclude operation attempted .tolerant details (.error fault) watch :
        Action σ (BatchResult × Option α)) w
          = (.ok (summary, none), { w with journal := w.journal ++ [entry] }) := by
  let error := reported operation fault
  let summary : BatchResult :=
    { operation, seconds := watch.seconds, error := some error.message,
      details := some (putEntry details "error_type" (.text error.name)) }
  obtain ⟨entry, tolerated⟩ : ∃ entry, logTolerated operation attempted watch error details w
      = (.ok (), { w with journal := w.journal ++ [entry] }) := ⟨_, logTimed_of_ok shown _ w⟩
  refine ⟨summary, entry, ⟨rfl, rfl, _, rfl, lookup_putEntry_self ..⟩, rfl, ?_⟩
  rw [conclude_tolerant caught, Action.bind_of_ok tolerated]
  rfl

variable {outside : Fault → Prop} {tells : Fault → β → Prop}
  {finish : BatchResult × Option α → Action σ β} {answer : BatchResult × Option α → β}

/-- A failure that is told: raised under one policy, answered under the other. -/
theorem conclude_twins_of_shown {watch : Stopwatch} {millis : Int} {fault : Fault}
    (finishes : Finishes finish answer) (shown : watch.millis = .ok millis)
    (caught : fault.isError = true) (operation : String) (attempted : Int)
    (details : List (String × Value))
    (kept : ∀ error summary, summary.Tells error → tells error (answer (summary, none)))
    (w : World σ) :
    Twins outside tells
      ((conclude operation attempted .strict details (.error fault) watch >>= finish) w)
      ((conclude operation attempted .tolerant details (.error fault) watch >>= finish) w) := by
  let error := reported operation fault
  obtain ⟨summary, entry', telling, seconds, told⟩ :=
    conclude_tells caught shown operation attempted details w
  obtain ⟨entry, raised⟩ : ∃ entry, logRaised operation watch error w
      = (.ok (), { w with journal := w.journal ++ [entry] }) := ⟨_, logTimed_of_ok shown _ w⟩
  have strict : (conclude operation attempted .strict details (.error fault) watch >>= finish) w
      = (.error error, { w with journal := w.journal ++ [entry] }) := by
    refine Action.bind_of_error ?_
    rw [conclude_strict caught, Action.bind_of_ok raised, Action.throw_apply]
  rw [strict, Action.bind_of_ok told]
  rcases finishes (summary, none) { w with journal := w.journal ++ [entry'] } with
    ⟨p, irregular, _⟩ | ⟨ended, entries, remarked⟩
  · rw [seconds] at irregular
    cases shown.symm.trans irregular
  · refine ⟨?_, ?_⟩
    · rw [remarked]
    · rw [ended]
      exact .told error _ (kept error summary telling)

/-- A failure that no policy catches, or whose duration the clock does not show. -/
theorem conclude_fails {watch : Stopwatch} {fault failure : Fault}
    (fails : fault.isError = false ∧ failure = fault ∨
      fault.isError = true ∧ ∃ p, watch.millis = .error p ∧ failure = .problem p)
    (operation : String) (attempted : Int) (policy : Policy) (details : List (String × Value))
    (w : World σ) :
    (conclude operation attempted policy details (.error fault) watch >>= finish) w
      = (.error failure, w) := by
  refine Action.bind_of_error ?_
  rcases fails with ⟨uncaught, rfl⟩ | ⟨caught, p, shown, rfl⟩
  · simp [conclude, uncaught]
  · cases policy with
    | strict =>
      rw [conclude_strict caught, logRaised, Action.bind_of_error (logTimed_of_error shown _ w)]
    | tolerant =>
      rw [conclude_tolerant caught, logTolerated,
        Action.bind_of_error (logTimed_of_error shown _ w)]

/-- The policies part only when a batch is concluded. -/
theorem conclude_twins (finishes : Finishes finish answer) (operation : String) (attempted : Int)
    (details : List (String × Value)) (result : Except Fault α) (watch : Stopwatch)
    (irregular : ∀ p, watch.millis = .error p → outside (.problem p))
    (kept : ∀ error summary, summary.Tells error → tells error (answer (summary, none)))
    (w : World σ) :
    Twins outside tells
      ((conclude operation attempted .strict details result watch >>= finish) w)
      ((conclude operation attempted .tolerant details result watch >>= finish) w) := by
  cases result with
  | ok x =>
    let summary : BatchResult :=
      { operation, rows := attempted, seconds := watch.seconds, details := some details }
    have ran (policy : Policy) :
        (conclude operation attempted policy details (.ok x) watch >>= finish) w
          = finish (summary, some x) w := rfl
    rw [ran, ran]
    refine .of_eq fun fault failed => .inr ?_
    rcases finishes (summary, some x) w with ⟨p, shown, ended⟩ | ⟨ended, _⟩
    · rw [ended] at failed
      cases failed
      exact irregular p shown
    · rw [ended] at failed
      cases failed
  | error fault =>
    cases caught : fault.isError with
    | false =>
      rw [conclude_fails (.inl ⟨caught, rfl⟩), conclude_fails (.inl ⟨caught, rfl⟩)]
      refine .of_eq fun failure failed => .inl ?_
      cases failed
      exact caught
    | true =>
      cases shown : watch.millis with
      | error p =>
        rw [conclude_fails (.inr ⟨caught, p, shown, rfl⟩),
          conclude_fails (.inr ⟨caught, p, shown, rfl⟩)]
        refine .of_eq fun failure failed => .inr ?_
        cases failed
        exact irregular p shown
      | ok millis => exact conclude_twins_of_shown finishes shown caught _ _ _ kept w

theorem run_twins [Surroundings σ] {work : Nat → Action σ α} (finishes : Finishes finish answer)
    (m : Manager) (operation : String) (attempted : Int) (details : List (String × Value))
    {w : World σ} (irregular : ∀ p, Surroundings.Irregular w.surroundings p → outside (.problem p))
    (kept : ∀ error summary, summary.Tells error → tells error (answer (summary, none))) :
    Twins outside tells ((run m operation attempted .strict details work >>= finish) w)
      ((run m operation attempted .tolerant details work >>= finish) w) := by
  let begun := Surroundings.tick w.surroundings
  let leased := m.withConnection (block work) { w with surroundings := begun.2 }
  let ended := Surroundings.tick leased.2.surroundings
  have ran (policy : Policy) : (run m operation attempted policy details work >>= finish) w
      = (conclude operation attempted policy details leased.1 ⟨begun.1, ended.1⟩ >>= finish)
        { leased.2 with surroundings := ended.2 } := rfl
  rw [ran, ran]
  exact conclude_twins finishes operation attempted details leased.1 ⟨begun.1, ended.1⟩
    (fun p shown => irregular p ⟨_, shown⟩) kept _

end Batch

namespace Store

/-- What a purge that failed has removed. -/
theorem removed_zeros {now : Moment} {entries : List (Granularity × Int)}
    (found : cutoffs now = .ok entries) :
    entries.map (fun entry => (entry.1, (0 : Int))) = [(.minute, 0), (.hourly, 0)] := by
  cases cutoffs_forall₂ found with
  | cons first rest =>
    cases rest with
    | cons second rest =>
      cases rest
      obtain ⟨_, _, _, minute⟩ := first
      obtain ⟨_, _, _, hourly⟩ := second
      rw [List.map_cons, List.map_cons, ← minute, ← hourly]
      rfl

variable [Surroundings σ] {outside : Fault → Prop} (m : Manager) {w : World σ}
  (irregular : ∀ p, Surroundings.Irregular w.surroundings p → outside (.problem p))

include irregular

theorem saveUsers_twins (users : List UserEntry) :
    Twins outside (fun error summary => summary.Tells error) (saveUsers m users .strict w)
      (saveUsers m users .tolerant w) := by
  dsimp only [saveUsers]
  split
  · exact .of_eq nofun
  · rw [Batch.inform_bind, Batch.inform_bind]
    exact Batch.run_twins (.finish fun _ => rfl) m _ _ _ irregular fun _ _ told => told

theorem insertAverages_twins (entries : List (BucketKey × Averaged)) (g : Granularity) :
    Twins outside (fun error summary => summary.Tells error) (insertAverages m entries g .strict w)
      (insertAverages m entries g .tolerant w) := by
  dsimp only [insertAverages]
  split
  · exact .of_eq nofun
  · rw [Batch.inform_bind, Batch.inform_bind]
    exact Batch.run_twins (.finish fun _ => rfl) m _ _ _ irregular fun _ _ told => told

theorem selectPoints_twins (since limit : Int) (g : Granularity) :
    Twins outside (fun _ points => points = []) (selectPoints m since limit g .strict w)
      (selectPoints m since limit g .tolerant w) := by
  dsimp only [selectPoints]
  split
  · exact .of_eq nofun
  · exact Batch.run_twins (Finishes.pure fun batch => batch.2.getD []) m _ _ _ irregular
      fun _ _ _ => rfl

theorem executeSql_twins (sql : String) :
    Twins outside (fun error summary => summary.Tells error) (executeSql m sql .strict w)
      (executeSql m sql .tolerant w) :=
  Batch.run_twins (Finishes.pure fun batch => batch.1) m _ _ _ irregular fun _ _ told => told

theorem purgeAt_twins (now : Moment)
    (early : ∀ p, cutoffs now = .error p → outside (.problem p)) :
    Twins outside
      (fun error summary => summary.Tells error ∧
        summary.removed = some [(.minute, 0), (.hourly, 0)])
      (purgeAt m now .strict w) (purgeAt m now .tolerant w) := by
  dsimp only [purgeAt]
  refine .of_result (fun fault failed => .inr ?_) fun entries found => ?_
  · obtain ⟨p, found, rfl⟩ := Result.of_mapError_error failed
    exact early p found
  · rw [Batch.inform_bind, Batch.inform_bind]
    refine Batch.run_twins (.finish ?_) m _ _ _ irregular ?_
    · exact fun _ => rfl
    · rintro error summary ⟨_, told, named⟩
      have zeros := removed_zeros (Result.of_mapError found)
      refine ⟨⟨?_, told, named⟩, congrArg some zeros⟩
      exact congrArg removedRows zeros

theorem purge_twins (now : Option Moment)
    (early : ∀ p, cutoffs (now.getD (Surroundings.now w.surroundings)) = .error p →
      outside (.problem p)) :
    Twins outside
      (fun error summary => summary.Tells error ∧
        summary.removed = some [(.minute, 0), (.hourly, 0)])
      (purge m now .strict w) (purge m now .tolerant w) := by
  rw [purge_apply, purge_apply]
  split
  · exact purgeAt_twins m irregular _ early
  · exact .of_eq nofun

end Store

/-- For every operation, manager, clock and schedule of faults: a strict and a tolerant run differ
in the journal only. Both give the same answer, or both end in the same fault, which no policy
touches, or the strict run ends in an error that the answer of the tolerant one tells of. -/
theorem Operation.perform_policy [Surroundings σ] (m : Manager) (op : Operation) (w : World σ) :
    (op.perform m .strict w).2
        = { (op.perform m .tolerant w).2 with journal := (op.perform m .strict w).2.journal } ∧
      Alike (op.RaisesOutside w) (fun error answer => op.Tells error answer)
        (op.perform m .strict w).1 (op.perform m .tolerant w).1 := by
  suffices twins : Twins (op.RaisesOutside w) (fun error answer => op.Tells error answer)
      (op.perform m .strict w) (op.perform m .tolerant w) from ⟨twins.world, twins.outcome⟩
  have irregular : ∀ p, Surroundings.Irregular w.surroundings p → op.RaisesOutside w (.problem p) :=
    fun p shown => .inr ⟨p, rfl, shown⟩
  cases op with
  | saveUsers users =>
    exact (Store.saveUsers_twins m irregular users).bind_pure _ fun _ _ told => ⟨_, rfl, told⟩
  | insertAverages entries g =>
    exact (Store.insertAverages_twins m irregular entries g).bind_pure _
      fun _ _ told => ⟨_, rfl, told⟩
  | selectPoints since limit g =>
    exact (Store.selectPoints_twins m irregular since limit g).bind_pure _
      fun _ _ none => congrArg _ none
  | purge now =>
    have purged := Store.purge_twins m irregular now fun p found => .inl ⟨now, p, rfl, rfl, found⟩
    exact purged.bind_pure _ fun _ _ told => ⟨_, rfl, told⟩
  | executeSql sql =>
    exact (Store.executeSql_twins m irregular sql).bind_pure _ fun _ _ told => ⟨_, rfl, told⟩

end BucketStore
