import BucketStore.Store.Operation
import BucketStore.Proofs.Batch
import Mathlib.Data.List.Forall2

/-!
The operations of the store. Each is at most one batch, with remarks in the journal around it, and
what it commits is its whole batch: one change for every item that it was given.
-/

namespace BucketStore

variable {σ α β : Type}

/-- The whole batch of an operation that is performed at a given moment. -/
def Operation.Whole (present : Moment) : Operation → List Change → Prop
  | .saveUsers users => List.Forall₂ (fun user change =>
      ∃ snapshot, user.snapshot = .ok snapshot ∧ change = .upsert user.name snapshot) users
  | .insertAverages entries g => List.Forall₂ (fun entry change =>
      ∃ average, entry.2.average = .ok average ∧ change = .insert g (entry.1.row g average)) entries
  | .selectPoints .. => (· = [])
  | .purge now => List.Forall₂ (fun g change => ∃ retention cutoff,
      g.retention? = some retention ∧ Store.cutoff (now.getD present) retention = .ok cutoff ∧
      change = .deleteUntil g cutoff) [.minute, .hourly]
  | .executeSql sql => (· = [.run sql])

/-- Every run of an action has the effect of at most one batch. -/
def Yields (whole : List Change → Prop) (a : Action σ α) : Prop :=
  ∀ w, ∃ committed, Effect whole committed w (a w).2

namespace Yields

variable {whole : List Change → Prop}

theorem of_idle {a : Action σ α} (idle : Action.Within Idle a) : Yields whole a :=
  fun w => ⟨false, (idle w).effect⟩

/-- An idle part may stand in front. -/
theorem after {a : Action σ α} {f : α → Action σ β} (idle : Action.Within Idle a)
    (rest : ∀ x, Yields whole (f x)) : Yields whole (a >>= f) := by
  intro w
  have before := idle w
  rcases ran : a w with ⟨fault | x, w₁⟩ <;> rw [ran] at before
  · rw [Action.bind_of_error ran]
    exact ⟨false, before.effect⟩
  · rw [Action.bind_of_ok ran]
    obtain ⟨committed, effect⟩ := rest x w₁
    exact ⟨committed, effect.around before (refl_of Idle _)⟩

/-- What has to be found out first may fail. -/
theorem of_result {result : Except Fault β} {f : β → Action σ α}
    (rest : ∀ x, result = .ok x → Yields whole (f x)) :
    Yields whole (Action.ofExcept result >>= f) := by
  cases result with
  | error fault => exact of_idle (.throw fault)
  | ok x => exact rest x rfl

/-- An idle part may stand behind. -/
theorem andThen {a : Action σ α} {f : α → Action σ β} (first : Yields whole a)
    (idle : ∀ x, Action.Within Idle (f x)) : Yields whole (a >>= f) := by
  intro w
  obtain ⟨committed, effect⟩ := first w
  refine ⟨committed, ?_⟩
  rcases ran : a w with ⟨fault | x, w₁⟩ <;> rw [ran] at effect
  · rw [Action.bind_of_error ran]
    exact effect
  · rw [Action.bind_of_ok ran]
    exact effect.around (refl_of Idle _) (idle x w₁)

theorem batch [Surroundings σ] {work : Nat → Action σ α}
    (prepares : ∀ id, Prepares id whole (work id)) {m : Manager} {operation : String}
    {attempted : Int} {policy : Policy} {details : List (String × Value)} :
    Yields whole (Batch.run m operation attempted policy details work) := by
  intro w
  obtain ⟨committed, effect, _⟩ := Batch.run_spec prepares m operation attempted policy details w
  exact ⟨committed, effect⟩

end Yields

private theorem Batch.inform_idle (message : String) (details : List (String × Value)) :
    Action.Within Idle (Batch.inform message details : Action σ Unit) :=
  fun w => (Batch.remarks_log _ w).idle

private theorem Batch.finish_idle {summary : BatchResult} {message : String → String}
    {details : List (String × Value)} :
    Action.Within Idle (Batch.finish summary message details : Action σ BatchResult) :=
  fun w => (Batch.finish_remarks summary message details w).idle

namespace Store

private theorem snapshots_forall₂ {users : List UserEntry} {rows : List (String × String)}
    (taken : snapshots users = .ok rows) :
    List.Forall₂ (fun user row => user.snapshot = .ok row.2 ∧ row.1 = user.name) users rows := by
  induction users generalizing rows with
  | nil =>
    cases taken
    exact .nil
  | cons user rest ih =>
    obtain ⟨snapshot, first, taken⟩ := Result.bind_eq_ok taken
    obtain ⟨others, later, taken⟩ := Result.bind_eq_ok taken
    cases taken
    exact .cons ⟨first, rfl⟩ (ih later)

end Store

theorem Row.ofEntries_forall₂ {g : Granularity} {entries : List (BucketKey × Averaged)}
    {rows : List Row} (taken : Row.ofEntries g entries = .ok rows) :
    List.Forall₂ (fun entry row => ∃ average, entry.2.average = .ok average ∧
      row = entry.1.row g average) entries rows := by
  induction entries generalizing rows with
  | nil =>
    cases taken
    exact .nil
  | cons entry rest ih =>
    obtain ⟨row, first, taken⟩ := Result.bind_eq_ok taken
    obtain ⟨rows, later, taken⟩ := Result.bind_eq_ok taken
    obtain ⟨average, averaged, made⟩ := Result.bind_eq_ok first
    cases taken
    cases made
    exact .cons ⟨average, averaged, rfl⟩ (ih later)

namespace Store

variable [Surroundings σ]

theorem saveUsers_prepares {users : List UserEntry} (id : Nat) (present : Moment) :
    Prepares id (Operation.Whole present (.saveUsers users)) (do
      let rows ← Action.ofExcept (snapshots users)
      Connection.cursor id
      Connection.upsertUsers id rows : Action σ Unit) := by
  refine .of_result fun rows taken => ?_
  refine ((Stages.cursor id).after fun _ => Stages.upsertUsers id rows).prepares ?_
  refine List.forall₂_map_right_iff.mpr ((snapshots_forall₂ taken).imp ?_)
  rintro user row ⟨snapshot, named⟩
  exact ⟨row.2, snapshot, by rw [named]⟩

theorem insertAverages_prepares {entries : List (BucketKey × Averaged)} (g : Granularity)
    (id : Nat) (present : Moment) :
    Prepares id (Operation.Whole present (.insertAverages entries g)) (do
      let rows ← Action.ofExcept (Row.ofEntries g entries)
      Connection.cursor id
      Connection.insertRows id g rows : Action σ Unit) := by
  refine .of_result fun rows taken => ?_
  refine ((Stages.cursor id).after fun _ => Stages.insertRows id g rows).prepares ?_
  refine List.forall₂_map_right_iff.mpr ((Row.ofEntries_forall₂ taken).imp ?_)
  rintro entry row ⟨average, averaged, made⟩
  exact ⟨average, averaged, by rw [made]⟩

theorem deleteExpired_stages (id : Nat) (cutoffs : List (Granularity × Int)) :
    Stages id (cutoffs.map fun (g, cutoff) => .deleteUntil g cutoff)
      (deleteExpired id cutoffs : Action σ (List (Granularity × Int))) := by
  induction cutoffs with
  | nil => exact .pure id _
  | cons entry rest ih =>
    refine (Stages.deleteUntil id entry.1 entry.2).bind fun count => ?_
    have later := ih.bind fun others => Stages.pure id ((entry.1, max count 0) :: others)
    rwa [List.append_nil] at later

omit [Surroundings σ] in
/-- The tables whose rows are not kept for ever are the minutes' and the hours'. -/
theorem cutoffs_eq (now : Moment) : cutoffs now = do
    let minute ← cutoff now 21660000
    let hourly ← cutoff now 608400000
    return [(.minute, minute), (.hourly, hourly)] := by
  have kept : Granularity.all.filterMap (fun g => g.retention?.map (g, ·))
      = [(.minute, 21660000), (.hourly, 608400000)] := rfl
  rw [cutoffs, kept, List.mapM_cons, List.mapM_cons, List.mapM_nil]
  dsimp only
  cases cutoff now 21660000 <;> cases cutoff now 608400000 <;> rfl

omit [Surroundings σ] in
theorem cutoffs_forall₂ {now : Moment} {entries : List (Granularity × Int)}
    (found : cutoffs now = .ok entries) :
    List.Forall₂ (fun g entry => ∃ retention, g.retention? = some retention ∧
      cutoff now retention = .ok entry.2 ∧ g = entry.1) [.minute, .hourly] entries := by
  rw [cutoffs_eq] at found
  obtain ⟨minute, first, found⟩ := Result.bind_eq_ok found
  obtain ⟨hourly, second, ended⟩ := Result.bind_eq_ok found
  cases ended
  exact .cons ⟨21660000, rfl, first, rfl⟩ (.cons ⟨608400000, rfl, second, rfl⟩ .nil)

theorem deleteExpired_prepares {now : Option Moment} {entries : List (Granularity × Int)}
    (id : Nat) (present : Moment) (found : cutoffs (now.getD present) = .ok entries) :
    Prepares id (Operation.Whole present (.purge now)) (do
      Connection.cursor id
      deleteExpired id entries : Action σ (List (Granularity × Int))) := by
  refine ((Stages.cursor id).after fun _ => deleteExpired_stages id entries).prepares ?_
  refine List.forall₂_map_right_iff.mpr ((cutoffs_forall₂ found).imp ?_)
  rintro g entry ⟨retention, kept, reached, same⟩
  exact ⟨retention, entry.2, kept, reached, by rw [same]⟩

theorem selectPoints_prepares (id : Nat) (since limit : Int) (g : Granularity)
    (present : Moment) :
    Prepares id (Operation.Whole present (.selectPoints since limit g)) (do
      Connection.cursor id
      let rows ← Connection.select id g since limit
      Action.ofExcept ((pointsOfRows rows).mapError Fault.problem) : Action σ (List Point)) := by
  refine Stages.prepares ?_ rfl
  exact (Stages.cursor id).after fun _ => (Stages.select id g since limit).after fun _ =>
    Stages.ofExcept id _

theorem executeSql_prepares (id : Nat) (sql : String) (present : Moment) :
    Prepares id (Operation.Whole present (.executeSql sql))
      (Connection.execute id sql : Action σ Unit) :=
  (Stages.execute id sql).prepares rfl

variable (m : Manager) (policy : Policy) (present : Moment)

theorem saveUsers_yields (users : List UserEntry) :
    Yields (Operation.Whole present (.saveUsers users))
      (saveUsers m users policy : Action σ BatchResult) := by
  dsimp only [saveUsers]
  split
  · exact .of_idle (.pure _)
  · refine .after (Batch.inform_idle _ _) fun _ => ?_
    exact .andThen (.batch (saveUsers_prepares · present)) fun _ => Batch.finish_idle

theorem insertAverages_yields (entries : List (BucketKey × Averaged)) (g : Granularity) :
    Yields (Operation.Whole present (.insertAverages entries g))
      (insertAverages m entries g policy : Action σ BatchResult) := by
  dsimp only [insertAverages]
  split
  · exact .of_idle (.pure _)
  · refine .after (Batch.inform_idle _ _) fun _ => ?_
    exact .andThen (.batch (insertAverages_prepares g · present)) fun _ => Batch.finish_idle

theorem selectPoints_yields (since limit : Int) (g : Granularity) :
    Yields (Operation.Whole present (.selectPoints since limit g))
      (selectPoints m since limit g policy : Action σ (List Point)) := by
  dsimp only [selectPoints]
  split
  · exact .of_idle (.pure _)
  · exact .andThen (.batch (selectPoints_prepares · since limit g present)) fun _ => .pure _

theorem purgeAt_yields (now : Moment) :
    Yields (Operation.Whole present (.purge now))
      (purgeAt m now policy : Action σ BatchResult) := by
  dsimp only [purgeAt]
  refine .of_result fun entries found => ?_
  have reached : cutoffs ((some now).getD present) = .ok entries := Result.of_mapError found
  refine .after (Batch.inform_idle _ _) fun _ => ?_
  exact .andThen (.batch (deleteExpired_prepares · present reached)) fun _ => Batch.finish_idle

theorem executeSql_yields (sql : String) :
    Yields (Operation.Whole present (.executeSql sql))
      (executeSql m sql policy : Action σ BatchResult) := by
  dsimp only [executeSql]
  exact .andThen (.batch (executeSql_prepares · sql present)) fun _ => .pure _

theorem purge_apply (now : Option Moment) (w : World σ) :
    purge m now policy w = if m.isEnabled then
      purgeAt m (now.getD (Surroundings.now w.surroundings)) policy w
    else
      (.ok { BatchResult.nothing "clean_old_reporting_records" with removed := some [] }, w) := by
  cases m <;> rfl

end Store

/-- Every operation has the effect of at most one batch, and of its whole batch if it commits. -/
theorem Operation.perform_effect [Surroundings σ] (m : Manager) (policy : Policy) (op : Operation)
    (w : World σ) : ∃ committed, Effect (op.Whole (Surroundings.now w.surroundings)) committed w
      (op.perform m policy w).2 := by
  let present := Surroundings.now w.surroundings
  cases op with
  | saveUsers users =>
    exact (Store.saveUsers_yields m policy present users).andThen (fun _ => .pure _) w
  | insertAverages entries g =>
    exact (Store.insertAverages_yields m policy present entries g).andThen (fun _ => .pure _) w
  | selectPoints since limit g =>
    exact (Store.selectPoints_yields m policy present since limit g).andThen (fun _ => .pure _) w
  | executeSql sql =>
    exact (Store.executeSql_yields m policy present sql).andThen (fun _ => .pure _) w
  | purge now =>
    rw [perform, Action.bind_pure_apply, Store.purge_apply]
    split
    · exact Store.purgeAt_yields m policy present (now.getD present) w
    · exact ⟨false, (refl_of Idle w).effect⟩

end BucketStore
