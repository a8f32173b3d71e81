import BucketStore.Proofs.FailureReport
import BucketStore.Proofs.Frame
import BucketStore.Report

/-!
Announcements. Under the tolerant policy an operation that runs a batch either announces that it has
finished or logs one error, and the report of its result shows the same; an error without a text is
the exception.
-/

namespace BucketStore

variable {σ α : Type}

/-- Nothing but debug entries was added to the journal. -/
def Quiet (w w' : World σ) : Prop :=
  ∃ entries, w'.journal = w.journal ++ entries ∧ ∀ entry ∈ entries, entry.level = .debug

theorem Quiet.of_eq {w w' : World σ} (same : w'.journal = w.journal) : Quiet w w' :=
  ⟨[], by rw [same, List.append_nil], by simp⟩

instance : Frame (Quiet : World σ → World σ → Prop) where
  refl w := .of_eq rfl
  trans := by
    rintro w w₁ w₂ ⟨entries, added, debug⟩ ⟨entries', added', debug'⟩
    refine ⟨entries ++ entries', by rw [added', added, List.append_assoc], ?_⟩
    intro entry member
    rcases List.mem_append.mp member with early | late
    · exact debug entry early
    · exact debug' entry late
  unseen _ same _ := .of_eq same
  exchange _ _ _ := .of_eq rfl
  debug _ entry level := ⟨[entry], rfl, by simpa using level⟩

/-- How the entry begins that announces the end of an operation. -/
def Operation.closing? : Operation → Option String
  | .saveUsers _ => some "Storing users finished."
  | .insertAverages _ g => some ("Storing " ++ g.title ++ " reporting finished.")
  | .purge _ => some "Removing finished."
  | .selectPoints .. | .executeSql _ => none

/-- An entry announces that an operation has finished. -/
def Operation.isFinish (op : Operation) (entry : LogEntry) : Bool :=
  entry.level = .info &&
    op.closing?.any fun closing => closing.toList.isPrefixOf entry.message.toList

/-- The operations that announce their end, if they are given something to do. -/
def Operation.RunsAnnounced : Operation → Prop
  | .saveUsers users => users ≠ []
  | .insertAverages entries _ => entries ≠ []
  | .purge _ => True
  | .selectPoints .. | .executeSql _ => False

namespace Report

/-- The report of a result gives it a status. -/
def Shows (r : BatchResult) (status : String) : Prop :=
  ∃ table, resultTable (fieldsOf r) = .ok table ∧ table.rows.head? = some ["Status", status]

theorem statusText_fieldsOf (r : BatchResult) : statusText (fieldsOf r) =
    if r.skipped then "[yellow]skipped (storage disabled or nothing to do)[/yellow]"
    else if r.showsError then "[red]failed: " ++ r.error.getD "" ++ "[/red]"
    else "[green]ok[/green]" := by
  obtain ⟨operation, rows, seconds, skipped, error, details, removed⟩ := r
  cases removed <;> cases error <;> cases skipped <;> rfl

/-- The cells that tell how many rows were removed from a table. -/
def removedRow : Granularity × Int → List String
  | (g, count) => ["Removed from " ++ g.table, groupedIntText count]

private theorem mapM_removed (removed : List (Granularity × Int)) :
    ((removed.map fun (g, count) => (g.table, Value.int count)).mapM fun (name, count) => do
      let text ← countText count
      return ["Removed from " ++ name, text]) = .ok (removed.map removedRow) := by
  induction removed with
  | nil => rfl
  | cons entry rest ih =>
    rw [List.map_cons, List.mapM_cons, ih]
    rfl

private theorem removedCells_fieldsOf (r : BatchResult) :
    removedCells (fieldsOf r) = .ok ((r.removed.getD []).map removedRow) := by
  obtain ⟨operation, rows, seconds, skipped, error, details, removed⟩ := r
  cases removed with
  | none => rfl
  | some removed =>
    cases removed with
    | nil => rfl
    | cons entry rest => exact mapM_removed (entry :: rest)

/-- Every result can be reported: what its table says. -/
theorem resultTable_fieldsOf (r : BatchResult) : resultTable (fieldsOf r) = .ok {
    title := r.operation
    columns := [{ header := "Field", wraps := false }, { header := "Value", alignment := .right }]
    rows := [["Status", statusText (fieldsOf r)], ["Rows", groupedIntText r.rows],
      ["Duration (s)", placesText 3 r.seconds]] ++ (r.removed.getD []).map removedRow } := by
  have title : ((Value.lookup (fieldsOf r) "operation").getD (.text "operation")).plain
      = r.operation := by
    obtain ⟨operation, rows, seconds, skipped, error, details, removed⟩ := r
    cases removed <;> rfl
  have rows : countText ((Value.lookup (fieldsOf r) "rows").getD (.int 0))
      = .ok (groupedIntText r.rows) := by
    obtain ⟨operation, rows, seconds, skipped, error, details, removed⟩ := r
    cases removed <;> rfl
  have duration : measureText (placesText 3)
        ((Value.lookup (fieldsOf r) "duration_seconds").getD (.float 0.0))
      = .ok (placesText 3 r.seconds) := by
    obtain ⟨operation, rows, seconds, skipped, error, details, removed⟩ := r
    cases removed <;> rfl
  rw [resultTable, title, rows, duration, removedCells_fieldsOf]
  rfl

/-- The status of a result is the text for it. -/
theorem shows_iff (r : BatchResult) (status : String) :
    Shows r status ↔ statusText (fieldsOf r) = status := by
  constructor
  · rintro ⟨table, built, first⟩
    obtain rfl := Except.ok.inj ((resultTable_fieldsOf r).symm.trans built)
    simpa using first
  · rintro rfl
    exact ⟨_, resultTable_fieldsOf r, rfl⟩

/-- A result of something that ran is shown as a success unless it shows an error. -/
theorem shows_ok_iff {r : BatchResult} (ran : r.skipped = false) :
    Shows r "[green]ok[/green]" ↔ r.showsError = false := by
  rw [shows_iff, statusText_fieldsOf, ran]
  cases r.showsError with
  | false => simp
  | true =>
    suffices "[red]failed: " ++ r.error.getD "" ++ "[/red]" ≠ "[green]ok[/green]" by simpa
    intro same
    have second := congrArg (fun text => text.toList[1]?) same
    simp [String.toList_append] at second

end Report

private theorem BatchResult.showsError_eq {r : BatchResult} (worded : r.error ≠ some "") :
    r.showsError = r.error.isSome := by
  obtain ⟨operation, rows, seconds, skipped, error, details, removed⟩ := r
  cases error with
  | none => rfl
  | some text =>
    have filled : text ≠ "" := fun empty => worded (by rw [empty])
    simpa [showsError] using filled

namespace Batch

variable [Surroundings σ] {work : Nat → Action σ α} {m : Manager} {operation : String}
  {attempted : Int} {policy : Policy} {details : List (String × Value)} {w w' : World σ}

omit [Surroundings σ] in
/-- A tolerant batch ends in a fault only if that is no error, or if the clock shows no duration. -/
theorem conclude_raised {result : Except Fault α} {watch : Stopwatch} {failure : Fault}
    (ran : conclude operation attempted .tolerant details result watch w = (.error failure, w')) :
    failure.isError = false ∨ ∃ p, failure = .problem p ∧ watch.millis = .error p := by
  cases result with
  | ok x => cases ran
  | error fault =>
    cases caught : fault.isError with
    | false =>
      have same : fault = failure := by simpa [conclude, caught] using congrArg Prod.fst ran
      exact .inl (same ▸ caught)
    | true =>
      rw [conclude_tolerant caught, logTolerated] at ran
      cases shown : watch.millis with
      | error p =>
        rw [Action.bind_of_error (logTimed_of_error shown _ w)] at ran
        cases ran
        exact .inr ⟨p, rfl, rfl⟩
      | ok millis =>
        rw [Action.bind_of_ok (logTimed_of_ok shown _ w)] at ran
        cases ran

private theorem run_raised {failure : Fault}
    (ran : run m operation attempted .tolerant details work w = (.error failure, w')) :
    failure.isError = false ∨
      ∃ p, failure = .problem p ∧ Surroundings.Irregular w.surroundings p := by
  obtain ⟨_, _, _, _, ended, _, concluded, _⟩ := run_leased ran
  rcases conclude_raised concluded with uncaught | ⟨p, named, shown⟩
  · exact .inl uncaught
  · exact .inr ⟨p, named, ended, shown⟩

/-- What is to be said of a batch that is summed up: it has no error if and only if it was committed
and its connection given back; and besides debug entries it logged one error entry if it has an
error, and otherwise nothing. -/
structure Told (w w' : World σ) (summary : BatchResult) : Prop where
  succeeded : summary.error = none ↔ Succeeded w w'
  ran : summary.skipped = false
  logged : ∃ debugs told, w'.journal = w.journal ++ debugs ++ told ∧
    (∀ entry ∈ debugs, entry.level = .debug) ∧
    if summary.error = none then told = [] else ∃ entry, told = [entry] ∧ entry.level = .error

private theorem run_announced {whole : List Change → Prop}
    (prepares : ∀ id, Prepares id whole (work id))
    (quiet : ∀ id, Action.Within Quiet (work id)) {summary : BatchResult} {outcome : Option α}
    (ran : run m operation attempted policy details work w = (.ok (summary, outcome), w')) :
    Told w w' summary := by
  obtain ⟨s, result, w₁, s', _, leased, concluded, idle⟩ := run_leased ran
  have hushed := m.withConnection_framed (block_framed quiet) { w with surroundings := s }
  rw [leased] at hushed
  obtain ⟨debugs, added, debug⟩ := hushed
  have same (fault : Option Fault) :
      Returned fault w w' ↔ Returned fault { w with surroundings := s } w₁ := by
    unfold Returned
    rw [idle.trace]
  have held := lease_cases prepares leased
  cases result with
  | ok x =>
    cases concluded
    refine ⟨⟨fun _ => (same none).mpr ?_, fun _ => rfl⟩, rfl, debugs, [], ?_, debug, rfl⟩
    · rcases held with ⟨_, failed, _⟩ | ⟨fault, returned, finished⟩
      · cases failed
      · cases fault with
        | none => exact returned
        | some fault => cases finished
    · rw [List.append_nil]
      exact added
  | error fault =>
    obtain ⟨⟨told, _, _, executed⟩, _, entry, logged, level⟩ := conclude_of_error concluded
    have failed : summary.error ≠ none := Option.isSome_iff_ne_none.mp told
    refine ⟨⟨fun none => absurd none failed, fun succeeded => ?_⟩, executed, debugs, [entry], ?_,
      debug, ?_⟩
    · have returned := (same none).mp succeeded
      rcases held with ⟨_, _, never⟩ | ⟨fault', returned', finished⟩
      · exact absurd returned (never none)
      · rw [← returned.unique returned'] at finished
        cases finished
    · rw [logged]
      exact congrArg (· ++ [entry]) added
    · rw [if_neg failed]
      exact ⟨entry, rfl, level⟩

omit [Surroundings σ] in
/-- What is logged at the end of an operation whose result shows no error. -/
theorem finish_logged {summary r : BatchResult} {message : String → String}
    (ran : finish summary message details w = (.ok r, w')) :
    ∃ last, w'.journal = w.journal ++ last ∧
      if summary.showsError then last = []
      else ∃ entry millis,
        last = [entry] ∧ entry.level = .info ∧ entry.message = message millis := by
  dsimp only [finish] at ran
  split at ran
  · rename_i silent
    have shows : summary.showsError = false := by simpa using silent
    obtain ⟨_, w₁, logged, ended⟩ := Action.bind_eq_ok ran
    obtain ⟨millis, w₂, told, logged⟩ := Action.bind_eq_ok logged
    obtain rfl : w = w₂ := congrArg Prod.snd told
    cases logged
    cases ended
    rw [shows]
    exact ⟨_, rfl, _, millis, rfl, rfl, rfl⟩
  · rename_i shown
    have shows : summary.showsError = true := by simpa using shown
    cases ran
    rw [shows]
    exact ⟨[], (List.append_nil _).symm, rfl⟩

end Batch

namespace Operation

variable {op : Operation} {entry : LogEntry}

private theorem isFinish_of_level (level : entry.level ≠ .info) : op.isFinish entry = false := by
  simp [isFinish, level]

private theorem isFinish_of_message {closing rest : String} (named : op.closing? = some closing)
    (level : entry.level = .info) (message : entry.message = closing ++ rest) :
    op.isFinish entry = true := by
  simp [isFinish, named, level, message]

end Operation

/-- What the entries of an operation and the report of its result say of it. Whether it has an error
is decided three times; of an error without a text only the journal tells. -/
structure Announced (op : Operation) (r : BatchResult) (logged : List LogEntry) : Prop where
  failed : logged.countP (·.level = .error) = if r.error = none then 0 else 1
  finished : r.error ≠ some "" →
    logged.countP op.isFinish = if r.error = none then 1 else 0
  shown : r.error ≠ some "" → (Report.Shows r "[green]ok[/green]" ↔ r.error = none)

private theorem Announced.of_parts {op : Operation} {r : BatchResult} {opening : LogEntry}
    {debugs told last : List LogEntry} (ran : r.skipped = false) (opens : opening.level = .info)
    (unfinished : op.isFinish opening = false) (debug : ∀ entry ∈ debugs, entry.level = .debug)
    (errors : if r.error = none then told = [] else ∃ entry, told = [entry] ∧ entry.level = .error)
    (closes : if r.showsError then last = []
      else ∃ entry, last = [entry] ∧ entry.level = .info ∧ op.isFinish entry = true) :
    Announced op r (opening :: debugs ++ told ++ last) := by
  have quiet : debugs.countP (·.level = .error) = 0 := by
    rw [List.countP_eq_zero]
    intro entry member
    simp [debug entry member]
  have quiet' : debugs.countP op.isFinish = 0 := by
    rw [List.countP_eq_zero]
    intro entry member
    simp [Operation.isFinish_of_level, debug entry member]
  refine ⟨?_, fun worded => ?_, fun worded => ?_⟩
  · have calm : last.countP (·.level = .error) = 0 := by
      split at closes
      · rw [closes, List.countP_nil]
      · obtain ⟨entry, rfl, level, _⟩ := closes
        simp [level]
    rw [List.countP_append, List.countP_append, List.countP_cons, quiet, calm]
    split at errors
    · rename_i clean
      simp [errors, opens, clean]
    · rename_i failed
      obtain ⟨entry, rfl, level⟩ := errors
      simp [level, opens, failed]
  · have calm : told.countP op.isFinish = 0 := by
      split at errors
      · rw [errors, List.countP_nil]
      · obtain ⟨entry, rfl, level⟩ := errors
        simp [Operation.isFinish_of_level, level]
    rw [List.countP_append, List.countP_append, List.countP_cons, quiet', calm, unfinished]
    rw [BatchResult.showsError_eq worded] at closes
    cases error : r.error with
    | none =>
      rw [error] at closes
      obtain ⟨entry, rfl, _, finish⟩ := closes
      simp [finish]
    | some text =>
      rw [error] at closes
      simp [show last = [] from closes]
  · rw [Report.shows_ok_iff ran, BatchResult.showsError_eq worded]
    cases r.error <;> simp

/-- What a run of an operation announces, or what it ends in. -/
def Announces (op : Operation) (w : World σ) [Surroundings σ] :
    Except Fault BatchResult × World σ → Prop
  | (.ok r, w') => ∃ logged, w'.journal = w.journal ++ logged ∧
      (r.error = none ↔ Succeeded w w') ∧ Announced op r logged
  | (.error fault, _) => fault.isError = false ∨ op.RaisesOutside w fault

theorem Announces.batch [Surroundings σ] {op : Operation} {whole : List Change → Prop}
    {work : Nat → Action σ α} (prepares : ∀ id, Prepares id whole (work id))
    (quiet : ∀ id, Action.Within Quiet (work id)) {closing : String}
    (named : op.closing? = some closing) {opening : String}
    (unfinished : op.isFinish
      { level := .info, logger := .store, message := opening, details := [] } = false)
    {answer : BatchResult × Option α → BatchResult}
    {message : BatchResult × Option α → String → String}
    {told : BatchResult × Option α → List (String × Value)}
    (same : ∀ batch, (answer batch).error = batch.1.error ∧
      (answer batch).skipped = batch.1.skipped ∧ (answer batch).seconds = batch.1.seconds)
    (closes : ∀ batch millis, ∃ rest, message batch millis = closing ++ rest)
    (m : Manager) (operation : String) (attempted : Int) (details : List (String × Value))
    (w : World σ) :
    Announces op w ((Batch.inform opening [] >>= fun _ =>
      Batch.run m operation attempted .tolerant details work >>= fun batch =>
        Batch.finish (answer batch) (message batch) (told batch)) w) := by
  rw [Batch.inform_bind]
  let entry : LogEntry := { level := .info, logger := .store, message := opening, details := [] }
  let begun : World σ := { w with journal := w.journal ++ [entry] }
  rcases ran : Batch.run m operation attempted .tolerant details work begun with
    ⟨fault | ⟨summary, outcome⟩, w₁⟩
  · rw [Action.bind_of_error ran]
    rcases Batch.run_raised ran with uncaught | irregular
    · exact .inl uncaught
    · exact .inr (.inr irregular)
  · rw [Action.bind_of_ok ran]
    obtain ⟨error, executed, seconds⟩ := same (summary, outcome)
    obtain ⟨succeeded, skipped, debugs, errors, logged, debug, failed⟩ :=
      Batch.run_announced prepares quiet ran
    rcases finished : Batch.finish (answer (summary, outcome)) (message (summary, outcome))
      (told (summary, outcome)) w₁ with ⟨fault | r, w₂⟩
    · obtain ⟨⟨ended, measured⟩, _⟩ := Batch.run_eq_ok ran
      have finishes : Finishes (fun batch => (Batch.finish (answer batch) (message batch)
          (told batch) : Action σ BatchResult)) answer := .finish fun batch => (same batch).2.2
      rcases finishes (summary, outcome) w₁ with ⟨p, irregular, raised⟩ | ⟨answered, _⟩
      · cases finished.symm.trans raised
        refine .inr (.inr ⟨p, rfl, ended, ?_⟩)
        rw [Stopwatch.millis, ← measured, irregular]
      · cases (congrArg Prod.fst finished).symm.trans answered
    · obtain ⟨last, added, closed⟩ := Batch.finish_logged finished
      have idle := Batch.finish_idle_of_ok finished
      obtain rfl := Batch.finish_eq_ok finished
      refine ⟨entry :: debugs ++ errors ++ last, ?_, ?_, ?_⟩
      · rw [added, logged]
        simp [begun]
      · rw [error, succeeded]
        unfold Succeeded Returned
        rw [idle.trace]
      · refine .of_parts (executed.trans skipped) rfl unfinished debug (by rwa [error]) ?_
        by_cases shows : (answer (summary, outcome)).showsError = true
        · rw [if_pos shows] at closed ⊢
          exact closed
        · rw [if_neg shows] at closed ⊢
          obtain ⟨entry', millis, single, level, text⟩ := closed
          obtain ⟨rest, begins⟩ := closes (summary, outcome) millis
          exact ⟨entry', single, level,
            Operation.isFinish_of_message named level (text.trans begins)⟩

/-- What is announced of the summary is announced of the answer that it is given in. -/
theorem Announces.answered [Surroundings σ] {op : Operation} {m : Manager} {w : World σ}
    {a : Action σ BatchResult} (announces : Announces op w (a w))
    (performed : op.perform m .tolerant = a >>= fun r => pure (Answer.summary r)) :
    (∃ r w' logged, op.perform m .tolerant w = (.ok (.summary r), w') ∧
      w'.journal = w.journal ++ logged ∧ (r.error = none ↔ Succeeded w w') ∧
      Announced op r logged) ∨
    ∃ fault w', op.perform m .tolerant w = (.error fault, w') ∧
      (fault.isError = false ∨ op.RaisesOutside w fault) := by
  rw [performed, Action.bind_pure_apply]
  rcases ran : a w with ⟨fault | r, w'⟩ <;> rw [ran] at announces
  · exact .inr ⟨fault, w', rfl, announces⟩
  · obtain ⟨logged, added, succeeded, announced⟩ := announces
    exact .inl ⟨r, w', logged, rfl, added, succeeded, announced⟩

namespace Store

variable [Surroundings σ] {m : Manager} (enabled : m.isEnabled = true) (w : World σ)

include enabled

private theorem saveUsers_announces {users : List UserEntry} (some : users ≠ []) :
    Announces (.saveUsers users) w (saveUsers m users .tolerant w) := by
  have present : (!m.isEnabled || users.isEmpty) = false := by simp [enabled, some]
  dsimp only [saveUsers]
  rw [present]
  refine .batch (saveUsers_prepares · (Surroundings.now w.surroundings)) ?_ rfl rfl
    (fun _ => ⟨rfl, rfl, rfl⟩) ?_ ..
  · exact fun id => .bind (.ofExcept _) fun _ => .bind (Connection.touch_framed id _) fun _ =>
      Connection.upsertUsers_framed id _
  · intro batch millis
    refine ⟨" Time " ++ millis ++ " ms. Users saved " ++ intText batch.1.rows, ?_⟩
    simp only [← String.append_assoc]
    rfl

private theorem insertAverages_announces {entries : List (BucketKey × Averaged)}
    (some : entries ≠ []) (g : Granularity) :
    Announces (.insertAverages entries g) w (insertAverages m entries g .tolerant w) := by
  have present : (!m.isEnabled || entries.isEmpty) = false := by simp [enabled, some]
  dsimp only [insertAverages]
  rw [present]
  refine .batch (insertAverages_prepares g · (Surroundings.now w.surroundings)) ?_ rfl ?_
    (fun _ => ⟨rfl, rfl, rfl⟩) ?_ ..
  · exact fun id => .bind (.ofExcept _) fun _ => .bind (Connection.touch_framed id _) fun _ =>
      Connection.insertRows_framed id g _
  · cases g <;> rfl
  · intro batch millis
    refine ⟨" Time " ++ millis ++ " ms. Records saved " ++ intText batch.1.rows, ?_⟩
    have parted : " reporting finished. Time " = " reporting finished." ++ " Time " := rfl
    simp only [parted, ← String.append_assoc]

private theorem purge_announces (now : Option Moment) :
    Announces (.purge now) w (purge m now .tolerant w) := by
  rw [purge_apply, if_pos enabled]
  dsimp only [purgeAt]
  cases found : cutoffs (now.getD (Surroundings.now w.surroundings)) with
  | error p => exact .inr (.inl ⟨now, p, rfl, rfl, found⟩)
  | ok entries =>
    have taken : (Action.ofExcept ((Except.ok entries).mapError Fault.problem) :
        Action σ (List (Granularity × Int))) w = (.ok entries, w) := rfl
    rw [Action.bind_of_ok taken]
    refine .batch (deleteExpired_prepares · _ found) ?_ rfl ?_ ?_ ?_ ..
    · exact fun id => .bind (Connection.touch_framed id _) fun _ => deleteExpired_framed id _
    · rfl
    · exact fun _ => ⟨rfl, rfl, rfl⟩
    · intro batch millis
      have parted : "Removing finished. Minute records "
        = "Removing finished." ++ " Minute records " := rfl
      simp only [parted, String.append_assoc]
      exact ⟨_, rfl⟩

end Store

/-- Under the tolerant policy, an operation that runs a batch returns a result, unless what ends it
is no error, or is raised outside the batch. It logs one error if its batch was not committed or
its connection not given back, and none otherwise; and unless that error has no text, exactly those
operations that log none announce that they have finished, and have their result shown as a
success. -/
theorem Operation.perform_announced [Surroundings σ] {m : Manager} (enabled : m.isEnabled = true)
    {op : Operation} (announced : op.RunsAnnounced) (w : World σ) :
    (∃ r w' logged, op.perform m .tolerant w = (.ok (.summary r), w') ∧
      w'.journal = w.journal ++ logged ∧ (r.error = none ↔ Succeeded w w') ∧
      Announced op r logged) ∨
    ∃ fault w', op.perform m .tolerant w = (.error fault, w') ∧
      (fault.isError = false ∨ op.RaisesOutside w fault) := by
  cases op with
  | saveUsers users => exact (Store.saveUsers_announces enabled w announced).answered rfl
  | insertAverages entries g =>
    exact (Store.insertAverages_announces enabled w announced g).answered rfl
  | purge now => exact (Store.purge_announces enabled w now).answered rfl
  | selectPoints since limit g => cases announced
  | executeSql sql => cases announced

theorem Operation.perform_announced_commit : ∃ r w' logged,
    Schedule.saving.perform Calm.manager .tolerant (Schedule.failing .commit)
      = (.ok (.summary r), w') ∧ w'.journal = logged ∧ r.error = some "save_users: boom" ∧
    ¬Succeeded (Schedule.failing .commit) w' ∧ Announced Schedule.saving r logged := by
  have told : (Answer.summary? (Schedule.saving.perform Calm.manager .tolerant
      (Schedule.failing .commit)).1).map (·.error) = some (some "save_users: boom") := by
    decide +kernel
  have something : Schedule.saving.RunsAnnounced := List.cons_ne_nil _ _
  rcases Operation.perform_announced (m := Calm.manager) rfl something (Schedule.failing .commit)
    with ⟨r, w', logged, ran, added, succeeded, announced⟩ | ⟨fault, w', ran, _⟩
  · rw [ran] at told
    have error : r.error = some "save_users: boom" := Option.some.inj told
    refine ⟨r, w', logged, ran, added, error, fun committed => ?_, announced⟩
    cases error.symm.trans (succeeded.mpr committed)
  · rw [ran] at told
    cases told

/-- One user is saved whose snapshot fails without a word. -/
def Calm.wordless : Operation :=
  .saveUsers [⟨"ada", .error (.plain .runtime "")⟩]

/-- An operation that failed without a word logs one error, announces that it has finished, and has
its result shown as a success. -/
theorem Operation.perform_announced_wordless : ∃ r w',
    Calm.wordless.perform Calm.manager .tolerant Calm.world = (.ok (.summary r), w') ∧
      r.error = some "" ∧ w'.journal.countP (·.level = .error) = 1 ∧
      w'.journal.countP Calm.wordless.isFinish = 1 ∧ Report.Shows r "[green]ok[/green]" := by
  have told : (Answer.summary? (Calm.wordless.perform Calm.manager .tolerant Calm.world).1).map
        (fun r => (r.error, r.skipped)) = some (some "", false) ∧
      (Calm.wordless.perform Calm.manager .tolerant Calm.world).2.journal.countP
        (·.level = .error) = 1 ∧
      (Calm.wordless.perform Calm.manager .tolerant Calm.world).2.journal.countP
        Calm.wordless.isFinish = 1 := by
    decide +kernel
  rcases ran : Calm.wordless.perform Calm.manager .tolerant Calm.world with ⟨outcome, w'⟩
  rw [ran] at told
  obtain ⟨r, given, shown⟩ := Option.map_eq_some_iff.mp told.1
  obtain rfl := Answer.of_summary? given
  obtain ⟨error, executed⟩ := Prod.mk.inj shown
  refine ⟨r, w', rfl, error, told.2.1, told.2.2, (Report.shows_ok_iff executed).mpr ?_⟩
  rw [BatchResult.showsError, error]
  rfl

end BucketStore
