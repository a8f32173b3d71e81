import BucketStore.Proofs.Announcement
import BucketStore.Proofs.Fitting
import BucketStore.Proofs.Markup
import BucketStore.Proofs.NumberText

/-!
The status of a failed operation. Its error is put into marked-up text as it is, so that it is
shown as it is only if nothing in it is taken for markup.
-/

namespace BucketStore

open Console

variable {σ α β : Type}

/-! ### Summaries -/

/-- What an action gives, if it comes to its end, has a property. -/
def Action.Gives (P : α → Prop) (a : Action σ α) : Prop :=
  ∀ ⦃w x w'⦄, a w = (.ok x, w') → P x

namespace Action.Gives

variable {P : α → Prop}

theorem pure {x : α} (holds : P x) : Gives P (Pure.pure x : Action σ α) := by
  intro w y w' ran
  cases ran
  exact holds

theorem throw (fault : Fault) : Gives P (MonadExcept.throw fault : Action σ α) := by
  intro w x w' ran
  cases ran

theorem bind {Q : β → Prop} {a : Action σ β} {f : β → Action σ α} (first : Gives Q a)
    (rest : ∀ x, Q x → Gives P (f x)) : Gives P (a >>= f) := by
  intro w y w' ran
  obtain ⟨x, w₁, ran, ran'⟩ := bind_eq_ok ran
  exact rest x (first ran) ran'

theorem after {a : Action σ β} {f : β → Action σ α} (rest : ∀ x, Gives P (f x)) :
    Gives P (a >>= f) :=
  bind (fun _ _ _ _ => trivial) fun x (_ : True) => rest x

end Action.Gives

/-- A summary bears the name of an operation, and if it tells of an error it is of something that
ran. -/
structure BatchResult.IsProper (r : BatchResult) : Prop where
  name : '[' ∉ r.operation.toList
  ran : r.error ≠ none → r.skipped = false

namespace Batch

theorem conclude_gives {operation : String} (name : '[' ∉ operation.toList) (attempted : Int)
    (policy : Policy) (details : List (String × Value)) (result : Except Fault α)
    (watch : Stopwatch) : Action.Gives (fun batch => batch.1.IsProper)
      (conclude operation attempted policy details result watch : Action σ _) := by
  cases result with
  | ok outcome => exact .pure ⟨name, fun _ => rfl⟩
  | error fault =>
    simp only [conclude]
    split
    · exact .throw fault
    · cases policy with
      | strict => exact .after fun _ => .throw _
      | tolerant => exact .after fun _ => .pure ⟨name, fun _ => rfl⟩

theorem finish_gives {summary : BatchResult} (proper : summary.IsProper)
    (message : String → String) (details : List (String × Value)) :
    Action.Gives BatchResult.IsProper (finish summary message details : Action σ _) := by
  intro w r w' ran
  obtain rfl := finish_eq_ok ran
  exact proper

variable [Surroundings σ]

theorem run_gives {operation : String} (name : '[' ∉ operation.toList) (m : Manager)
    (attempted : Int) (policy : Policy) (details : List (String × Value))
    (work : Nat → Action σ α) : Action.Gives (fun batch => batch.1.IsProper)
      (run m operation attempted policy details work) :=
  .after fun _ => conclude_gives name ..

end Batch

namespace Store

variable [Surroundings σ] (m : Manager) (policy : Policy)

theorem saveUsers_gives (users : List UserEntry) :
    Action.Gives BatchResult.IsProper (saveUsers m users policy : Action σ _) := by
  dsimp only [saveUsers]
  split
  · exact .pure ⟨by decide, nofun⟩
  · refine .after fun _ => .bind (Batch.run_gives (by decide) ..) ?_
    exact fun batch proper => Batch.finish_gives proper _ _

theorem insertAverages_gives (entries : List (BucketKey × Averaged)) (g : Granularity) :
    Action.Gives BatchResult.IsProper (insertAverages m entries g policy : Action σ _) := by
  dsimp only [insertAverages]
  split
  · exact .pure ⟨by decide, nofun⟩
  · refine .after fun _ => .bind (Batch.run_gives (by decide) ..) ?_
    exact fun batch proper => Batch.finish_gives proper _ _

theorem purge_gives (now : Option Moment) :
    Action.Gives BatchResult.IsProper (purge m now policy : Action σ _) := by
  dsimp only [purge, purgeAt]
  split
  · exact .pure ⟨by decide, fun failed => absurd rfl failed⟩
  · refine .after fun _ => .after fun _ => .after fun _ => .bind (Batch.run_gives (by decide) ..) ?_
    intro batch proper
    apply Batch.finish_gives
    exact ⟨proper.name, proper.ran⟩

theorem executeSql_gives (sql : String) :
    Action.Gives BatchResult.IsProper (executeSql m sql policy : Action σ _) := by
  dsimp only [executeSql]
  exact .bind (Batch.run_gives (by decide) ..) fun batch proper => .pure proper

end Store

theorem Operation.perform_gives [Surroundings σ] (m : Manager) (policy : Policy)
    (op : Operation) : Action.Gives (fun answer => ∀ r, answer = .summary r → r.IsProper)
      (op.perform m policy : Action σ Answer) := by
  have given {r : BatchResult} (proper : r.IsProper) :
      ∀ r', Answer.summary r = .summary r' → r'.IsProper := by
    rintro _ ⟨⟩
    exact proper
  cases op with
  | saveUsers users =>
    exact .bind (Store.saveUsers_gives m policy users) fun _ proper => .pure (given proper)
  | insertAverages entries g =>
    exact .bind (Store.insertAverages_gives m policy entries g) fun _ proper =>
      .pure (given proper)
  | selectPoints since limit g => exact .after fun points => .pure nofun
  | purge now =>
    exact .bind (Store.purge_gives m policy now) fun _ proper => .pure (given proper)
  | executeSql sql =>
    exact .bind (Store.executeSql_gives m policy sql) fun _ proper => .pure (given proper)

namespace Report

/-! ### Status -/

/-- A text in one line that nothing in markup changes. -/
structure IsVerbatim (cs : List Char) : Prop where
  unmarked : isUnmarked cs = true
  codes : withEmoji cs = cs
  visible : ∀ c ∈ cs, isHidden c = false
  line : IsLine cs

/-- The characters of a status that tells of an error. -/
theorem failed_toList (e : String) :
    ("failed: " ++ e).toList = ['f', 'a', 'i', 'l', 'e', 'd', ':', ' '] ++ e.toList :=
  String.toList_append

theorem isUnmarked_failed (e : String) :
    isUnmarked ("failed: " ++ e).toList = isUnmarked e.toList := by
  simp [isUnmarked]

/-- A colon begins no code if a blank is behind it. -/
theorem withEmoji_failed (e : String) : withEmoji ("failed: " ++ e).toList
    = ['f', 'a', 'i', 'l', 'e', 'd', ':', ' '] ++ withEmoji e.toList := by
  rw [failed_toList]
  rfl

theorem forall_mem_failed {p : Char → Bool} {e : String}
    (before : ['f', 'a', 'i', 'l', 'e', 'd', ':', ' '].any p = false)
    (inside : ∀ c ∈ e.toList, p c = false) : ∀ c ∈ ("failed: " ++ e).toList, p c = false := by
  have first : ∀ c ∈ ['f', 'a', 'i', 'l', 'e', 'd', ':', ' '], p c = false := by
    simpa only [List.any_eq_false, Bool.not_eq_true] using before
  rw [failed_toList]
  exact List.forall_mem_append.mpr ⟨first, inside⟩

/-- A text that nothing in markup changes stays one behind the word for a failure. -/
theorem IsVerbatim.failed {e : String} (filled : e ≠ "") (verbatim : IsVerbatim e.toList) :
    IsVerbatim ("failed: " ++ e).toList where
  unmarked := (isUnmarked_failed e).trans verbatim.unmarked
  codes := by rw [withEmoji_failed, verbatim.codes, failed_toList]
  visible := forall_mem_failed (by decide) verbatim.visible
  line := by
    have full : e.toList ≠ [] := by simpa using filled
    refine ⟨forall_mem_failed (by decide) verbatim.line.unbroken, ?_, ?_⟩
    · simpa [failed_toList] using verbatim.line.untabbed
    · rw [failed_toList, List.getLast?_append_of_ne_nil _ full]
      exact verbatim.line.solid

/-- How an error is shown that markup does not change. -/
theorem shownText_failed {e : String} (filled : e ≠ "") (verbatim : IsVerbatim e.toList) :
    shownText ("[red]failed: " ++ e ++ "[/red]")
      = .ok ⟨("failed: " ++ e).toList, [⟨0, ("failed: " ++ e).toList.length, none⟩]⟩ := by
  have whole := verbatim.failed filled
  have text : ("[red]failed: " ++ e ++ "[/red]").toList = '[' :: "red".toList
      ++ ']' :: ("failed: " ++ e).toList ++ '[' :: '/' :: "red".toList ++ [']'] := by
    simp [String.toList_append]
  rw [shownText_tagged isTagWord_red whole.unmarked text,
    shownChars_of_plain whole.codes whole.visible]

variable {r : BatchResult} {e : String}

private theorem statusText_of_error (ran : r.skipped = false) (error : r.error = some e)
    (filled : e ≠ "") :
    statusText (fieldsOf r) = "[red]failed: " ++ e ++ "[/red]" := by
  have shows : r.showsError = true := by simp [BatchResult.showsError, error, filled]
  rw [statusText_fieldsOf, ran, shows, error]
  rfl

/-! ### Tables -/

private theorem legible_of_mem_removedRow (entry : Granularity × Int) :
    ∀ cell ∈ removedRow entry, Legible cell := by
  obtain ⟨g, count⟩ := entry
  simp only [removedRow, List.forall_mem_cons]
  refine ⟨.of_no_bracket ?_, .of_no_bracket (bracket_not_mem_groupedIntText count), nofun⟩
  cases g <;> decide

/-- The table of a result is legible if its status is. -/
theorem resultTable_isLegible (name : '[' ∉ r.operation.toList)
    (status : Legible (statusText (fieldsOf r))) {table : Table}
    (made : resultTable (fieldsOf r) = .ok table) : table.IsLegible := by
  cases (resultTable_fieldsOf r).symm.trans made
  refine ⟨.of_no_bracket name, legible_empty, ?_, ?_⟩
  · simp only [List.forall_mem_cons]
    refine ⟨?_, ?_, nofun⟩ <;> exact .of_no_bracket (by decide)
  · simp only [List.forall_mem_append, List.forall_mem_cons, List.forall_mem_map]
    refine ⟨⟨⟨?_, status, nofun⟩, ⟨?_, ?_, nofun⟩, ⟨?_, ?_, nofun⟩, nofun⟩, ?_⟩
    · exact .of_no_bracket (by decide)
    · exact .of_no_bracket (by decide)
    · exact .of_no_bracket (bracket_not_mem_groupedIntText r.rows)
    · exact .of_no_bracket (by decide)
    · exact .of_no_bracket (bracket_not_mem_placesText 3 r.seconds)
    · exact fun entry _ => legible_of_mem_removedRow entry

/-- An error that markup does not change is shown in the status, on a screen that is wide enough. -/
theorem printResult_failed (proper : r.IsProper) (error : r.error = some e) (filled : e ≠ "")
    (verbatim : IsVerbatim e.toList) :
    ∃ enough, ∀ total, enough ≤ total → ∃ text, printResult total (fieldsOf r) = .ok text ∧
      ShowsPair "Status".toList ("failed: " ++ e).toList text := by
  have ran : r.skipped = false := proper.ran (by simp [error])
  have status := statusText_of_error ran error filled
  have read := shownText_failed filled verbatim
  have whole := verbatim.failed filled
  have legible := resultTable_isLegible proper.name
    (by rw [status]; exact ⟨_, read, by simp [Marked.IsSound]⟩) (resultTable_fieldsOf r)
  have solid : IsLine "Status".toList := .of_check (by decide) (by decide) (by decide)
  have label : shownText "Status" = .ok ⟨"Status".toList, []⟩ := by
    rw [shownText_of_no_bracket (by decide), withEmoji_of_no_colon _ (by decide)]
    rfl
  rw [← status] at read
  rw [failed_toList] at read whole ⊢
  obtain ⟨enough, shows⟩ := legible.print_pair rfl rfl rfl (i := 0) rfl label read
    solid whole.line (by decide) ⟨by decide, by decide, by decide⟩
    ⟨by decide, by decide, by decide⟩
  refine ⟨enough, fun total room => ?_⟩
  rw [printResult, resultTable_fieldsOf]
  exact shows total room

/-- An error that closes a tag of its own keeps its result from being reported. -/
theorem printResult_unmatched (ran : r.skipped = false) (error : r.error = some e)
    {word cs behind : List Char} (tag : IsTagWord word) (different : "red".toList ≠ word)
    (unmarked : isUnmarked cs = true) (text : e.toList = cs ++ '[' :: '/' :: word ++ ']' :: behind)
    {total : Nat} (room : 6 ≤ total) : ∃ p, printResult total (fieldsOf r) = .error p := by
  have filled : e ≠ "" := by
    rintro rfl
    simp at text
  have unread : ∃ p, shownText (statusText (fieldsOf r)) = .error p := by
    rw [statusText_of_error ran error filled]
    have whole : isUnmarked (['f', 'a', 'i', 'l', 'e', 'd', ':', ' '] ++ cs) = true := by
      simpa [isUnmarked] using unmarked
    have text' : ("[red]failed: " ++ e ++ "[/red]").toList = '[' :: "red".toList
        ++ ']' :: (['f', 'a', 'i', 'l', 'e', 'd', ':', ' '] ++ cs)
        ++ '[' :: '/' :: word ++ ']' :: (behind ++ "[/red]".toList) := by
      simp [String.toList_append, text]
    exact shownText_unmatched isTagWord_red tag different whole text'
  rw [printResult, resultTable_fieldsOf]
  exact Table.print_error (i := 1) rfl List.mem_cons_self rfl unread room

end Report

/-- The error that an operation returns is shown in the status of its result as it is, on every
screen that is wide enough for it, if it is a text in one line that nothing in markup changes. -/
theorem Operation.perform_error_shown [Surroundings σ] {m : Manager} {policy : Policy}
    {op : Operation} {w w' : World σ} {r : BatchResult} {e : String}
    (ran : op.perform m policy w = (.ok (.summary r), w')) (error : r.error = some e)
    (filled : e ≠ "") (verbatim : Report.IsVerbatim e.toList) :
    ∃ enough, ∀ total, enough ≤ total → ∃ text,
      Report.printResult total (Report.fieldsOf r) = .ok text ∧
      ShowsPair "Status".toList ("failed: " ++ e).toList text :=
  Report.printResult_failed (op.perform_gives m policy ran r rfl) error filled verbatim

/-- A bracket that begins no tag does no harm. -/
theorem Operation.perform_error_shown_bracket : ∃ r w',
    (Operation.executeSql "[1]").perform Calm.manager .tolerant Calm.world
      = (.ok (.summary r), w') ∧
    r.error = some "execute_sql: syntax error at or near \"[1]\"" ∧
    ∃ enough, ∀ total, enough ≤ total → ∃ text,
      Report.printResult total (Report.fieldsOf r) = .ok text ∧ ShowsPair "Status".toList
        ("failed: " ++ "execute_sql: syntax error at or near \"[1]\"").toList text := by
  have told : (Answer.summary? ((Operation.executeSql "[1]").perform Calm.manager .tolerant
        Calm.world).1).map (·.error)
      = some (some "execute_sql: syntax error at or near \"[1]\"") := by
    decide +kernel
  rcases ran : (Operation.executeSql "[1]").perform Calm.manager .tolerant Calm.world
    with ⟨outcome, w'⟩
  rw [ran] at told
  obtain ⟨r, given, error⟩ := Option.map_eq_some_iff.mp told
  obtain rfl := Answer.of_summary? given
  have verbatim :
      Report.IsVerbatim "execute_sql: syntax error at or near \"[1]\"".toList := by
    refine ⟨by decide, by decide, ?_, .of_check (by decide) (by decide) (by decide)⟩
    have hidden : "execute_sql: syntax error at or near \"[1]\"".toList.any isHidden = false := by
      decide
    simpa only [List.any_eq_false, Bool.not_eq_true] using hidden
  exact ⟨r, w', rfl, error, Operation.perform_error_shown ran error (by decide) verbatim⟩

/-- A path in brackets is taken for a closing tag, and nothing is shown. -/
theorem Operation.perform_error_unshown : ∃ r w',
    (Operation.executeSql "[/tmp]").perform Calm.manager .tolerant Calm.world
      = (.ok (.summary r), w') ∧
    r.error = some "execute_sql: syntax error at or near \"[/tmp]\"" ∧
    ∀ total, 6 ≤ total → ∃ p, Report.printResult total (Report.fieldsOf r) = .error p := by
  have told : (Answer.summary? ((Operation.executeSql "[/tmp]").perform Calm.manager .tolerant
        Calm.world).1).map (fun r => (r.error, r.skipped))
      = some (some "execute_sql: syntax error at or near \"[/tmp]\"", false) := by
    decide +kernel
  rcases ran : (Operation.executeSql "[/tmp]").perform Calm.manager .tolerant Calm.world
    with ⟨outcome, w'⟩
  rw [ran] at told
  obtain ⟨r, given, shown⟩ := Option.map_eq_some_iff.mp told
  obtain rfl := Answer.of_summary? given
  obtain ⟨error, executed⟩ := Prod.mk.inj shown
  have tag : IsTagWord "tmp".toList := by
    constructor <;> decide
  have text : "execute_sql: syntax error at or near \"[/tmp]\"".toList
      = "execute_sql: syntax error at or near \"".toList ++ '[' :: '/' :: "tmp".toList
        ++ ']' :: ['"'] := by
    decide
  exact ⟨r, w', rfl, error, fun total room =>
    Report.printResult_unmatched executed error tag (by decide) (by decide) text room⟩

end BucketStore
