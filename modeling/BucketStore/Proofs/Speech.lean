import BucketStore.CommandLine.Administration
import BucketStore.Proofs.Batch
import BucketStore.Proofs.Opening

/-!
What is only said: entries of the journal, output and lines about errors. A program does no more
than that when it reads its configuration and when it tells of its results, so that a relation
between worlds which speech does not break holds there by one lemma.
-/

namespace BucketStore

variable {σ : Type}

/-- Nothing happened but that something was said. -/
def Spoken (w w' : World σ) : Prop :=
  ∃ journal output complaints, w' = { w with journal, output, complaints }

namespace Spoken

instance : IsPreorder (World σ) Spoken where
  refl w := ⟨w.journal, w.output, w.complaints, rfl⟩
  trans := by
    rintro w _ _ ⟨_, _, _, rfl⟩ ⟨journal, output, complaints, rfl⟩
    exact ⟨journal, output, complaints, rfl⟩

theorem log (entry : LogEntry) : Action.Within Spoken (Action.log entry : Action σ Unit) :=
  fun _ => ⟨_, _, _, rfl⟩

theorem print (text : String) : Action.Within Spoken (Action.print text : Action σ Unit) :=
  fun _ => ⟨_, _, _, rfl⟩

theorem complain (line : String) : Action.Within Spoken (Action.complain line : Action σ Unit) :=
  fun _ => ⟨_, _, _, rfl⟩

end Spoken

namespace Manager

theorem readSource_spoken (source : Option (List (String × Value))) :
    Action.Within Spoken (readSource source : Action σ (Option DatabaseSettings)) := by
  intro w
  obtain ⟨journal, read⟩ := readSource_apply source w
  rw [read]
  exact ⟨journal, _, _, rfl⟩

theorem readProperties_spoken (path : String) (file : Properties.File) :
    Action.Within Spoken (readProperties path file : Action σ Properties.Entries) := by
  dsimp only [readProperties]
  split
  · exact .pure _
  · exact .ofExcept _
  · exact .bind (Spoken.log _) fun _ => .pure _

end Manager

namespace CommandLine

variable (host : Host)

theorem Host.print_spoken (text : String) :
    Action.Within Spoken (host.print text : Action σ Unit) := by
  refine .bind .get fun w => ?_
  split
  · exact Spoken.print text
  · exact .throw _

theorem Host.complain_spoken (line : String) :
    Action.Within Spoken (host.complain line : Action σ Unit) := by
  refine .bind .get fun w => ?_
  split
  · exact Spoken.complain line
  · exact .throw _

theorem printReport_spoken (report : Except Problem String) :
    Action.Within Spoken (printReport host report : Action σ Unit) :=
  .bind (.ofExcept _) fun text => host.print_spoken text

/-- After its statement a program only tells how that ended. -/
theorem executeStatement_spoken [Surroundings σ] (m : Manager) (sql : String) (w : World σ) :
    Spoken (Store.executeSql m sql .strict w).2 (executeStatement host m sql w).2 := by
  rw [executeStatement, Action.attempt_bind]
  rcases Store.executeSql m sql .strict w with ⟨fault | result, w₁⟩
  · dsimp only
    split
    · refine Action.Within.bind (host.complain_spoken _) (fun _ => ?_) w₁
      split
      · exact .bind (host.complain_spoken _) fun _ => .pure _
      · exact .pure none
    · exact refl_of Spoken w₁
  · exact refl_of Spoken w₁

end CommandLine

end BucketStore
