import BucketStore.Proofs.Markup
import BucketStore.Proofs.NumberText
import BucketStore.Proofs.Stamp
import BucketStore.Report

/-!
The report of points. Numbers and stamps are written without brackets, so that nothing in the
report is taken for markup: it is printed on every screen if all timestamps have a stamp, and on
none otherwise.
-/

namespace BucketStore

private theorem Stamp.bracket_not_mem_ofSecond (second : Int) : '[' ∉ (ofSecond second).toList := by
  have twice (n : Nat) : '[' ∉ (twoDigits n).toList :=
    not_mem_of_naturalText? (naturalText?_twoDigits n) (by decide)
  rw [toList_ofSecond]
  simp [dateText, clockText, twice, bracket_not_mem_intText]

/-! ### The report -/

namespace Report

open Console

/-- The cells of a point with a stamp can be read. -/
theorem pointCells_ok {millis : Int} (inYears : Stamp.InCalendar millis) (average : Float) :
    ∃ cells, pointCells (.int millis) (.float average) = .ok cells ∧
      ∀ cell ∈ cells, Legible cell := by
  have stamped : Stamp.ofValue (.int millis) = .ok (Stamp.ofSecond (millis / 1000)) := by
    rw [Stamp.ofValue, Stamp.ofMillis_eq inYears]
  have cells : pointCells (.int millis) (.float average) = .ok
      [Stamp.ofSecond (millis / 1000), intText millis, groupedPlacesText 4 average] := by
    rw [pointCells, Result.bind_of_ok stamped]
    rfl
  refine ⟨_, cells, ?_⟩
  simp only [List.forall_mem_cons]
  refine ⟨?_, ?_, ?_, nofun⟩
  · exact .of_no_bracket (Stamp.bracket_not_mem_ofSecond _)
  · exact .of_no_bracket (bracket_not_mem_intText millis)
  · exact .of_no_bracket (bracket_not_mem_groupedPlacesText 4 average)

private theorem pointCells_error {millis : Int} (outside : ¬Stamp.InCalendar millis)
    (average : Value) :
    ∃ p, pointCells (.int millis) average = .error p := by
  cases stamped : Stamp.ofMillis millis with
  | ok text => exact absurd (Stamp.inCalendar_of_ok stamped) outside
  | error p =>
    refine ⟨p, ?_⟩
    have same : Stamp.ofValue (.int millis) = .error p := stamped
    rw [pointCells, same]
    rfl

/-- Points as they are handed to the report. -/
def cellsOf (points : List Point) : List (Value × Value) :=
  points.map fun p => (.int p.timestamp, .float p.value)

private theorem legible_title (g : Granularity) :
    Legible ("Reporting averages (" ++ g.title ++ ")") := by
  apply Legible.of_no_bracket
  cases g <;> decide

private theorem legible_nothing : Legible "[yellow]No reporting points to display.[/yellow]" := by
  have unmarked : isUnmarked "No reporting points to display.".toList = true := by
    decide
  exact ⟨_, shownText_tagged isTagWord_yellow unmarked rfl, by simp [Marked.IsSound]⟩

private theorem printText_ok {s : String} (legible : Legible s) (total : Nat) :
    ∃ text, printText total s = .ok text := by
  obtain ⟨m, read, sound⟩ := legible
  obtain ⟨lines, laid⟩ := Layout.lines_ok {} total sound
  rw [printText, Result.bind_of_ok read]
  split
  · exact ⟨_, rfl⟩
  · exact ⟨_, Result.bind_of_ok laid⟩

/-- The table of rows of points. -/
def tableOf (g : Granularity) (rows : List (List String)) : Table where
  title := "Reporting averages (" ++ g.title ++ ")"
  columns :=
    [{ header := "Timestamp (UTC)", wraps := false }, { header := "ts (ms)", alignment := .right },
      { header := "Average", alignment := .right }]
  rows := rows
  caption := "Newest first"

private theorem pointsTable_eq (g : Granularity) (points : List (Value × Value)) :
    pointsTable g points = (do
      let rows ← points.mapM fun cells => pointCells cells.1 cells.2
      return tableOf g rows) :=
  rfl

private theorem tableOf_isLegible (g : Granularity) {rows : List (List String)}
    (legible : ∀ row ∈ rows, ∀ cell ∈ row, Legible cell) : (tableOf g rows).IsLegible := by
  have caption : Legible "Newest first" := .of_no_bracket (by decide)
  have stamp : Legible "Timestamp (UTC)" := .of_no_bracket (by decide)
  have timestamp : Legible "ts (ms)" := .of_no_bracket (by decide)
  have average : Legible "Average" := .of_no_bracket (by decide)
  refine ⟨legible_title g, caption, List.forall_mem_cons.mpr ⟨stamp, ?_⟩, legible⟩
  exact List.forall_mem_cons.mpr ⟨timestamp, List.forall_mem_singleton.mpr average⟩

/-- Points that all have a stamp are printed. -/
theorem printPoints_ok {points : List Point}
    (inYears : ∀ p ∈ points, Stamp.InCalendar p.timestamp) (screen : Nat) (g : Granularity) :
    ∃ text, printPoints screen g (cellsOf points) = .ok text := by
  unfold printPoints
  split
  · exact printText_ok legible_nothing screen
  · obtain ⟨rows, made, legible⟩ :
        ∃ rows, (cellsOf points).mapM (fun cells => pointCells cells.1 cells.2) = .ok rows ∧
          ∀ row ∈ rows, ∀ cell ∈ row, Legible cell := by
      apply Result.mapM_all
      intro cell member
      obtain ⟨p, inside, rfl⟩ := List.mem_map.mp member
      exact pointCells_ok (inYears p inside) p.value
    have table : pointsTable g (cellsOf points) = .ok (tableOf g rows) := by
      rw [pointsTable_eq, Result.bind_of_ok made]
      rfl
    rw [Result.bind_of_ok table]
    exact (tableOf_isLegible g legible).print screen

/-- One point without a stamp keeps all of them from being printed. -/
theorem printPoints_error {points : List Point} {p : Point} (member : p ∈ points)
    (outside : ¬Stamp.InCalendar p.timestamp) (screen : Nat) (g : Granularity) :
    ∃ problem, printPoints screen g (cellsOf points) = .error problem := by
  have inside : (Value.int p.timestamp, Value.float p.value) ∈ cellsOf points :=
    List.mem_map.mpr ⟨p, member, rfl⟩
  have full : (cellsOf points).isEmpty = false := by
    rw [List.isEmpty_eq_false_iff]
    exact List.ne_nil_of_mem inside
  obtain ⟨problem, failed⟩ : ∃ problem,
      (cellsOf points).mapM (fun cells => pointCells cells.1 cells.2) = .error problem := by
    apply Result.mapM_error inside
    exact pointCells_error outside (.float p.value)
  refine ⟨problem, ?_⟩
  rw [printPoints, full, pointsTable_eq, failed]
  rfl

end Report

end BucketStore
