import BucketStore.Console.Table
import BucketStore.Proofs.Action

/-!
Legible texts. Layout moves and cuts the stretches of a text that bear a style, but it makes no new
ones, so that a table whose texts can be read, and whose styles can be judged, is printed on every
screen.
-/

namespace BucketStore

namespace Result

variable {ε α β : Type}

theorem bind_of_ok {a : Except ε α} {f : α → Except ε β} {x : α} (ended : a = .ok x) :
    (a >>= f) = f x := by
  rw [ended]
  rfl

/-- A list is gone through if each of its items can be dealt with. -/
theorem mapM_all {P : β → Prop} {f : α → Except ε β} {items : List α}
    (each : ∀ x ∈ items, ∃ y, f x = .ok y ∧ P y) :
    ∃ ys, items.mapM f = .ok ys ∧ ∀ y ∈ ys, P y := by
  induction items with
  | nil => exact ⟨[], rfl, nofun⟩
  | cons x rest ih =>
    obtain ⟨y, first, holds⟩ := each x List.mem_cons_self
    obtain ⟨ys, others, hold⟩ := ih fun z member => each z (List.mem_cons_of_mem x member)
    refine ⟨y :: ys, ?_, List.forall_mem_cons.mpr ⟨holds, hold⟩⟩
    rw [List.mapM_cons, bind_of_ok first, bind_of_ok others]
    rfl

theorem mapM_ok {f : α → Except ε β} {items : List α} (each : ∀ x ∈ items, ∃ y, f x = .ok y) :
    ∃ ys, items.mapM f = .ok ys := by
  have all : ∃ ys, items.mapM f = .ok ys ∧ ∀ y ∈ ys, True :=
    mapM_all fun x member => (each x member).imp fun y dealt => ⟨dealt, trivial⟩
  exact all.imp fun _ ended => ended.1

theorem mapM_error {f : α → Except ε β} {items : List α} {x : α} (member : x ∈ items)
    (failed : ∃ e, f x = .error e) : ∃ e, items.mapM f = .error e := by
  induction items with
  | nil => cases member
  | cons first rest ih =>
    rw [List.mapM_cons]
    rcases dealt : f first with e | y
    · exact ⟨e, rfl⟩
    · rcases List.mem_cons.mp member with rfl | later
      · obtain ⟨e, failed⟩ := failed
        rw [dealt] at failed
        cases failed
      · obtain ⟨e, ended⟩ := ih later
        refine ⟨e, ?_⟩
        rw [ended]
        rfl

/-- Where a list was gone through, each item was dealt with at its place. -/
theorem mapM_getElem? {f : α → Except ε β} {items : List α} {ys : List β}
    (ended : items.mapM f = .ok ys) {i : Nat} {x : α} (found : items[i]? = some x) :
    ∃ y, ys[i]? = some y ∧ f x = .ok y := by
  induction items generalizing ys i with
  | nil => cases found
  | cons first rest ih =>
    rw [List.mapM_cons] at ended
    obtain ⟨y, dealt, ended⟩ := bind_eq_ok ended
    obtain ⟨others, later, ended⟩ := bind_eq_ok ended
    cases ended
    cases i with
    | zero =>
      obtain rfl : first = x := Option.some.inj found
      exact ⟨y, rfl, dealt⟩
    | succ i => exact ih later found

end Result

namespace Console

/-! ### Layout -/

namespace Marked

/-- All styles of a text can be judged. -/
def IsSound (t : Marked) : Prop :=
  ∀ s ∈ t.spans, s.flaw? = none

/-- A text whose spans come from those of a sound one. -/
theorem IsSound.of_spans {t u : Marked} (sound : t.IsSound)
    (kept : ∀ s ∈ u.spans, ∃ s' ∈ t.spans, s.flaw? = s'.flaw?) : u.IsSound := by
  intro s member
  obtain ⟨s', member', same⟩ := kept s member
  rw [same]
  exact sound s' member'

variable {t u : Marked}

theorem IsSound.slice (sound : t.IsSound) (start stop : Nat) : (t.slice start stop).IsSound := by
  apply sound.of_spans
  intro s member
  obtain ⟨s', member', cut⟩ := List.mem_filterMap.mp member
  dsimp only at cut
  split at cut
  · cases cut
    exact ⟨s', member', rfl⟩
  · cases cut

private theorem isSound_of_mem_zipWith (sound : t.IsSound) {starts stops : List Nat}
    (member : u ∈ List.zipWith t.slice starts stops) : u.IsSound := by
  rw [← List.map_uncurry_zip_eq_zipWith] at member
  obtain ⟨⟨start, stop⟩, _, rfl⟩ := List.mem_map.mp member
  exact sound.slice start stop

private theorem isSound_of_mem_divide (sound : t.IsSound) {places : List Nat}
    (member : u ∈ t.divide places) : u.IsSound := by
  unfold divide at member
  split at member
  · rwa [List.mem_singleton.mp member]
  · exact isSound_of_mem_zipWith sound member

private theorem isSound_of_mem_lines (sound : t.IsSound) (member : u ∈ t.lines) : u.IsSound := by
  unfold lines at member
  dsimp only at member
  split at member
  · rwa [List.mem_singleton.mp member]
  · exact isSound_of_mem_zipWith sound member

theorem IsSound.withChars (sound : t.IsSound) (chars : List Char) :
    (t.withChars chars).IsSound := by
  apply sound.of_spans
  intro s member
  unfold Marked.withChars at member
  dsimp only at member
  split at member
  · obtain ⟨s', member', rfl⟩ := List.mem_map.mp member
    exact ⟨s', (List.mem_filter.mp member').1, rfl⟩
  · exact ⟨s, member, rfl⟩

theorem IsSound.indent (sound : t.IsSound) (n : Nat) : (t.indent n).IsSound := by
  apply sound.of_spans
  intro s member
  obtain ⟨s', member', rfl⟩ := List.mem_map.mp member
  exact ⟨s', member', rfl⟩

theorem IsSound.extend (sound : t.IsSound) (n : Nat) : (t.extend n).IsSound :=
  sound

theorem IsSound.append (first : t.IsSound) (last : u.IsSound) : (t.append u).IsSound := by
  intro s member
  obtain before | behind := List.mem_append.mp member
  · exact first s before
  · obtain ⟨s', member', rfl⟩ := List.mem_map.mp behind
    exact last s' member'

theorem IsSound.expandPart (sound : t.IsSound) (used : Nat) :
    (expandPart used t).1.IsSound := by
  unfold Marked.expandPart
  split
  · intro s member
    obtain ⟨s', member', rfl⟩ := List.mem_map.mp member
    split
    · exact sound s' member'
    · exact sound s' member'
  · exact sound

theorem IsSound.expandTabs (sound : t.IsSound) : t.expandTabs.IsSound := by
  have parts : ∀ part ∈ t.divide ((placesOf '\t' 0 t.chars).map (· + 1)), part.IsSound :=
    fun part member => isSound_of_mem_divide sound member
  have start : (⟨[], []⟩ : Marked).IsSound := nofun
  unfold Marked.expandTabs
  dsimp only
  generalize t.divide ((placesOf '\t' 0 t.chars).map (· + 1)) = parts' at parts
  generalize (⟨[], []⟩ : Marked) = line at start
  generalize 0 = used
  induction parts' generalizing line used with
  | nil => exact start
  | cons part rest ih =>
    obtain ⟨first, others⟩ := List.forall_mem_cons.mp parts
    exact ih others _ (start.append (first.expandPart used)) _

/-- A sound text can be shown. -/
theorem IsSound.segments (sound : t.IsSound) : t.segments
    = .ok (segmentsFrom (t.spans.flatMap fun s => [s.first, s.last]) 0 [] t.chars) := by
  have none : t.spans.findSome? (·.flaw?) = none := List.findSome?_eq_none_iff.mpr sound
  rw [Marked.segments, none]

end Marked

open Marked (IsSound)

section

variable {t u : Marked}

theorem IsSound.truncate (sound : t.IsSound) (overflow : Overflow) (total : Nat) :
    (truncate overflow total t).IsSound := by
  unfold Console.truncate
  split
  · exact sound
  · cases overflow with
    | fold => exact sound.withChars _
    | ellipsis => exact sound.withChars _

theorem IsSound.align (sound : t.IsSound) (alignment : Alignment) (overflow : Overflow)
    (total : Nat) : (align alignment overflow total t).IsSound := by
  have trimmed : t.trimEnd.IsSound := sound.withChars _
  cases alignment with
  | ragged => exact sound
  | left => exact IsSound.truncate sound overflow total
  | centre => exact (IsSound.truncate trimmed overflow total).indent _
  | right => exact (IsSound.truncate trimmed overflow total).indent _

private theorem isSound_of_mem_break (layout : Layout) (total : Nat) (sound : t.IsSound)
    (member : u ∈ layout.break total t) : u.IsSound := by
  obtain ⟨part, member', rfl⟩ := List.mem_map.mp member
  exact (Marked.isSound_of_mem_divide sound member').withChars _

private theorem isSound_of_mem_line (layout : Layout) (total : Nat) (sound : t.IsSound)
    (member : u ∈ layout.line total t) : u.IsSound := by
  unfold Layout.line at member
  dsimp only at member
  obtain ⟨part, member', rfl⟩ := List.mem_map.mp member
  apply IsSound.truncate
  apply IsSound.align
  have expanded : (if t.chars.contains '\t' then t.expandTabs else t).IsSound := by
    split
    · exact sound.expandTabs
    · exact sound
  split at member'
  · exact isSound_of_mem_break layout total expanded member'
  · rwa [List.mem_singleton.mp member']

theorem Layout.lines_ok (layout : Layout) (total : Nat) (sound : t.IsSound) :
    ∃ lines, layout.lines total t = .ok lines := by
  apply Result.mapM_ok
  intro part member
  obtain ⟨line, member', here⟩ := List.mem_flatMap.mp member
  have part_sound := isSound_of_mem_line layout total
    (Marked.isSound_of_mem_lines sound member') here
  exact ⟨_, part_sound.segments⟩

end

/-! ### Texts -/

/-- A marked-up text can be read, and its styles can be judged. -/
def Legible (s : String) : Prop :=
  ∃ t, shownText s = .ok t ∧ t.IsSound

/-- A text without brackets has no marks. -/
theorem shownText_of_no_bracket {s : String} (unmarked : '[' ∉ s.toList) :
    shownText s = .ok ⟨(withEmoji s.toList).filter (!isHidden ·), []⟩ := by
  simp [shownText, unmarked]

theorem Legible.of_no_bracket {s : String} (unmarked : '[' ∉ s.toList) : Legible s :=
  ⟨_, shownText_of_no_bracket unmarked, nofun⟩

theorem legible_empty : Legible "" :=
  .of_no_bracket (by simp)

namespace Table

/-- All texts of a table are legible. -/
structure IsLegible (t : Table) : Prop where
  title : Legible t.title
  caption : Legible t.caption
  headers : ∀ column ∈ t.columns, Legible column.header
  cells : ∀ row ∈ t.rows, ∀ cell ∈ row, Legible cell

theorem cellLines_ok {m : Marked} (sound : m.IsSound) (column : Column) (size : Nat) :
    ∃ lines, cellLines column size m = .ok lines := by
  unfold cellLines
  split
  · exact ⟨[], rfl⟩
  · obtain ⟨lines, laid⟩ :=
      Layout.lines_ok ⟨column.alignment, .ellipsis, column.wraps⟩ (size - 2) sound
    simp only [laid]
    exact ⟨_, rfl⟩

theorem annotation_ok {s : String} (legible : Legible s) (total : Nat) :
    ∃ lines, annotation total s = .ok lines := by
  obtain ⟨m, read, sound⟩ := legible
  unfold annotation
  split
  · exact ⟨[], rfl⟩
  · rw [read]
    exact Layout.lines_ok { alignment := .centre } total sound

/-- The texts of columns are sound. -/
def AreSound (columns : List (Column × List Marked)) : Prop :=
  ∀ entry ∈ columns, ∀ m ∈ entry.2, m.IsSound

variable {t : Table} {columns : List (Column × List Marked)}

/-- The lines of the cell in a row, and their size. -/
def rowCell (i : Nat) (entry : Nat × Column × List Marked) :
    Except Problem (Nat × List (List (List Char))) := do
  let lines ← cellLines entry.2.1 entry.1 ((entry.2.2[i]?).getD ⟨[], []⟩)
  return (entry.1, lines)

theorem textRow_eq (isHeader : Bool) (widths : List Nat) (columns : List (Column × List Marked))
    (i : Nat) : textRow isHeader widths columns i = (do
      let cells ← (widths.zip columns).mapM (rowCell i)
      return rowLines isHeader cells) :=
  rfl

theorem textRow_ok (sound : AreSound columns) (isHeader : Bool) (widths : List Nat) (i : Nat) :
    ∃ lines, textRow isHeader widths columns i = .ok lines := by
  have each : ∃ cells, (widths.zip columns).mapM (rowCell i) = .ok cells := by
    apply Result.mapM_ok
    rintro ⟨size, column, cells⟩ member
    have texts := sound _ (List.of_mem_zip member).2
    have cell : ((cells[i]?).getD ⟨[], []⟩).IsSound := by
      cases found : cells[i]? with
      | none => exact nofun
      | some m => exact texts m (List.mem_of_getElem? found)
    obtain ⟨lines, made⟩ := cellLines_ok cell column size
    rw [rowCell, made]
    exact ⟨_, rfl⟩
  obtain ⟨cells, made⟩ := each
  rw [textRow_eq, made]
  exact ⟨_, rfl⟩

theorem bodyLines_ok (sound : AreSound columns) (widths : List Nat) (rowCount : Nat) :
    ∃ lines, bodyLines widths columns rowCount = .ok lines := by
  obtain ⟨header, first⟩ := textRow_ok sound true widths 0
  obtain ⟨rows, rest⟩ : ∃ rows,
      (List.range rowCount).mapM (fun i => textRow false widths columns (i + 1)) = .ok rows :=
    Result.mapM_ok fun i _ => textRow_ok sound false widths (i + 1)
  rw [bodyLines, first, rest]
  exact ⟨_, rfl⟩

/-- The texts of a legible table are read. -/
theorem IsLegible.texts (legible : t.IsLegible) :
    ∃ columns, t.texts = .ok columns ∧ AreSound columns := by
  apply Result.mapM_all
  rintro ⟨column, i⟩ member
  have inside : column ∈ t.columns := by
    simpa using List.mem_map_of_mem (f := Prod.fst) member
  have each : ∀ s ∈ column.header :: t.rows.map (fun row => (row[i]?).getD ""), Legible s := by
    rw [List.forall_mem_cons]
    refine ⟨legible.headers column inside, ?_⟩
    intro s member
    obtain ⟨row, there, rfl⟩ := List.mem_map.mp member
    cases found : row[i]? with
    | none => exact legible_empty
    | some cell => exact legible.cells row there cell (List.mem_of_getElem? found)
  obtain ⟨cells, read, sound⟩ := Result.mapM_all each
  exact ⟨(column, cells), Result.bind_of_ok read, sound⟩

/-- Without texts the columns of a table are only frames. -/
theorem areSound_empty (columns : List Column) :
    AreSound (columns.map fun column => (column, [])) := by
  intro entry member m inside
  obtain ⟨column, _, rfl⟩ := List.mem_map.mp member
  cases inside

/-- Title, body and caption of a legible table are laid out. -/
theorem IsLegible.assemble (legible : t.IsLegible) (sound : AreSound columns) (widths : List Nat)
    (size total : Nat) : ∃ lines, (do
      let title ← annotation size t.title
      let body ← bodyLines widths columns t.rows.length
      let caption ← annotation size t.caption
      return (title ++ body ++ caption).map (limitLine total)) = .ok lines := by
  obtain ⟨title, above⟩ := annotation_ok legible.title size
  obtain ⟨body, middle⟩ := bodyLines_ok sound widths t.rows.length
  obtain ⟨caption, below⟩ := annotation_ok legible.caption size
  rw [Result.bind_of_ok above, Result.bind_of_ok middle, Result.bind_of_ok below]
  exact ⟨_, rfl⟩

theorem IsLegible.lines (legible : t.IsLegible) (total : Nat) :
    ∃ lines, t.lines total = .ok lines := by
  unfold Table.lines
  split
  · exact ⟨[], rfl⟩
  · dsimp only
    split
    · exact legible.assemble (areSound_empty t.columns) _ _ total
    · obtain ⟨columns, read, sound⟩ := legible.texts
      rw [Result.bind_of_ok read]
      exact legible.assemble sound _ _ total

/-- A legible table is printed on every screen. -/
theorem IsLegible.print (legible : t.IsLegible) (total : Nat) :
    ∃ text, t.print total = .ok text := by
  obtain ⟨lines, laid⟩ := legible.lines total
  rw [Table.print, laid]
  exact ⟨_, rfl⟩

/-- A cell that cannot be read keeps a table from being printed wherever there is room for texts. -/
theorem print_error {i : Nat} {column : Column} (there : t.columns[i]? = some column)
    {row : List String} (member : row ∈ t.rows) {s : String} (cell : row[i]? = some s)
    (unread : ∃ p, shownText s = .error p) {total : Nat} (room : t.frameWidth + 3 ≤ total) :
    ∃ p, t.print total = .error p := by
  obtain ⟨p, failed⟩ : ∃ p, t.texts = .error p := by
    have inside : (column, i) ∈ t.columns.zipIdx := List.mem_zipIdx_iff_getElem?.mpr there
    apply Result.mapM_error inside
    have among : s ∈ column.header :: t.rows.map fun row => (row[i]?).getD "" := by
      refine List.mem_cons_of_mem _ (List.mem_map.mpr ⟨row, member, ?_⟩)
      rw [cell]
      rfl
    obtain ⟨p, failed⟩ := Result.mapM_error among unread
    refine ⟨p, ?_⟩
    dsimp only
    rw [failed]
    rfl
  refine ⟨p, ?_⟩
  have roomy : ¬total - t.frameWidth < 3 := by omega
  rw [print, lines, if_neg (by omega)]
  simp only [if_neg roomy]
  rw [failed]
  rfl

end Table

end Console

end BucketStore
