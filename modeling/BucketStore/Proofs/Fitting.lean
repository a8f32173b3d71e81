import BucketStore.Proofs.CellWidth
import BucketStore.Proofs.Legible

/-!
Fitting texts. A line that is no wider than its cell stands there as it is, with blanks around it
that fill the cell up; so a table that is no wider than its screen shows the text of such a cell.
-/

namespace BucketStore.Console

/-- A line of segments that takes `size` cells and shows a text among blanks. -/
structure Displays (cs : List Char) (size : Nat) (line : List (List Char)) : Prop where
  text : ∃ before after, line.flatten = spaces before ++ cs ++ spaces after
  size : lineWidth line = size

/-! ### Lines of segments -/

private theorem lineWidth_append (first last : List (List Char)) :
    lineWidth (first ++ last) = lineWidth first + lineWidth last := by
  rw [lineWidth, List.map_append, totalWidth_append, lineWidth, lineWidth]

private theorem lineWidth_cons (segment : List Char) (rest : List (List Char)) :
    lineWidth (segment :: rest) = width segment + lineWidth rest :=
  rfl

private theorem lineWidth_single (segment : List Char) : lineWidth [segment] = width segment :=
  rfl

private theorem limitLine_of_le {total : Nat} {line : List (List Char)}
    (fits : lineWidth line ≤ total) :
    limitLine total line = line :=
  if_neg (Nat.not_lt.mpr fits)

private theorem fitLine_of_eq {total : Nat} {line : List (List Char)}
    (full : lineWidth line = total) :
    fitLine total line = line := by
  rw [fitLine, if_neg (by omega), limitLine_of_le (Nat.le_of_eq full)]

/-- A line with a blank on both sides. -/
theorem Displays.padLine {cs : List Char} {size : Nat} {line : List (List Char)}
    (displays : Displays cs size line) :
    Displays cs (size + 2) (Table.padLine (size + 2) line) := by
  obtain ⟨⟨before, after, text⟩, full⟩ := displays
  have one : lineWidth [[' ']] = 1 := by decide
  have wide : lineWidth ([' '] :: line ++ [[' ']]) = size + 2 := by
    rw [← List.singleton_append, lineWidth_append, lineWidth_append, one, full]
    omega
  rw [Table.padLine, Nat.add_sub_cancel, fitLine_of_eq full, fitLine_of_eq wide]
  refine ⟨⟨before + 1, after + 1, ?_⟩, wide⟩
  have first : spaces (before + 1) = ' ' :: spaces before := List.replicate_succ
  have last : spaces (after + 1) = spaces after ++ [' '] := List.replicate_succ'
  simp [text, first, last]

namespace Marked

private theorem segmentsFrom_first (places : List Nat) (place : Nat) (c : Char) (rest : List Char) :
    segmentsFrom places place [] (c :: rest) = segmentsFrom places (place + 1) [c] rest := by
  rw [segmentsFrom, List.isEmpty_nil, Bool.not_true, Bool.and_false, if_neg Bool.false_ne_true]

/-- No place to cut at lies inside a text. -/
theorem segmentsFrom_uncut {places : List Nat} {place : Nat} {cs : List Char}
    (uncut : ∀ p ∈ places, p < place ∨ place + cs.length ≤ p) (gathered rest : List Char) :
    segmentsFrom places place gathered (cs ++ rest)
      = segmentsFrom places (place + cs.length) (cs.reverse ++ gathered) rest := by
  induction cs generalizing place gathered with
  | nil => rfl
  | cons c cs ih =>
    have here : places.contains place = false := by
      rw [List.contains_eq_mem, decide_eq_false_iff_not]
      intro member
      have apart := uncut place member
      rw [List.length_cons] at apart
      omega
    have later : ∀ p ∈ places, p < place + 1 ∨ place + 1 + cs.length ≤ p := by
      intro p member
      have apart := uncut p member
      rw [List.length_cons] at apart
      omega
    rw [List.cons_append, segmentsFrom, here, Bool.false_and, if_neg Bool.false_ne_true, ih later,
      List.length_cons, List.reverse_cons, List.append_assoc, Nat.add_assoc, Nat.add_comm 1]
    rfl

private theorem segmentsFrom_last {places : List Nat} {place : Nat} {cs : List Char}
    (uncut : ∀ p ∈ places, p < place ∨ place + cs.length ≤ p) (c : Char) :
    segmentsFrom places place [c] cs = [c :: cs] := by
  have ended := segmentsFrom_uncut uncut [c] []
  rw [List.append_nil] at ended
  rw [ended, segmentsFrom]
  simp

/-- Where a place to cut at is met behind other characters, a segment ends. -/
theorem segmentsFrom_cut {places : List Nat} {place : Nat} (member : place ∈ places)
    {gathered : List Char} (some : gathered ≠ []) (c : Char) (rest : List Char) :
    segmentsFrom places place gathered (c :: rest)
      = gathered.reverse :: segmentsFrom places (place + 1) [c] rest := by
  have here : places.contains place = true := by simpa using member
  have begun : gathered.isEmpty = false := by simpa using some
  rw [segmentsFrom, here, begun]
  rfl

/-- A text in one span, which reaches over all of it, behind some spaces. -/
theorem segments_indent {cs : List Char} (full : cs ≠ []) (n : Nat) :
    (indent n ⟨cs, [⟨0, cs.length, none⟩]⟩).segments
      = .ok (if n = 0 then [cs] else [spaces n, cs]) := by
  obtain ⟨c, rest, rfl⟩ := List.exists_cons_of_ne_nil full
  have sound : (indent n ⟨c :: rest, [⟨0, (c :: rest).length, none⟩]⟩).IsSound := by
    simp [IsSound, indent]
  let places := [0 + n, rest.length + 1 + n]
  have cut : segmentsFrom places 0 [] (spaces n ++ c :: rest)
      = if n = 0 then [c :: rest] else [spaces n, c :: rest] := by
    have behind : segmentsFrom places (n + 1) [c] rest = [c :: rest] := by
      apply segmentsFrom_last
      simp only [places, List.mem_cons, List.not_mem_nil, or_false]
      omega
    cases n with
    | zero => exact (segmentsFrom_first places 0 c rest).trans behind
    | succ n =>
      have step : spaces (n + 1) = ' ' :: spaces n := List.replicate_succ
      have uncut : ∀ p ∈ places, p < 1 ∨ 1 + (spaces n).length ≤ p := by
        simp only [places, spaces, List.length_replicate, List.mem_cons, List.not_mem_nil, or_false]
        omega
      have border : 1 + (spaces n).length ∈ places := by
        simp [places, spaces, Nat.add_comm]
      rw [step, List.cons_append, segmentsFrom_first, Nat.zero_add, segmentsFrom_uncut uncut,
        segmentsFrom_cut border (by simp)]
      rw [spaces, List.length_replicate, Nat.add_comm 1 n, behind]
      simp
  exact sound.segments.trans (congrArg Except.ok cut)

end Marked

/-! ### Layout -/

/-- A text of one line that nothing is cut off from. -/
structure IsLine (cs : List Char) : Prop where
  unbroken : ∀ c ∈ cs, isLineBreak c = false
  untabbed : '\t' ∉ cs
  solid : ∀ c ∈ cs.getLast?, Text.isBlank c = false

theorem IsLine.of_check {cs : List Char} (unbroken : cs.any isLineBreak = false)
    (untabbed : cs.contains '\t' = false) (solid : cs.getLast?.any Text.isBlank = false) :
    IsLine cs where
  unbroken := by simpa using unbroken
  untabbed := by simpa using untabbed
  solid := by
    intro c last
    rwa [Option.mem_def.mp last] at solid

private theorem Marked.placesOf_eq_nil {c : Char} {cs : List Char} (absent : c ∉ cs) (place : Nat) :
    placesOf c place cs = [] := by
  induction cs generalizing place with
  | nil => rfl
  | cons d rest ih =>
    simp only [List.mem_cons, not_or] at absent
    simp [placesOf, Ne.symm absent.1, ih absent.2]

private theorem Marked.withChars_self (t : Marked) : t.withChars t.chars = t := by
  simp [withChars]

section

variable {t : Marked} {total : Nat} (line : IsLine t.chars) (fits : width t.chars ≤ total)

include line

theorem Marked.lines_of_line : t.lines = [t] := by
  have single : '\n' ∉ t.chars := by
    intro member
    cases line.unbroken _ member
  simp [lines, placesOf_eq_nil single]

theorem Marked.trimEnd_of_line : t.trimEnd = t := by
  rw [trimEnd, BucketStore.Text.trimEnd_of_last line.solid, withChars_self]

theorem dropExcess_of_line (total : Nat) : dropExcess total t = t := by
  simp [dropExcess, BucketStore.Text.trimEnd_of_last line.solid, Marked.withChars_self]

include fits

omit line in
theorem truncate_of_fits (overflow : Overflow) : truncate overflow total t = t :=
  if_pos fits

private theorem Layout.line_of_fits (layout : Layout) : layout.line total t
    = [truncate layout.overflow total (align layout.alignment layout.overflow total t)] := by
  have unbroken : layout.break total t = [t] := by
    have whole : breaksFrom layout.overflow total 0 0 (textWords t.chars) = [] :=
      breaksFrom_eq_nil layout.overflow (by omega) 0 _
    simp [Layout.break, whole, Marked.divide, dropExcess_of_line line]
  have untabbed : t.chars.contains '\t' = false := by
    simpa using line.untabbed
  rw [Layout.line, untabbed]
  simp [unbroken]

end

namespace Table

/-- What a layout makes of a text in one line is a cell of one line. -/
theorem cellLines_eq {column : Column} {t : Marked} {size : Nat} (wide : 0 < size)
    {line : List (List Char)}
    (laid : Layout.lines ⟨column.alignment, .ellipsis, column.wraps⟩ size t = .ok [line])
    (displays : Displays t.chars size line) :
    ∃ l, cellLines column (size + 2) t = .ok [l] ∧ Displays t.chars (size + 2) l := by
  refine ⟨padLine (size + 2) line, ?_, displays.padLine⟩
  rw [cellLines, if_neg (by omega), Nat.add_sub_cancel]
  simp only [Result.bind_of_ok laid]
  rw [List.map_singleton, fitLine_of_eq displays.padLine.size]
  rfl

variable {t : Marked} {size : Nat}

/-- The one line of a text that fits. -/
theorem lines_of_fits (line : IsLine t.chars) (fits : width t.chars ≤ size) (layout : Layout)
    {segments : List (List Char)} (shown : (truncate layout.overflow size
      (align layout.alignment layout.overflow size t)).segments = .ok segments) :
    layout.lines size t = .ok [segments] := by
  rw [Layout.lines, Marked.lines_of_line line, List.flatMap_singleton,
    Layout.line_of_fits line fits, List.mapM_cons, shown]
  rfl

/-- A text in one span that fits stands at the right of its cell. -/
theorem cellLines_right {column : Column} (aligned : column.alignment = .right)
    (line : IsLine t.chars) (fits : width t.chars ≤ size)
    (span : t.spans = [⟨0, t.chars.length, none⟩]) {c : Char} {rest : List Char}
    (begins : t.chars = c :: rest) (upright : IsUpright c) :
    ∃ l, cellLines column (size + 2) t = .ok [l] ∧ Displays t.chars (size + 2) l := by
  have full : t.chars ≠ [] := begins ▸ List.cons_ne_nil c rest
  let n := size - width t.chars
  have wide : width (spaces n ++ t.chars) = size := by
    have sum := widthBehind_spaces_append none n upright rest
    rw [← begins] at sum
    rw [width, sum]
    omega
  have placed : truncate .ellipsis size (align column.alignment .ellipsis size t) = t.indent n := by
    rw [aligned, align, Marked.trimEnd_of_line line, truncate_of_fits fits]
    exact truncate_of_fits (t := t.indent n) (Nat.le_of_eq wide) .ellipsis
  have shown : (t.indent n).segments
      = .ok (if n = 0 then [t.chars] else [spaces n, t.chars]) := by
    have segments := Marked.segments_indent full n
    rwa [← span] at segments
  refine cellLines_eq ?_ (lines_of_fits line fits _ (placed ▸ shown)) ⟨⟨n, 0, ?_⟩, ?_⟩
  · have positive := width_upright_pos upright rest
    rw [← begins] at positive
    omega
  · split <;> simp_all [spaces]
  · split
    · rw [lineWidth_single]
      omega
    · rw [lineWidth_cons, lineWidth_single, width_spaces]
      omega

/-- A text without spans that fits stands at the left of its cell. -/
theorem cellLines_left {column : Column} (aligned : column.alignment = .left)
    (line : IsLine t.chars) (fits : width t.chars ≤ size) (unspanned : t.spans = [])
    (unjoined : t.chars.getLast? ≠ some joiner) {c : Char} {rest : List Char}
    (begins : t.chars = c :: rest) (upright : IsUpright c) :
    ∃ l, cellLines column (size + 2) t = .ok [l] ∧ Displays t.chars (size + 2) l := by
  let n := size - width t.chars
  have wide : width (t.chars ++ spaces n) = size := by
    rw [width, widthBehind_append_spaces unjoined, ← width]
    omega
  have placed : truncate .ellipsis size (align column.alignment .ellipsis size t) = t.extend n := by
    rw [aligned, align, truncate_of_fits fits]
    exact truncate_of_fits (t := t.extend n) (Nat.le_of_eq wide) .ellipsis
  have shown : (t.extend n).segments = .ok [t.chars ++ spaces n] := by
    have extended : t.extend n = ⟨t.chars ++ spaces n, []⟩ := by rw [Marked.extend, unspanned]
    have sound : (⟨t.chars ++ spaces n, []⟩ : Marked).IsSound := by simp [Marked.IsSound]
    rw [extended, sound.segments, begins, List.cons_append, List.flatMap_nil,
      Marked.segmentsFrom_first, Marked.segmentsFrom_last (by simp)]
  have width : lineWidth [t.chars ++ spaces n] = size := wide
  refine cellLines_eq ?_ (lines_of_fits line fits _ (placed ▸ shown)) ⟨⟨0, n, ?_⟩, width⟩
  · have positive := width_upright_pos upright rest
    rw [← begins] at positive
    omega
  · simp [spaces]

/-! ### Rows -/

/-- A row of two cells of one line each. -/
theorem textRow_pair {first last : Column} {cells cells' : List Marked} {m m' : Marked}
    {size size' i : Nat} {l l' : List (List Char)} (here : cells[i]? = some m)
    (here' : cells'[i]? = some m') (made : cellLines first size m = .ok [l])
    (made' : cellLines last size' m' = .ok [l']) :
    textRow false [size, size'] [(first, cells), (last, cells')] i
      = .ok [[['│']] ++ l ++ [['│']] ++ l' ++ [['│']]] := by
  have cells : ([size, size'].zip [(first, cells), (last, cells')]).mapM (rowCell i)
      = .ok [(size, [l]), (size', [l'])] := by
    simp only [List.zip_cons_cons, List.zip_nil_right, List.mapM_cons, List.mapM_nil, rowCell, here,
      here', Option.getD_some, made, made']
    rfl
  rw [textRow_eq, Result.bind_of_ok cells]
  simp [rowLines, setHeight, List.intercalate]
  rfl

end Table

/-! ### Columns -/

theorem widest_of_line {cs : List Char} (line : IsLine cs) : widest cs = width cs := by
  have single : cs.splitOnP isLineBreak = [cs] := List.splitOnP_eq_singleton line.unbroken
  simp [widest, single]

private theorem le_foldl_max {n start : Nat} {sizes : List Nat} (found : n ≤ start ∨ n ∈ sizes) :
    n ≤ sizes.foldl max start := by
  induction sizes generalizing start with
  | nil => simpa using found
  | cons size rest ih =>
    rw [List.foldl_cons]
    apply ih
    rcases found with less | member
    · exact .inl (Nat.le_trans less (Nat.le_max_left ..))
    · rcases List.mem_cons.mp member with rfl | later
      · exact .inl (Nat.le_max_right ..)
      · exact .inr later

private theorem Table.width_le_wantedWidth {cells : List Marked} {t : Marked} (member : t ∈ cells)
    (line : IsLine t.chars) : width t.chars + 2 ≤ wantedWidth cells := by
  have found : widest t.chars ∈ cells.map fun t => widest t.chars := List.mem_map_of_mem member
  rw [widest_of_line line] at found
  exact Nat.add_le_add_right (le_foldl_max (.inr found)) 2

/-- Two columns get what they want if there is room for it. -/
theorem columnWidths_pair {total size size' : Nat} (wraps wraps' : Bool)
    (positive : 0 < size ∧ 0 < size') (room : size + size' ≤ total) :
    columnWidths total [(wraps, size), (wraps', size')] = [size, size'] := by
  have first : max 1 (min total size) = size := by omega
  have last : max 1 (min total size') = size' := by omega
  have fits : totalWidth [size, size'] ≤ total := by
    simpa [totalWidth] using room
  simp [columnWidths, first, last, fits]

/-! ### Tables -/

/-- The lines of a printed table, each ended, show two texts side by side: each stands in a cell of
its own, and there are only blanks around it. -/
def ShowsPair (label value : List Char) (text : String) : Prop :=
  ∃ a b c d, '│' :: spaces a ++ label ++ spaces b ++ '│' :: spaces c ++ value ++ spaces d
    ++ ['│', '\n'] <:+: text.toList

private theorem showsPair_of_mem {label value : List Char} {size size' : Nat}
    {l l' : List (List Char)} (first : Displays label size l) (last : Displays value size' l')
    {lines : List (List (List Char))}
    (member : [['│']] ++ l ++ [['│']] ++ l' ++ [['│']] ∈ lines) :
    ShowsPair label value (ofLines lines) := by
  obtain ⟨⟨a, b, text⟩, -⟩ := first
  obtain ⟨⟨c, d, text'⟩, -⟩ := last
  obtain ⟨above, below, rfl⟩ := List.append_of_mem member
  refine ⟨a, b, c, d, above.flatMap (fun line => line.flatten ++ ['\n']),
    below.flatMap (fun line => line.flatten ++ ['\n']), ?_⟩
  simp [ofLines, text, text']

namespace Table

variable {t : Table} {first last : Column} {label value : String} {m m' : Marked}

/-- The texts of a column, if it is read. -/
theorem column_cells {column : Column} {i : Nat} {rows : List (List String)}
    {y : Column × List Marked} (read : (do
      let cells ← (column.header :: rows.map fun row => (row[i]?).getD "").mapM shownText
      return (column, cells) : Except Problem (Column × List Marked)) = .ok y) :
    ∃ cells, y = (column, cells) ∧ ∀ (j : Nat) (row : List String) (s : String),
      rows[j]? = some row → row[i]? = some s →
        ∃ m, cells[j + 1]? = some m ∧ shownText s = .ok m := by
  obtain ⟨cells, made, ended⟩ := Result.bind_eq_ok read
  cases ended
  refine ⟨cells, rfl, fun j row s there cell => ?_⟩
  have found : (column.header :: rows.map fun row => (row[i]?).getD "")[j + 1]? = some s := by
    rw [List.getElem?_cons_succ, List.getElem?_map, there, Option.map_some, cell]
    rfl
  exact Result.mapM_getElem? made found

/-- The columns of a table with two of them. -/
theorem texts_pair {columns : List (Column × List Marked)} (pair : t.columns = [first, last])
    (read : t.texts = .ok columns) :
    ∃ cells cells', columns = [(first, cells), (last, cells')] ∧
      ∀ (i : Nat) (label value : String), t.rows[i]? = some [label, value] →
        (∃ m, cells[i + 1]? = some m ∧ shownText label = .ok m) ∧
        ∃ m', cells'[i + 1]? = some m' ∧ shownText value = .ok m' := by
  rw [texts, pair, List.zipIdx_cons, List.zipIdx_cons, List.zipIdx_nil, List.mapM_cons,
    List.mapM_cons, List.mapM_nil] at read
  obtain ⟨y, made, read⟩ := Result.bind_eq_ok read
  obtain ⟨ys, read, ended⟩ := Result.bind_eq_ok read
  obtain ⟨y', made', read⟩ := Result.bind_eq_ok read
  cases read
  cases ended
  obtain ⟨cells, rfl, shown⟩ := column_cells made
  obtain ⟨cells', rfl, shown'⟩ := column_cells made'
  exact ⟨cells, cells', rfl, fun i label value there =>
    ⟨shown i _ label there rfl, shown' i _ value there rfl⟩⟩

/-- The rows of a body are among its lines. -/
theorem mem_bodyLines {widths : List Nat} {columns : List (Column × List Marked)}
    {rowCount i : Nat} {body : List (List (List Char))} {line : List (List Char)}
    (made : bodyLines widths columns rowCount = .ok body) (inside : i < rowCount)
    (row : textRow false widths columns (i + 1) = .ok [line]) : line ∈ body := by
  obtain ⟨header, -, made⟩ := Result.bind_eq_ok made
  obtain ⟨rows, each, ended⟩ := Result.bind_eq_ok made
  cases ended
  have at_ : (List.range rowCount)[i]? = some i := by simp [inside]
  obtain ⟨lines, there, same⟩ := Result.mapM_getElem? each at_
  cases row.symm.trans same
  have member : line ∈ rows.flatten :=
    List.mem_flatten.mpr ⟨_, List.mem_of_getElem? there, List.mem_singleton_self line⟩
  simp [member]

/-- The cells that a column of texts wants beside the blanks. -/
theorem exists_wantedWidth {cells : List Marked} {m : Marked} (member : m ∈ cells)
    (line : IsLine m.chars) : ∃ size, wantedWidth cells = size + 2 ∧ width m.chars ≤ size := by
  refine ⟨wantedWidth cells - 2, ?_, ?_⟩
  · exact (Nat.sub_add_cancel (Nat.le_add_left 2 _)).symm
  · exact Nat.le_sub_of_add_le (width_le_wantedWidth member line)

/-- The lines of a table that is no wider than its screen, out of its body. -/
theorem mem_lines_pair {columns : List (Column × List Marked)} {total size size' : Nat}
    {lines : List (List (List Char))} {line : List (List Char)} (pair : t.columns = [first, last])
    (read : t.texts = .ok columns)
    (wanted : columns.map (fun column => (column.1.wraps, wantedWidth column.2))
      = [(first.wraps, size), (last.wraps, size')]) (wide : 2 ≤ size ∧ 2 ≤ size')
    (room : size + size' + 3 ≤ total) (laid : t.lines total = .ok lines)
    (fits : lineWidth line ≤ total)
    (shown : ∀ body, bodyLines [size, size'] columns t.rows.length = .ok body → line ∈ body) :
    line ∈ lines := by
  have frame : t.frameWidth = 3 := by rw [frameWidth, pair]; rfl
  have roomy : ¬total - 3 < 3 := by omega
  have widths : columnWidths (total - 3) [(first.wraps, size), (last.wraps, size')]
      = [size, size'] := columnWidths_pair _ _ (by omega) (by omega)
  unfold Table.lines at laid
  rw [if_neg (by omega)] at laid
  simp only [frame, if_neg roomy] at laid
  rw [Result.bind_of_ok read] at laid
  simp only [wanted, widths] at laid
  obtain ⟨title, -, laid⟩ := Result.bind_eq_ok laid
  obtain ⟨body, made, laid⟩ := Result.bind_eq_ok laid
  obtain ⟨caption, -, laid⟩ := Result.bind_eq_ok laid
  cases laid
  have member : line ∈ title ++ body ++ caption := by
    simp [shown body made]
  rw [← limitLine_of_le fits]
  exact List.mem_map_of_mem member

/-- A text without spans at the left, and one in a single span at the right, are shown side by side
on every screen that is wide enough. -/
theorem IsLegible.print_pair (legible : t.IsLegible) (pair : t.columns = [first, last])
    (aligned : first.alignment = .left) (aligned' : last.alignment = .right) {i : Nat}
    {label value : String} (there : t.rows[i]? = some [label, value]) {c c' : Char}
    {rest rest' : List Char} (read : shownText label = .ok ⟨c :: rest, []⟩)
    (read' : shownText value = .ok ⟨c' :: rest', [⟨0, (c' :: rest').length, none⟩]⟩)
    (line : IsLine (c :: rest)) (line' : IsLine (c' :: rest'))
    (unjoined : (c :: rest).getLast? ≠ some joiner) (upright : IsUpright c)
    (upright' : IsUpright c') :
    ∃ enough, ∀ total, enough ≤ total → ∃ text, t.print total = .ok text ∧
      ShowsPair (c :: rest) (c' :: rest') text := by
  obtain ⟨columns, found, -⟩ := legible.texts
  obtain ⟨cells, cells', rfl, shown⟩ := texts_pair pair found
  obtain ⟨⟨m, here, same⟩, m', here', same'⟩ := shown i label value there
  obtain rfl := Except.ok.inj (read.symm.trans same)
  obtain rfl := Except.ok.inj (read'.symm.trans same')
  obtain ⟨size, wanted, fits⟩ := exists_wantedWidth (List.mem_of_getElem? here) line
  obtain ⟨size', wanted', fits'⟩ := exists_wantedWidth (List.mem_of_getElem? here') line'
  obtain ⟨l, made, displays⟩ := cellLines_left aligned line fits rfl unjoined rfl upright
  obtain ⟨l', made', displays'⟩ := cellLines_right aligned' line' fits' rfl rfl upright'
  -- The lines of the frame may take two cells each.
  refine ⟨size + 2 + (size' + 2) + 6, fun total room => ?_⟩
  obtain ⟨lines, laid⟩ := legible.lines total
  refine ⟨ofLines lines, by rw [Table.print, laid]; rfl, ?_⟩
  have roomy : size + 2 + (size' + 2) + 3 ≤ total := by omega
  refine showsPair_of_mem displays displays' (mem_lines_pair pair found ?_ ?_ roomy laid ?_ ?_)
  · simp only [List.map_cons, List.map_nil, wanted, wanted']
  · omega
  · have border : lineWidth [['│']] ≤ 2 := by
      rw [lineWidth_single]
      exact width_single_le_two (by decide) (by decide)
    simp only [lineWidth_append, displays.size, displays'.size]
    omega
  · intro body built
    have inside : i < t.rows.length := (List.getElem?_eq_some_iff.mp there).1
    exact mem_bodyLines built inside (textRow_pair here here' made made')

end Table

end BucketStore.Console
