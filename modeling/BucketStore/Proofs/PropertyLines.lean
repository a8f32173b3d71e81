import BucketStore.Configuration.Properties
import BucketStore.Entries
import BucketStore.Proofs.Trimming

/-!
How the text of a properties file falls into lines, and that what a line says does not depend on
the blanks that end it.
-/

namespace BucketStore

namespace Text

/-- Line breaks are unified piece by piece, unless a cut parts a pair of them. -/
theorem unifyBreaks_append {as bs : List Char}
    (whole : as.getLast? ≠ some '\r' ∨ bs.head? ≠ some '\n') :
    unifyBreaks (as ++ bs) = unifyBreaks as ++ unifyBreaks bs := by
  induction as using unifyBreaks.induct with
  | case1 => rfl
  | case2 rest ih =>
    have inner : rest.getLast? ≠ some '\r' ∨ bs.head? ≠ some '\n' := by
      refine whole.imp_left fun last found => last ?_
      rw [List.getLast?_cons_cons, List.getLast?_cons, found]
      rfl
    simp only [List.cons_append, unifyBreaks, ih inner]
  | case3 c rest single ih =>
    have inner : rest.getLast? ≠ some '\r' ∨ bs.head? ≠ some '\n' := by
      refine whole.imp_left fun last found => last ?_
      rw [List.getLast?_cons, found]
      rfl
    have apart : ∀ more, c = '\r' → rest ++ bs = '\n' :: more → False := by
      intro more isReturn isFeed
      cases rest with
      | nil =>
        rw [List.nil_append] at isFeed
        subst isReturn isFeed
        exact whole.elim (· rfl) (· rfl)
      | cons d rest =>
        exact single rest isReturn (congrArg (· :: rest) (List.cons.inj isFeed).1)
    rw [List.cons_append, unifyBreaks.eq_3 _ _ apart, unifyBreaks.eq_3 _ _ single, ih inner,
      List.cons_append]

/-- The lines of a text, without the breaks between them: a line feed, a carriage return, or the
pair of both. -/
def textLines : List Char → List (List Char)
  | [] => [[]]
  | '\r' :: '\n' :: rest => [] :: textLines rest
  | c :: rest =>
    if c == '\n' || c == '\r' then [] :: textLines rest
    else (textLines rest).modifyHead (c :: ·)

theorem splitOn_unifyBreaks (cs : List Char) : (unifyBreaks cs).splitOn '\n' = textLines cs := by
  induction cs using textLines.induct with
  | case1 => rfl
  | case2 rest ih => rw [unifyBreaks, List.splitOn_cons_eq_if_modifyHead, ih, textLines]; rfl
  | case3 c rest single ends ih =>
    have feed : (if c == '\r' then '\n' else c) = '\n' := by grind
    rw [unifyBreaks.eq_3 _ _ single, feed, List.splitOn_cons_eq_if_modifyHead, ih,
      textLines.eq_3 _ _ single, if_pos ends]
    rfl
  | case4 c rest single inside ih =>
    have kept : (if c == '\r' then '\n' else c) = c ∧ (c == '\n') = false := by grind
    rw [unifyBreaks.eq_3 _ _ single, kept.1, List.splitOn_cons_eq_if_modifyHead, ih, kept.2,
      textLines.eq_3 _ _ single, if_neg inside]
    rfl

section

variable {α : Type} {f : List Char → Option α}

private theorem reading_of_piece (ends : ∀ line, f (line ++ ['\n']) = f line)
    {line piece : List Char} (same : line = piece ∨ line = piece ++ ['\n']) : f line = f piece := by
  rcases same with rfl | rfl
  · rfl
  · exact ends piece

/-- Lines with their line feeds and lines without them begin alike, and go on with the same
readings, as far as a reading does not look at the line feed. -/
theorem splitLines_cons (ends : ∀ line, f (line ++ ['\n']) = f line) (empty : f [] = none)
    (c : Char) (cs : List Char) :
    ∃ line lines piece pieces, splitLines (c :: cs) = line :: lines ∧
      (c :: cs).splitOn '\n' = piece :: pieces ∧ (line = piece ∨ line = piece ++ ['\n']) ∧
      lines.filterMap f = pieces.filterMap f := by
  induction cs generalizing c with
  | nil =>
    by_cases feed : c = '\n'
    · subst feed
      exact ⟨_, _, _, _, rfl, rfl, .inr rfl, by simp [splitLines, empty]⟩
    · refine ⟨[c], [], [c], [], ?_, ?_, .inl rfl, rfl⟩
      · simp [splitLines, feed]
      · exact List.splitOn_eq_singleton (by simpa using Ne.symm feed)
  | cons d cs ih =>
    obtain ⟨line, lines, piece, pieces, cut, split, same, rest⟩ := ih d
    rw [splitLines, List.splitOn_cons_eq_if_modifyHead, cut, split]
    by_cases feed : c = '\n'
    · subst feed
      refine ⟨['\n'], line :: lines, [], piece :: pieces, rfl, rfl, .inr rfl, ?_⟩
      rw [List.filterMap_cons, List.filterMap_cons, reading_of_piece ends same, rest]
    · refine ⟨c :: line, lines, c :: piece, pieces, by simp [feed], by simp [feed], ?_, rest⟩
      exact same.imp (congrArg (c :: ·)) (congrArg (c :: ·))

/-- A reading that does not look at line feeds finds the same in either kind of lines. -/
theorem splitLines_filterMap (ends : ∀ line, f (line ++ ['\n']) = f line) (empty : f [] = none)
    (cs : List Char) : (splitLines cs).filterMap f = (cs.splitOn '\n').filterMap f := by
  cases cs with
  | nil => simp [splitLines, empty]
  | cons c cs =>
    obtain ⟨line, lines, piece, pieces, cut, split, same, rest⟩ := splitLines_cons ends empty c cs
    rw [cut, split, List.filterMap_cons, List.filterMap_cons, reading_of_piece ends same, rest]

end

end Text

namespace Properties

theorem isBlank_of_isSeparatorBlank {c : Char} (blank : isSeparatorBlank c = true) :
    Text.isBlank c = true := by
  simp only [isSeparatorBlank, Bool.or_eq_true, beq_iff_eq] at blank
  rcases blank with (rfl | rfl) | rfl <;> decide

theorem isKeyChar_iff {c : Char} :
    isKeyChar c = true ↔ Text.isBlank c = false ∧ isDelimiter c = false := by
  simp [isKeyChar]

theorem isKeyChar_of_isKeyStart {c : Char} (start : isKeyStart c = true) : isKeyChar c = true := by
  simp only [isKeyStart, Bool.and_eq_true] at start
  exact start.1.1

theorem sectionTitle?_of_ne {c : Char} {cs : List Char} (other : c ≠ '[') :
    sectionTitle? (c :: cs) = none := by
  unfold sectionTitle?
  split
  · rename_i shape
    exact absurd (List.cons.inj shape).1 other
  · rfl

private theorem not_isKeyChar_of_isBlank {c : Char} (blank : Text.isBlank c = true) :
    isKeyChar c = false := by
  simp [isKeyChar, blank]

/-- The parts of a line behind the first character of its key: the rest of the key, the blanks
behind it, and what follows them. -/
structure Parts (run gap rest : List Char) : Prop where
  keyed : ∀ c ∈ run, isKeyChar c
  blank : ∀ c ∈ gap, isSeparatorBlank c
  behind : ∀ c ∈ rest.head?, isSeparatorBlank c = false
  ends : gap = [] → ∀ c ∈ rest.head?, isKeyChar c = false

theorem exists_parts (cs : List Char) :
    ∃ run gap rest, cs = run ++ (gap ++ rest) ∧ Parts run gap rest := by
  refine ⟨cs.takeWhile isKeyChar, (cs.dropWhile isKeyChar).takeWhile isSeparatorBlank,
    (cs.dropWhile isKeyChar).dropWhile isSeparatorBlank, ?_, ?_⟩
  · rw [List.takeWhile_append_dropWhile, List.takeWhile_append_dropWhile]
  · refine ⟨fun _ => List.mem_takeWhile_imp, fun _ => List.mem_takeWhile_imp,
      fun _ => Text.head_dropWhile, fun none c first => ?_⟩
    have stays := List.takeWhile_append_dropWhile (p := isSeparatorBlank)
      (l := cs.dropWhile isKeyChar)
    rw [none, List.nil_append] at stays
    exact Text.head_dropWhile (stays ▸ first)

variable {c : Char} {run gap rest : List Char}

namespace Parts

theorem head_behind_key (parts : Parts run gap rest) :
    ∀ c ∈ (gap ++ rest).head?, isKeyChar c = false := by
  cases gap with
  | nil => exact parts.ends rfl
  | cons d gap =>
    intro c first
    cases first
    exact not_isKeyChar_of_isBlank (isBlank_of_isSeparatorBlank (parts.blank d List.mem_cons_self))

theorem takeWhile_key (parts : Parts run gap rest) :
    (run ++ (gap ++ rest)).takeWhile isKeyChar = run := by
  rw [List.takeWhile_append_of_pos parts.keyed, Text.takeWhile_of_head parts.head_behind_key,
    List.append_nil]

theorem dropWhile_key (parts : Parts run gap rest) :
    (run ++ (gap ++ rest)).dropWhile isKeyChar = gap ++ rest := by
  rw [List.dropWhile_append_of_pos parts.keyed, Text.dropWhile_of_head parts.head_behind_key]

private theorem dropWhile_gap (parts : Parts run gap rest) :
    (gap ++ rest).dropWhile isSeparatorBlank = rest := by
  rw [List.dropWhile_append_of_pos parts.blank, Text.dropWhile_of_head parts.behind]

end Parts

/-- Whether the blanks behind a key set off what follows them. -/
def setsOff (gap rest : List Char) : Bool :=
  !gap.isEmpty && !(rest.head?.any fun d => isDelimiter d || Text.isBlank d)

/-- The rewriting of a line by its parts: only what follows blanks directly is set off. -/
theorem markBlankSeparator_of_key (start : isKeyStart c = true) (parts : Parts run gap rest) :
    markBlankSeparator (c :: (run ++ (gap ++ rest))) =
      if setsOff gap rest then c :: run ++ '=' :: rest else c :: (run ++ (gap ++ rest)) := by
  simp only [setsOff, markBlankSeparator, start, parts.takeWhile_key, parts.dropWhile_key,
    parts.dropWhile_gap]
  cases gap with
  | nil => simp
  | cons d gap =>
    have longer : gap.length + rest.length + 1 ≠ rest.length := by omega
    simp [longer]

/-- Blanks at the end of a line are not read. -/
theorem Line.read_append_blank (line : List Char) {blanks : List Char}
    (blank : ∀ d ∈ blanks, Text.isBlank d) : Line.read (line ++ blanks) = Line.read line := by
  rw [Line.read, Text.trim_append_blank line blank, Line.read]

/-- A key and an equals sign without a value say what the key alone says. -/
theorem Line.read_bare (start : isKeyStart c = true) (keyed : ∀ d ∈ run, isKeyChar d) :
    Line.read (c :: run ++ ['=']) = Line.read (c :: run) := by
  have letters : ∀ d ∈ c :: run, isKeyChar d = true := by
    intro d found
    rcases List.mem_cons.mp found with rfl | found
    · exact isKeyChar_of_isKeyStart start
    · exact keyed d found
  have solid : ∀ d ∈ c :: run, Text.isBlank d = false :=
    fun d found => (isKeyChar_iff.mp (letters d found)).1
  have solidMarked : ∀ d ∈ c :: run ++ ['='], Text.isBlank d = false := by
    intro d found
    rcases List.mem_append.mp found with found | found
    · exact solid d found
    · rw [List.mem_singleton.mp found]
      decide
  have titled : sectionTitle? (c :: run ++ ['=']) = sectionTitle? (c :: run) := by
    by_cases bracket : c = '['
    · subst bracket
      simp [sectionTitle?]
    · rw [List.cons_append, sectionTitle?_of_ne bracket, sectionTitle?_of_ne bracket]
  have split : splitEntry (c :: run ++ ['=']) = splitEntry (c :: run) := by
    have plain : ∀ d ∈ c :: run, (!isDelimiter d) = true :=
      fun d found => by simp [(isKeyChar_iff.mp (letters d found)).2]
    have alone := List.takeWhile_eq_self_iff.mpr plain
    have behind := List.dropWhile_eq_nil_iff.mpr plain
    rw [splitEntry, List.takeWhile_append_of_pos plain, List.dropWhile_append_of_pos plain,
      splitEntry, alone, behind]
    simp [isDelimiter, Text.trim, Text.trimEnd]
  rw [Line.read, Text.trim_of_solid solidMarked, titled, split, Line.read,
    Text.trim_of_solid solid]
  rfl

/-- With nothing but blanks behind its key a line is read as the key alone, also where the blanks
become an equals sign. -/
theorem Line.read_key_blanks (start : isKeyStart c = true) (keyed : ∀ d ∈ run, isKeyChar d)
    {blanks : List Char} (blank : ∀ d ∈ blanks, Text.isBlank d) :
    Line.read (markBlankSeparator (c :: (run ++ blanks))) = Line.read (c :: run) := by
  have parts : Parts run (blanks.takeWhile isSeparatorBlank)
      (blanks.dropWhile isSeparatorBlank) := by
    refine ⟨keyed, fun _ => List.mem_takeWhile_imp, fun _ => Text.head_dropWhile, ?_⟩
    intro _ d first
    exact not_isKeyChar_of_isBlank
      (blank d ((List.dropWhile_suffix _).subset (List.mem_of_mem_head? first)))
  have marked := markBlankSeparator_of_key start parts
  rw [List.takeWhile_append_dropWhile] at marked
  rw [marked]
  split
  · rename_i set
    have none : blanks.dropWhile isSeparatorBlank = [] := by
      cases left : blanks.dropWhile isSeparatorBlank with
      | nil => rfl
      | cons d rest =>
        have among : d ∈ blanks := (List.dropWhile_suffix _).subset (left ▸ List.mem_cons_self)
        simp [setsOff, left, blank d among] at set
    rw [none, Line.read_bare start keyed]
  · exact Line.read_append_blank (c :: run) blank

/-- Blanks at the end of a line that does not start with one change nothing of what it says. -/
theorem Line.read_mark_append_blank (body : List Char) {blanks : List Char}
    (first : ∃ d ∈ body.head?, Text.isBlank d = false) (blank : ∀ d ∈ blanks, Text.isBlank d) :
    Line.read (markBlankSeparator (body ++ blanks)) = Line.read (markBlankSeparator body) := by
  obtain ⟨c, isFirst, -⟩ := first
  obtain ⟨cs, rfl⟩ : ∃ cs, body = c :: cs := List.head?_eq_some_iff.mp isFirst
  cases start : isKeyStart c with
  | false =>
    rw [List.cons_append]
    simp only [markBlankSeparator, start, Bool.false_eq_true, if_false]
    exact Line.read_append_blank (c :: cs) blank
  | true =>
    obtain ⟨run, gap, rest, rfl, parts⟩ := exists_parts cs
    cases rest with
    | nil =>
      have blankGap : ∀ d ∈ gap, Text.isBlank d :=
        fun d found => isBlank_of_isSeparatorBlank (parts.blank d found)
      have blankAll : ∀ d ∈ gap ++ blanks, Text.isBlank d := by
        intro d found
        exact (List.mem_append.mp found).elim (blankGap d) (blank d)
      rw [List.append_nil, List.cons_append, List.append_assoc,
        Line.read_key_blanks start parts.keyed blankAll,
        Line.read_key_blanks start parts.keyed blankGap]
    | cons d rest =>
      have longer : Parts run gap (d :: rest ++ blanks) :=
        ⟨parts.keyed, parts.blank, parts.behind, parts.ends⟩
      have marked : markBlankSeparator (c :: (run ++ (gap ++ d :: rest)) ++ blanks)
          = markBlankSeparator (c :: (run ++ (gap ++ d :: rest))) ++ blanks := by
        rw [List.cons_append, List.append_assoc, List.append_assoc,
          markBlankSeparator_of_key start longer, markBlankSeparator_of_key start parts]
        have alike : setsOff gap (d :: rest ++ blanks) = setsOff gap (d :: rest) := rfl
        rw [alike]
        cases setsOff gap (d :: rest) <;> simp
      rw [marked, Line.read_append_blank _ blank]

theorem head_markBlankSeparator (line : List Char) :
    (markBlankSeparator line).head? = line.head? := by
  unfold markBlankSeparator
  split
  · dsimp only
    split
    · split <;> rfl
    · rfl
  · rfl

/-- What a line says, if it is not blank. -/
def reading? (line : List Char) : Option Line :=
  let normal := normalizeLine line
  if normal.isEmpty then none else some (Line.read normal)

theorem reading?_of_blank {line : List Char} (blank : ∀ d ∈ line, Text.isBlank d) :
    reading? line = none := by
  have nothing : line.dropWhile Text.isBlank = [] := List.dropWhile_eq_nil_iff.mpr blank
  simp [reading?, normalizeLine, nothing, markBlankSeparator]

/-- A line with its leading blanks cut off is read by its first character. -/
theorem reading?_of_body {line rest : List Char}
    (body : line.dropWhile Text.isBlank = c :: rest) :
    reading? line = some (Line.read (markBlankSeparator (c :: rest))) := by
  have first := head_markBlankSeparator (c :: rest)
  rw [reading?, normalizeLine, body]
  cases normal : markBlankSeparator (c :: rest) with
  | nil =>
    rw [normal] at first
    cases first
  | cons d more => rfl

theorem reading?_append_blank (line : List Char) {blanks : List Char}
    (blank : ∀ d ∈ blanks, Text.isBlank d) : reading? (line ++ blanks) = reading? line := by
  cases body : line.dropWhile Text.isBlank with
  | nil =>
    have blankLine := List.dropWhile_eq_nil_iff.mp body
    rw [reading?_of_blank blankLine, reading?_of_blank]
    exact fun d found => (List.mem_append.mp found).elim (blankLine d) (blank d)
  | cons c rest =>
    have first : c ∈ (line.dropWhile Text.isBlank).head? := body ▸ rfl
    have solid := Text.head_dropWhile first
    have longer : (line ++ blanks).dropWhile Text.isBlank = c :: (rest ++ blanks) := by
      rw [List.dropWhile_append, body]
      rfl
    rw [reading?_of_body body, reading?_of_body longer]
    exact congrArg some (Line.read_mark_append_blank (c :: rest) ⟨c, rfl, solid⟩ blank)

/-- What the lines of a text say, without the blank ones. -/
def readings (text : List Char) : List Line :=
  (Text.textLines text).filterMap reading?

/-- The lines are read as they are without their line feeds. -/
theorem map_read_lines (text : List Char) : (lines text).map Line.read = readings text := by
  have ends : ∀ line, reading? (line ++ ['\n']) = reading? line :=
    fun line => reading?_append_blank line (List.forall_mem_singleton.mpr rfl)
  rw [readings, ← Text.splitOn_unifyBreaks, ← Text.splitLines_filterMap ends rfl, lines]
  induction Text.splitLines (Text.unifyBreaks text) with
  | nil => rfl
  | cons line rest ih =>
    rw [List.map_cons, List.filterMap_cons, reading?]
    cases normalizeLine line with
    | nil => exact ih
    | cons c more => exact congrArg _ ih

theorem Line.read_comment (solid : Text.isBlank c = false) (mark : (c == '#' || c == '!') = true) :
    Line.read (markBlankSeparator (c :: rest)) = .comment := by
  have noKey : isKeyStart c = false := by
    simp only [isKeyStart]
    grind
  rw [markBlankSeparator, noKey, if_neg Bool.false_ne_true, Line.read, Text.trim_cons solid]
  simp [mark]

/-- Whether a line has a delimiter where its key should start. -/
def isKeyless (line : List Char) : Bool :=
  (line.dropWhile Text.isBlank).head?.any isDelimiter

private theorem Line.read_malformed (solid : Text.isBlank c = false) :
    Line.read (c :: rest) = .malformed ↔ isDelimiter c = true := by
  rw [Line.read, Text.trim_cons solid]
  generalize Text.trimEnd Text.isBlank rest = more
  cases delimits : isDelimiter c with
  | true =>
    simp only [isDelimiter, Bool.or_eq_true, beq_iff_eq] at delimits
    rcases delimits with rfl | rfl <;>
      simp [sectionTitle?, splitEntry, isDelimiter, Text.trimEnd]
  | false =>
    have key : (splitEntry (c :: more)).1.isEmpty = false := by
      have kept := Text.trimEnd_append_cons [] (more.takeWhile (!isDelimiter ·)) solid
      simp only [List.nil_append] at kept
      simp [splitEntry, delimits, kept]
    simp only [Bool.false_eq_true, iff_false]
    split
    · simp
    · split <;> simp [key]

/-- A line is malformed where a delimiter stands in place of a key. -/
theorem reading?_malformed (line : List Char) :
    reading? line = some .malformed ↔ isKeyless line = true := by
  cases body : line.dropWhile Text.isBlank with
  | nil => simp [reading?_of_blank (List.dropWhile_eq_nil_iff.mp body), isKeyless, body]
  | cons c rest =>
    have first : c ∈ (line.dropWhile Text.isBlank).head? := body ▸ rfl
    obtain ⟨marked, shape⟩ := List.head?_eq_some_iff.mp (head_markBlankSeparator (c :: rest))
    rw [reading?_of_body body, shape, Option.some_inj,
      Line.read_malformed (Text.head_dropWhile first)]
    simp [isKeyless, body]

theorem contains_malformed_readings (text : List Char) :
    (readings text).contains .malformed = (Text.textLines text).any isKeyless := by
  rw [Bool.eq_iff_iff, List.contains_iff_mem, readings, List.mem_filterMap, List.any_eq_true]
  simp only [reading?_malformed]

private theorem take_failed (p : Progress) (line : Line) :
    (p.take line).failed = (p.failed || line == .malformed) := by
  cases line with
  | comment => simp [Progress.take]
  | «section» title => simp [Progress.take]
  | malformed => simp [Progress.take]
  | entry key value => cases home : p.current <;> simp [Progress.take, home]

private theorem foldl_take_failed (lines : List Line) (p : Progress) :
    (lines.foldl Progress.take p).failed = (p.failed || lines.contains .malformed) := by
  induction lines generalizing p with
  | nil => simp
  | cons line lines ih =>
    rw [List.foldl_cons, ih, take_failed, List.contains_cons, Bool.or_assoc, Bool.beq_comm]

/-- A text is refused if a line of it has no key; else its entries are those of its readings. -/
theorem parse?_eq (text : List Char) :
    parse? text = if (Text.textLines text).any isKeyless then none
      else
        let p := (readings text).foldl Progress.take {}
        some (p.main ++ p.defaults.filter fun entry => !p.main.any (·.1 == entry.1)) := by
  rw [parse?, map_read_lines]
  simp only [foldl_take_failed, contains_malformed_readings, Bool.false_or]

end Properties

end BucketStore
