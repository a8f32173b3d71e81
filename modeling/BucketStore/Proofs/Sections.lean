import BucketStore.Proofs.NormalizedLines
import BucketStore.Proofs.PropertyUnion

/-!
Properties files as sectioned files. No normalized line is blank or indented, so the general reader
goes on with no value, comes to the end of every text, and finds what is found line by line.
-/

namespace BucketStore

namespace Sections.Reader

open Properties (Line Progress)

private theorem valueText_singleton (value : List Char) :
    valueText (some [String.ofList value]) = String.ofList (Text.trimEnd Text.isBlank value) := by
  simp [valueText]

/-- Setting a key changes its own section, where it stays in its place. -/
theorem ofSection_putEntry (r : Reader) (other key : String) (value : Option (List String))
    (title : String) :
    ofSection { r with values := putEntry r.values (other, key) value } title
      = if other = title then putEntry (r.ofSection title) key (valueText value)
        else r.ofSection title := by
  have held : (r.ofSection other).any (·.1 = key) = r.values.any (·.1 = (other, key)) := by
    rw [ofSection, List.any_filterMap]
    congr 1
    funext ⟨⟨place, name⟩, lines⟩
    by_cases same : place = other <;> simp [same]
  by_cases same : other = title
  · subst same
    rw [if_pos rfl, putEntry, putEntry, held, ofSection, ofSection]
    split
    · rw [List.filterMap_map, List.map_filterMap]
      congr 1
      funext ⟨⟨place, name⟩, lines⟩
      by_cases here : place = other
      · by_cases named : name = key <;> simp [here, named]
      · simp [here]
    · simp [List.filterMap_append]
  · rw [if_neg same, ofSection, ofSection, putEntry]
    split
    · rw [List.filterMap_map]
      congr 1
      funext ⟨⟨place, name⟩, lines⟩
      by_cases here : place = other
      · by_cases named : name = key <;> simp [here, named, same]
      · simp [here]
    · simp [List.filterMap_append, same]

/-- The general reader has read what is read line by line, and has gone on with no value. -/
structure Follows (r : Reader) (p : Progress) : Prop where
  indent : r.indent = 0
  continued : r.continued = 0
  title : ∃ title, r.title = some title ∧ Properties.Section.ofTitle title = p.current
  failed : r.failed = p.failed
  main : p.failed = false → r.ofSection "db" = p.main
  defaults : p.failed = false → r.ofSection "DEFAULT" = p.defaults

/-- The value of an entry has no blanks at its end, and a line without a delimiter has none. -/
theorem valueText_splitEntry (line : List Char) :
    valueText (if line.any Properties.isDelimiter then
        some [String.ofList (Properties.splitEntry line).2] else none)
      = String.ofList (Properties.splitEntry line).2 := by
  cases delimited : line.any Properties.isDelimiter with
  | true =>
    rw [if_pos rfl, valueText_singleton, Properties.splitEntry, Text.trim, Text.trimEnd_trimEnd]
  | false =>
    have none : line.dropWhile (!Properties.isDelimiter ·) = [] := by
      rw [List.dropWhile_eq_nil_iff]
      intro c among
      simpa using List.any_eq_false.mp delimited c among
    rw [if_neg Bool.false_ne_true, Properties.splitEntry, none]
    rfl

/-- An entry goes to the section of the current title. -/
theorem take_entry {p : Progress} {title : String}
    (place : Properties.Section.ofTitle title = p.current) (key value : String) :
    let q := p.take (.entry key value)
    q.current = p.current ∧ q.failed = p.failed ∧
      q.main = (if title = "db" then putEntry p.main key value else p.main) ∧
      q.defaults = if title = "DEFAULT" then putEntry p.defaults key value
        else p.defaults := by
  obtain ⟨current, main, defaults, failed⟩ := p
  obtain rfl : Properties.Section.ofTitle title = current := place
  by_cases isMain : title = "db"
  · subst isMain
    exact ⟨rfl, rfl, rfl, rfl⟩
  · by_cases isDefault : title = "DEFAULT"
    · subst isDefault
      exact ⟨rfl, rfl, rfl, rfl⟩
    · simp [Properties.Section.ofTitle, Progress.take, isMain, isDefault]

/-- Both readers set a key, or find that it is missing. -/
theorem Follows.put {r : Reader} {p : Progress} (follows : Follows r p) {title : String}
    (titled : r.title = some title) (key : String) (value : Option (List String))
    (failed : Bool) :
    Follows
      { r with
        title := some title
        key := some key
        values := putEntry r.values (title, key) value
        failed := r.failed || failed }
      (p.take (if failed then .malformed else .entry key (valueText value))) := by
  obtain ⟨title', titled', place⟩ := follows.title
  obtain rfl := Option.some.inj (titled.symm.trans titled')
  cases failed with
  | true =>
    exact ⟨follows.indent, follows.continued, ⟨title, rfl, place⟩, by simp [Progress.take], nofun,
      nofun⟩
  | false =>
    obtain ⟨current, missing, main, defaults⟩ := take_entry place key (valueText value)
    have held := ofSection_putEntry r title key value
    rw [if_neg Bool.false_ne_true]
    refine ⟨follows.indent, follows.continued, ⟨title, rfl, place.trans current.symm⟩, ?_,
      fun sound => ?_, fun sound => ?_⟩
    · rw [missing, Bool.or_false, follows.failed]
    · rw [main, ← follows.main (missing ▸ sound)]
      exact held "db"
    · rw [defaults, ← follows.defaults (missing ▸ sound)]
      exact held "DEFAULT"

theorem Follows.start {r : Reader} {p : Progress} (follows : Follows r p) {c : Char}
    (rest : List Char) (solid : Text.isBlank c = false) (key : (c == '#' || c == '!') = false) :
    ∃ r', r.start (Text.trim Text.isBlank (c :: rest)) = .ok r' ∧
      Follows r' (p.take (Line.read (c :: rest))) := by
  obtain ⟨title, titled, place⟩ := follows.title
  have trimmed := Text.trim_cons solid rest
  rw [Line.read, Reader.start, trimmed]
  simp only [List.head?_cons, Option.any_some, key, Bool.false_eq_true, if_false, titled]
  generalize c :: Text.trimEnd Text.isBlank rest = line
  cases Properties.sectionTitle? line with
  | some header =>
    exact ⟨_, rfl, follows.indent, follows.continued, ⟨_, rfl, rfl⟩, follows.failed, follows.main,
      follows.defaults⟩
  | none =>
    refine ⟨_, rfl, ?_⟩
    have put := follows.put titled (String.ofList (Properties.splitEntry line).1)
      (if line.any Properties.isDelimiter then
        some [String.ofList (Properties.splitEntry line).2] else none)
      (Properties.splitEntry line).1.isEmpty
    rw [valueText_splitEntry] at put
    dsimp only
    cases keyless : (Properties.splitEntry line).1.isEmpty <;> rw [keyless] at put <;> exact put

/-- A line that starts with no blank is read alike. -/
theorem Follows.step {r : Reader} {p : Progress} (follows : Follows r p) {c : Char}
    (rest : List Char) (solid : Text.isBlank c = false) :
    ∃ r', r.step (c :: rest) = .ok r' ∧ Follows r' (p.take (Line.read (c :: rest))) := by
  have noIndent : (c :: rest).takeWhile Text.isBlank = [] :=
    List.takeWhile_cons_of_neg (by simp [solid])
  have trimmed := Text.trim_cons solid rest
  have level : { r with indent := 0 } = r := by
    rw [← follows.indent]
  rw [Reader.step, noIndent, trimmed]
  simp only [List.head?_cons, Option.any_some, List.isEmpty_cons, Bool.false_eq_true, if_false,
    List.length_nil, follows.indent, lt_irrefl, level]
  cases comment : c == '#' || c == '!' with
  | true =>
    refine ⟨r, rfl, ?_⟩
    rw [Line.read, trimmed]
    simp [comment, Progress.take, follows]
  | false =>
    obtain ⟨r', started, follows'⟩ := follows.start rest solid comment
    refine ⟨r', ?_, follows'⟩
    rw [← started, trimmed]
    cases r.open? <;> rfl

/-- All lines that start with no blank are read alike. -/
theorem Follows.foldlM {lines : List (List Char)}
    (solid : ∀ line ∈ lines, ∃ c rest, line = c :: rest ∧ Text.isBlank c = false) {r : Reader}
    {p : Progress} (follows : Follows r p) :
    ∃ r', lines.foldlM Reader.step r = .ok r' ∧
      Follows r' ((lines.map Line.read).foldl Progress.take p) := by
  induction lines generalizing r p with
  | nil => exact ⟨r, rfl, follows⟩
  | cons line lines ih =>
    obtain ⟨c, rest, rfl, first⟩ := solid line List.mem_cons_self
    obtain ⟨r₁, stepped, follows₁⟩ := follows.step rest first
    have later := fun l among => solid l (List.mem_cons_of_mem _ among)
    obtain ⟨r', ran, follows'⟩ := ih later follows₁
    refine ⟨r', ?_, follows'⟩
    rw [List.foldlM_cons, stepped]
    exact ran

/-- The title in front is that of the section that is read. -/
theorem step_title :
    ∃ r, Reader.step {} "[db]\n".toList = .ok r ∧ Follows r {} :=
  ⟨{ title := some "db" }, rfl, rfl, rfl, ⟨"db", rfl, rfl⟩, rfl, fun _ => rfl, fun _ => rfl⟩

theorem Follows.entries {r : Reader} {p : Progress} (follows : Follows r p)
    (sound : p.failed = false) : r.entries = p.entries := by
  rw [Reader.entries, follows.main sound, follows.defaults sound, Progress.entries]

end Sections.Reader

/-- Every properties text is read to its end as a sectioned one, no line goes on with a value, and
the entries are those that are found line by line. -/
theorem Sections.read_ofProperties (text : List Char) :
    ∃ r, Sections.read (Sections.ofProperties text) = .ok r ∧ r.continued = 0 ∧
      Properties.parse? text = if r.failed then none else some r.entries := by
  obtain ⟨r₀, titled, follows₀⟩ := Reader.step_title
  obtain ⟨r, ran, follows⟩ := follows₀.foldlM fun line => @Properties.head_lines text line
  refine ⟨r, ?_, follows.continued, ?_⟩
  · rw [Sections.read, Properties.splitLines_ofProperties, List.foldlM_cons, titled]
    exact ran
  · rw [Properties.parse?, follows.failed]
    cases failed : (((Properties.lines text).map Properties.Line.read).foldl
        Properties.Progress.take {}).failed with
    | true => rfl
    | false => rw [follows.entries failed]; rfl

/-- An indented line that is not normalized would go on with a value, and there may be none. -/
example : Sections.read "[db]\nkey\n  more".toList = .error .valueless := rfl

end BucketStore
