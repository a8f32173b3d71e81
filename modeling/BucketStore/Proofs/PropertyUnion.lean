import BucketStore.Proofs.PropertyLines
import BucketStore.Proofs.Utf8

/-!
Two properties texts, one behind the other, say what the second says, and else what the first says,
as long as the first ends in the section that is read and the second sets no defaults.
-/

namespace BucketStore.Properties

/-! ### Lines of two texts -/

private theorem readings_nil : readings [] = [] := rfl

private theorem readings_of_unified {cs as bs : List Char}
    (unified : Text.unifyBreaks cs = Text.unifyBreaks as ++ '\n' :: Text.unifyBreaks bs) :
    readings cs = readings as ++ readings bs := by
  simp only [readings, ← Text.splitOn_unifyBreaks, unified, List.splitOn_append_cons_self,
    List.filterMap_append]

private theorem readings_pair (as bs : List Char) :
    readings (as ++ '\r' :: '\n' :: bs) = readings as ++ readings bs := by
  apply readings_of_unified
  rw [Text.unifyBreaks_append (.inr (by simp)), Text.unifyBreaks]

private theorem readings_feed_cons (bs : List Char) : readings ('\n' :: bs) = readings bs := by
  have blank : reading? [] = none := rfl
  rw [readings, Text.textLines.eq_3 _ _ (by simp), if_pos (by rfl), List.filterMap_cons, blank,
    readings]

private theorem readings_return (as bs : List Char) :
    readings (as ++ '\r' :: bs) = readings as ++ readings bs := by
  by_cases feed : ∃ rest, bs = '\n' :: rest
  · obtain ⟨rest, rfl⟩ := feed
    rw [readings_pair, readings_feed_cons]
  · have single : ∀ rest, '\r' = '\r' → bs = '\n' :: rest → False :=
      fun rest _ shape => feed ⟨rest, shape⟩
    apply readings_of_unified
    rw [Text.unifyBreaks_append (.inr (by simp)), Text.unifyBreaks.eq_3 _ _ single]
    rfl

/-- A line feed may complete a pair with the character before it; then the first text only loses
an empty line. -/
theorem readings_feed (as bs : List Char) :
    readings (as ++ '\n' :: bs) = readings as ++ readings bs := by
  by_cases last : as.getLast? = some '\r'
  · obtain ⟨front, rfl⟩ := List.getLast?_eq_some_iff.mp last
    rw [List.append_assoc, List.singleton_append, readings_pair, readings_return, readings_nil,
      List.append_nil]
  · apply readings_of_unified
    rw [Text.unifyBreaks_append (.inl last), Text.unifyBreaks.eq_3 _ _ (by simp)]
    rfl

/-- Two texts with a line break between them say what each of them says. -/
theorem readings_append {lineBreak : String} (ends : lineBreak ∈ ["\n", "\r\n", "\r"])
    (a b : String) :
    readings (a ++ lineBreak ++ b).toList = readings a.toList ++ readings b.toList := by
  simp only [List.mem_cons, List.not_mem_nil, or_false] at ends
  rw [String.toList_append, String.toList_append, List.append_assoc]
  rcases ends with rfl | rfl | rfl
  · exact readings_feed a.toList b.toList
  · exact readings_pair a.toList b.toList
  · exact readings_return a.toList b.toList

/-! ### Entries of two texts -/

/-- The title of a line in brackets. -/
def Line.title? : Line → Option String
  | .section title => some title
  | _ => none

/-- The titles of a text, in order. -/
def titles (text : String) : List String :=
  (readings text.toList).filterMap Line.title?

/-- The section in which a text ends is that of its last title. -/
theorem foldl_take_current (lines : List Line) (p : Progress) :
    (lines.foldl Progress.take p).current
      = ((lines.filterMap Line.title?).getLast?.map Section.ofTitle).getD p.current := by
  induction lines generalizing p with
  | nil => rfl
  | cons line lines ih =>
    rw [List.foldl_cons, ih, List.filterMap_cons]
    cases line with
    | «section» title =>
      cases later : lines.filterMap Line.title? with
      | nil => rfl
      | cons next more =>
        simp [Line.title?, List.getLast?_eq_some_getLast]
    | comment => rfl
    | malformed => rfl
    | entry key value => cases home : p.current <;> simp [Progress.take, home, Line.title?]

/-- One text is read behind another, and read alone beside it: the same section is current, and
what both have read since then goes before what was there. -/
structure Continues (base behind alone : Progress) : Prop where
  current : behind.current = alone.current
  inside : alone.current ≠ .defaults
  main : ∀ key, behind.main.lookup key = (alone.main.lookup key).or (base.main.lookup key)
  untouched : behind.defaults = base.defaults
  none : alone.defaults = []

theorem Continues.take {base behind alone : Progress} (c : Continues base behind alone)
    {line : Line} (plain : line.title? ≠ some "DEFAULT") :
    Continues base (behind.take line) (alone.take line) := by
  cases line with
  | comment => exact c
  | malformed => exact ⟨c.current, c.inside, c.main, c.untouched, c.none⟩
  | «section» title =>
    have other : title ≠ "DEFAULT" := fun same => plain (congrArg some same)
    refine ⟨rfl, ?_, c.main, c.untouched, c.none⟩
    change Section.ofTitle title ≠ .defaults
    rw [Section.ofTitle]
    split
    · simp
    · simp [other]
  | entry key value =>
    have current := c.current
    cases home : alone.current with
    | defaults => exact absurd home c.inside
    | ignored =>
      rw [home] at current
      simp only [Progress.take, home, current]
      exact c
    | main =>
      rw [home] at current
      simp only [Progress.take, home, current]
      refine ⟨rfl, by simp, fun other => ?_, c.untouched, c.none⟩
      simp only [lookup_putEntry, c.main]
      split <;> rfl

theorem Continues.foldl {base behind alone : Progress} (c : Continues base behind alone)
    {lines : List Line} (plain : ∀ line ∈ lines, line.title? ≠ some "DEFAULT") :
    Continues base (lines.foldl Progress.take behind) (lines.foldl Progress.take alone) := by
  induction lines generalizing behind alone with
  | nil => exact c
  | cons line lines ih =>
    exact ih (c.take (plain line List.mem_cons_self))
      fun other among => plain other (List.mem_cons_of_mem line among)

theorem lookup_filter {test : String × String → Bool} {key : String} {found : Entries}
    (kept : ∀ value, test (key, value) = true) :
    (found.filter test).lookup key = found.lookup key := by
  induction found with
  | nil => rfl
  | cons entry rest ih =>
    rcases entry with ⟨other, value⟩
    by_cases same : other = key
    · rw [same, List.filter_cons_of_pos (kept value), List.lookup_cons_self, List.lookup_cons_self]
    · rw [lookup_cons_of_ne same, ← ih, List.filter_cons]
      split
      · exact lookup_cons_of_ne same value _
      · rfl

/-- The entries read so far: those of the main section, and defaults for other keys. -/
def Progress.entries (p : Progress) : Entries :=
  p.main ++ p.defaults.filter fun entry => !p.main.any (·.1 == entry.1)

private theorem Progress.lookup_entries (p : Progress) (key : String) :
    p.entries.lookup key = (p.main.lookup key).or (p.defaults.lookup key) := by
  rw [entries, List.lookup_append]
  cases main : p.main.lookup key with
  | some value => rfl
  | none =>
    rw [Option.none_or, Option.none_or]
    apply lookup_filter
    intro value
    simp only [Bool.not_eq_true', List.any_eq_false, beq_iff_eq]
    intro entry among same
    have apart := List.lookup_eq_none_iff.mp main entry among
    simp [same] at apart

private theorem malformed_not_mem {text : List Char}
    (keyed : ∀ line ∈ Text.textLines text, isKeyless line = false) :
    .malformed ∉ readings text := by
  rw [← List.contains_iff_mem, contains_malformed_readings]
  simpa using keyed

private theorem load_of_readings {text : String} (sound : .malformed ∉ readings text.toList) :
    load (.content (Text.encodeUtf8 text))
      = .ok ((readings text.toList).foldl Progress.take {}).entries := by
  rw [← List.contains_iff_mem, contains_malformed_readings] at sound
  simp only [load, Text.decodeUtf8_encodeUtf8, parse?_eq, if_neg sound]
  rfl

/-- Two texts, one behind the other, say what the second says, and else what the first says. -/
theorem load_append {a b lineBreak : String} (ends : lineBreak ∈ ["\n", "\r\n", "\r"])
    (keyedA : ∀ line ∈ Text.textLines a.toList, isKeyless line = false)
    (keyedB : ∀ line ∈ Text.textLines b.toList, isKeyless line = false)
    (home : ∀ title ∈ (titles a).getLast?, title = "db") (plain : "DEFAULT" ∉ titles b) :
    ∃ before after both, load (.content (Text.encodeUtf8 a)) = .ok before ∧
      load (.content (Text.encodeUtf8 b)) = .ok after ∧
      load (.content (Text.encodeUtf8 (a ++ lineBreak ++ b))) = .ok both ∧
      ∀ key, both.lookup key = (after.lookup key).or (before.lookup key) := by
  have soundA := malformed_not_mem keyedA
  have soundB := malformed_not_mem keyedB
  have sound : .malformed ∉ readings (a ++ lineBreak ++ b).toList := by
    rw [readings_append ends, List.mem_append]
    exact fun found => found.elim soundA soundB
  refine ⟨_, _, _, load_of_readings soundA, load_of_readings soundB, load_of_readings sound, ?_⟩
  rw [readings_append ends, List.foldl_append]
  have ended : ((readings a.toList).foldl Progress.take {}).current = .main := by
    rw [foldl_take_current]
    cases last : (titles a).getLast? with
    | none => rw [titles] at last; rw [last]; rfl
    | some title =>
      rw [home title last] at last
      rw [titles] at last
      rw [last]
      rfl
  generalize (readings a.toList).foldl Progress.take {} = base at ended
  have start : Continues base base {} :=
    ⟨ended, by simp, fun _ => rfl, rfl, rfl⟩
  have ran := start.foldl fun line (among : line ∈ readings b.toList) title =>
    plain (List.mem_filterMap.mpr ⟨line, among, title⟩)
  intro key
  rw [Progress.lookup_entries, Progress.lookup_entries, Progress.lookup_entries, ran.main,
    ran.untouched, ran.none, List.lookup_nil, Option.or_none, Option.or_assoc]

/-- A first text that comes back to its main section, and a second that leaves it. -/
theorem load_append_sections :
    ∃ before after both,
      load (.content (Text.encodeUtf8 "url=h\n[x]\nurl=i\n[db]")) = .ok before ∧
      load (.content (Text.encodeUtf8 "user u\r[y]\nurl=j")) = .ok after ∧
      load (.content (Text.encodeUtf8
        ("url=h\n[x]\nurl=i\n[db]" ++ "\r\n" ++ "user u\r[y]\nurl=j"))) = .ok both ∧
      ∀ key, both.lookup key = (after.lookup key).or (before.lookup key) :=
  load_append (by decide) (by decide) (by decide) (by decide) (by decide)

/-- A first text that ends in a section of its own takes the second text along: its entry is in
neither of the sections that are read. -/
theorem load_append_titled :
    (∀ line ∈ Text.textLines "[x]".toList, isKeyless line = false) ∧
      (∀ line ∈ Text.textLines "a=1".toList, isKeyless line = false) ∧
      load (.content (Text.encodeUtf8 "[x]")) = .ok [] ∧
      load (.content (Text.encodeUtf8 "a=1")) = .ok [("a", "1")] ∧
      load (.content (Text.encodeUtf8 ("[x]" ++ "\n" ++ "a=1"))) = .ok [] := by
  exact ⟨by decide, by decide, rfl, rfl, rfl⟩

end BucketStore.Properties
