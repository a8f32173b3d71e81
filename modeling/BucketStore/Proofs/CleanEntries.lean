import BucketStore.Pool.Manager
import BucketStore.Proofs.PropertyGrammar
import BucketStore.Proofs.Sections

/-!
What is read of a properties file: whatever its bytes are, reading ends with entries, each key of
them could stand at the start of a line, and each value at the end of one.
-/

namespace BucketStore

namespace Properties

/-- A key with its value as they are found: the key is there and could stand at the start of a
line, before a delimiter, and the value at the end of one. -/
structure IsClean (entry : String × String) : Prop where
  named : entry.1 ≠ ""
  key_trimmed : Text.strip Text.isBlank entry.1 = entry.1
  undelimited : '=' ∉ entry.1.toList ∧ ':' ∉ entry.1.toList
  uncommented : entry.1.toList.head? ≠ some '#' ∧ entry.1.toList.head? ≠ some '!'
  value_trimmed : Text.strip Text.isBlank entry.2 = entry.2
  unbroken : '\n' ∉ entry.2.toList ∧ '\r' ∉ entry.2.toList

/-- What is read as an entry starts with its key. -/
theorem Line.read_eq_entry {line : List Char} {key value : String}
    (read : Line.read line = .entry key value) :
    ∃ c rest, Text.trim Text.isBlank line = c :: rest ∧ c ≠ '#' ∧ c ≠ '!' ∧
      splitEntry (c :: rest) = (key.toList, value.toList) ∧ key.toList ≠ [] := by
  rw [Line.read] at read
  dsimp only at read
  cases trimmed : Text.trim Text.isBlank line with
  | nil =>
    rw [trimmed] at read
    cases read
  | cons c rest =>
    rw [trimmed] at read
    split at read
    · cases read
    next plain =>
      split at read
      · cases read
      split at read
      · cases read
      next named =>
        obtain ⟨rfl, rfl⟩ := Line.entry.inj read
        simp only [List.head?_cons, Option.any_some, Bool.or_eq_true, beq_iff_eq, not_or] at plain
        exact ⟨c, rest, rfl, plain.1, plain.2, by simp, by simpa using named⟩

variable {c : Char} {rest : List Char}

private theorem splitEntry_key (solid : Text.isBlank c = false)
    (named : (splitEntry (c :: rest)).1 ≠ []) :
    ∃ more, (splitEntry (c :: rest)).1 = c :: Text.trimEnd Text.isBlank more ∧
      (∀ d ∈ c :: more, isDelimiter d = false) := by
  cases delimits : isDelimiter c with
  | true => simp [splitEntry, delimits, Text.trimEnd] at named
  | false =>
    refine ⟨rest.takeWhile (!isDelimiter ·), ?_, fun d found => ?_⟩
    · rw [splitEntry, List.takeWhile_cons_of_pos (by simp [delimits])]
      exact Text.trimEnd_append_cons [] _ solid
    · obtain rfl | among := List.mem_cons.mp found
      · exact delimits
      · simpa using List.mem_takeWhile_imp among

private theorem splitEntry_value_subset (line : List Char) : (splitEntry line).2 ⊆ line := by
  intro c found
  exact (List.dropWhile_suffix _).subset (List.mem_of_mem_drop (Text.trim_subset _ _ found))

/-- What a line without breaks says of a key is clean. -/
theorem Line.read_clean {line : List Char} (unbroken : '\n' ∉ line ∧ '\r' ∉ line)
    {key value : String} (read : Line.read line = .entry key value) : IsClean (key, value) := by
  obtain ⟨c, rest, trimmed, noHash, noBang, split, named⟩ := Line.read_eq_entry read
  have solid := Text.solid_of_trim trimmed
  have keyText : (splitEntry (c :: rest)).1 = key.toList := congrArg Prod.fst split
  have valueText : (splitEntry (c :: rest)).2 = value.toList := congrArg Prod.snd split
  obtain ⟨more, shape, letters⟩ := splitEntry_key solid (keyText ▸ named)
  have among : ∀ d ∈ key.toList, d ∈ c :: more := by
    rw [← keyText, shape]
    exact List.cons_subset_cons c (Text.prefix_trimEnd _ more).subset
  have inside : ∀ d ∈ value.toList, d ∈ line := by
    intro d found
    rw [← valueText] at found
    have found := splitEntry_value_subset _ found
    rw [← trimmed] at found
    exact Text.trim_subset _ _ found
  constructor
  · exact fun none => named (congrArg String.toList none)
  · rw [Text.strip, ← keyText, shape, Text.trim_cons solid, Text.trimEnd_trimEnd, ← shape, keyText,
      String.ofList_toList]
  · exact ⟨fun found => absurd (letters '=' (among _ found)) (by decide),
      fun found => absurd (letters ':' (among _ found)) (by decide)⟩
  · rw [← keyText, shape]
    simp [noHash, noBang]
  · rw [Text.strip, ← valueText, splitEntry, Text.trim_trim]
    exact (congrArg String.ofList valueText).trans String.ofList_toList
  · exact ⟨fun found => unbroken.1 (inside _ found), fun found => unbroken.2 (inside _ found)⟩

private theorem reading?_clean {text line : List Char} (among : line ∈ Text.textLines text)
    {key value : String} (read : reading? line = some (.entry key value)) :
    IsClean (key, value) := by
  rw [reading?] at read
  split at read
  · cases read
  have solid {c : Char} (found : c ∈ normalizeLine line) (other : c ≠ '=') : c ≠ '\n' ∧ c ≠ '\r' :=
    (mem_textLines among ((mem_normalizeLine found).resolve_right other)).2
  refine Line.read_clean ⟨fun found => ?_, fun found => ?_⟩ (Option.some.inj read)
  · exact (solid found (by decide)).1 rfl
  · exact (solid found (by decide)).2 rfl

/-- Clean entries, no key twice. -/
structure AllClean (entries : Entries) : Prop where
  apart : (entries.map Prod.fst).Nodup
  clean : ∀ entry ∈ entries, IsClean entry

theorem AllClean.put {found : Entries} (all : AllClean found) {key value : String}
    (clean : IsClean (key, value)) : AllClean (putEntry found key value) := by
  refine ⟨nodup_putEntry all.apart key value, fun entry among => ?_⟩
  obtain old | rfl := mem_putEntry among
  · exact all.clean entry old
  · exact clean

/-- What has been read so far is clean. -/
structure Progress.Clean (p : Progress) : Prop where
  main : AllClean p.main
  defaults : AllClean p.defaults

theorem Progress.Clean.take {p : Progress} (sound : p.Clean) {line : Line}
    (clean : ∀ key value, line = .entry key value → IsClean (key, value)) :
    (p.take line).Clean := by
  cases line with
  | comment => exact sound
  | «section» title => exact ⟨sound.main, sound.defaults⟩
  | malformed => exact ⟨sound.main, sound.defaults⟩
  | entry key value =>
    have clean := clean key value rfl
    rw [Progress.take]
    cases p.current with
    | main => exact ⟨sound.main.put clean, sound.defaults⟩
    | defaults => exact ⟨sound.main, sound.defaults.put clean⟩
    | ignored => exact sound

theorem Progress.Clean.foldl {lines : List Line}
    (clean : ∀ key value, .entry key value ∈ lines → IsClean (key, value)) {p : Progress}
    (sound : p.Clean) : (lines.foldl Progress.take p).Clean := by
  induction lines generalizing p with
  | nil => exact sound
  | cons line lines ih =>
    refine ih (fun key value among => clean key value (List.mem_cons_of_mem _ among)) ?_
    exact sound.take fun key value same => clean key value (same ▸ List.mem_cons_self)

theorem Progress.Clean.entries {p : Progress} (sound : p.Clean) : AllClean p.entries := by
  constructor
  · rw [Progress.entries, List.map_append, List.nodup_append]
    refine ⟨sound.main.apart, sound.defaults.apart.sublist (List.filter_sublist.map _), ?_⟩
    rintro key isMain other isDefault rfl
    obtain ⟨⟨_, value⟩, within, rfl⟩ := List.mem_map.mp isMain
    obtain ⟨entry, kept, same⟩ := List.mem_map.mp isDefault
    have fresh := (List.mem_filter.mp kept).2
    simp only [Bool.not_eq_true', List.any_eq_false, beq_iff_eq] at fresh
    exact fresh _ within same.symm
  · intro entry among
    obtain isMain | isDefault := List.mem_append.mp among
    · exact sound.main.clean entry isMain
    · exact sound.defaults.clean entry (List.mem_filter.mp isDefault).1

/-- The entries of a text are clean. -/
theorem getD_parse?_allClean (text : List Char) : AllClean ((parse? text).getD []) := by
  have clean : ∀ key value, .entry key value ∈ readings text → IsClean (key, value) := by
    intro key value among
    obtain ⟨line, within, read⟩ := List.mem_filterMap.mp among
    exact reading?_clean within read
  have none : AllClean [] := ⟨List.nodup_nil, nofun⟩
  rw [parse?_eq]
  split
  · exact none
  · have start : Progress.Clean {} := ⟨none, none⟩
    exact (start.foldl clean).entries

end Properties

/-- Bytes that cannot be read have no entries. -/
theorem Manager.readProperties_content {σ : Type} (path : String) (bytes : List UInt8)
    (w : World σ) :
    (Manager.readProperties path (.content bytes) w).1 = .ok (((Text.decodeUtf8 bytes).toOption.bind
      fun text => Properties.parse? text.toList).getD []) := by
  simp only [Manager.readProperties, Properties.load]
  cases Text.decodeUtf8 bytes with
  | error failure => rfl
  | ok text =>
    have whole : (Except.ok text : Except Text.Utf8Error String).toOption = some text := rfl
    rw [whole, Option.bind_some]
    dsimp only
    cases Properties.parse? text.toList <;> rfl

/-- A file of whatever bytes is read: its entries are clean, no key comes twice, and bytes that are
no text have none. A text is read to its end by the general reader too, where no line goes on with
a value, and its entries are those of that reader, or none if a line has no key. -/
theorem Manager.readProperties_clean {σ : Type} (path : String) (bytes : List UInt8)
    (w : World σ) :
    ∃ entries, (Manager.readProperties path (.content bytes) w).1 = .ok entries ∧
      (entries.map Prod.fst).Nodup ∧ (∀ entry ∈ entries, Properties.IsClean entry) ∧
      match Text.decodeUtf8 bytes with
      | .error _ => entries = []
      | .ok text =>
        ∃ r, Sections.read (Sections.ofProperties text.toList) = .ok r ∧ r.continued = 0 ∧
          entries = if r.failed then [] else r.entries := by
  rw [Manager.readProperties_content]
  cases Text.decodeUtf8 bytes with
  | error failure => exact ⟨[], rfl, List.nodup_nil, nofun, rfl⟩
  | ok text =>
    obtain ⟨r, ran, straight, parsed⟩ := Sections.read_ofProperties text.toList
    have all := Properties.getD_parse?_allClean text.toList
    refine ⟨_, rfl, all.apart, all.clean, r, ran, straight, ?_⟩
    change (Properties.parse? text.toList).getD [] = _
    rw [parsed]
    cases r.failed <;> rfl

/-- Indented lines behind a value and behind a key without one, blank lines, control characters,
half a title, and a title with defaults. -/
theorem Manager.readProperties_clean_indented :
    ∃ entries, (Manager.readProperties "db.properties" (.content (Text.encodeUtf8
        "url=h\n  port 1\n\nuser\n\t\x1cmore=\x01\n[x\n[DEFAULT] y\nurl=i\npass : p=q \r"))
        ({ surroundings := () } : World Unit)).1 = .ok entries ∧
      entries = [("url", "h"), ("port", "1"), ("user", ""), ("more", "\x01"), ("[x", ""),
        ("pass", "p=q")] ∧
      (entries.map Prod.fst).Nodup ∧ (∀ entry ∈ entries, Properties.IsClean entry) ∧
      ∃ r, Sections.read (Sections.ofProperties
        "url=h\n  port 1\n\nuser\n\t\x1cmore=\x01\n[x\n[DEFAULT] y\nurl=i\npass : p=q \r".toList)
          = .ok r ∧ r.continued = 0 ∧ entries = if r.failed then [] else r.entries := by
  obtain ⟨entries, read, apart, clean, general⟩ := Manager.readProperties_clean "db.properties"
    (Text.encodeUtf8
      "url=h\n  port 1\n\nuser\n\t\x1cmore=\x01\n[x\n[DEFAULT] y\nurl=i\npass : p=q \r")
    ({ surroundings := () } : World Unit)
  rw [Text.decodeUtf8_encodeUtf8] at general
  refine ⟨entries, read, ?_, apart, clean, general⟩
  rw [Manager.readProperties_content, Text.decodeUtf8_encodeUtf8] at read
  exact (Except.ok.inj read).symm

end BucketStore
