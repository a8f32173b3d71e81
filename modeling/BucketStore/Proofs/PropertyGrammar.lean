import BucketStore.Pool.Manager
import BucketStore.Proofs.PropertyLines
import BucketStore.Proofs.Utf8

/-!
The grammar of properties files, line by line, and that files are read by it.
-/

namespace BucketStore

namespace Properties

/-- The value behind a key: what follows blanks, at most one delimiter, and blanks again. -/
def valueBehind (after : List Char) : List Char :=
  match after.dropWhile Text.isBlank with
  | [] => []
  | c :: rest => Text.trim Text.isBlank (if isDelimiter c then rest else c :: rest)

/-- The entry of a line. A blank line has none, nor has a comment. -/
def entryOf (line : List Char) : Option (String × String) :=
  match line.dropWhile Text.isBlank with
  | [] => none
  | c :: rest =>
    if c == '#' || c == '!' then none
    else
      some (String.ofList ((c :: rest).takeWhile isKeyChar),
        String.ofList (valueBehind ((c :: rest).dropWhile isKeyChar)))

/-- The entries of a text, none if a line of it has no key. -/
def entries (text : List Char) : Entries :=
  if (Text.textLines text).any isKeyless then []
  else mergeEntries ((Text.textLines text).filterMap entryOf)

/-- A line whose only blanks are spaces, tabs and form feeds. -/
def IsPlain (line : List Char) : Prop :=
  ∀ c ∈ line, Text.isBlank c → isSeparatorBlank c

variable {c d : Char} {run gap rest : List Char}

private theorem not_isDelimiter_of_isBlank (blank : Text.isBlank c = true) :
    isDelimiter c = false := by
  cases delimits : isDelimiter c with
  | false => rfl
  | true =>
    simp only [isDelimiter, Bool.or_eq_true, beq_iff_eq] at delimits
    rcases delimits with rfl | rfl <;> cases blank

private theorem not_isBlank_of_isDelimiter (delimits : isDelimiter c = true) :
    Text.isBlank c = false := by
  cases blank : Text.isBlank c with
  | false => rfl
  | true => rw [not_isDelimiter_of_isBlank blank] at delimits; cases delimits

private theorem letters_of_key (start : isKeyStart c = true) (keyed : ∀ d ∈ run, isKeyChar d) :
    ∀ d ∈ c :: run, Text.isBlank d = false ∧ isDelimiter d = false := by
  intro d found
  rcases List.mem_cons.mp found with rfl | found
  · exact isKeyChar_iff.mp (isKeyChar_of_isKeyStart start)
  · exact isKeyChar_iff.mp (keyed d found)

/-- A line cut at its first delimiter: the key before it, and a value behind it. -/
theorem splitEntry_delimited (start : isKeyStart c = true) (keyed : ∀ d ∈ run, isKeyChar d)
    (blank : ∀ d ∈ gap, isSeparatorBlank d) (delimits : isDelimiter d = true) :
    splitEntry (c :: (run ++ (gap ++ d :: rest))) = (c :: run, Text.trim Text.isBlank rest) := by
  have letters := letters_of_key start keyed
  have blankGap : ∀ e ∈ gap, Text.isBlank e :=
    fun e found => isBlank_of_isSeparatorBlank (blank e found)
  have before : ∀ e ∈ c :: run ++ gap, (!isDelimiter e) = true := by
    intro e found
    rcases List.mem_append.mp found with found | found
    · simp [(letters e found).2]
    · simp [not_isDelimiter_of_isBlank (blankGap e found)]
  have stop : ∀ e ∈ (d :: rest).head?, (!isDelimiter e) = false := by
    rintro e ⟨⟩
    simp [delimits]
  have whole : c :: (run ++ (gap ++ d :: rest)) = (c :: run ++ gap) ++ d :: rest := by simp
  rw [splitEntry, whole, List.takeWhile_append_of_pos before, List.dropWhile_append_of_pos before,
    Text.takeWhile_of_head stop, Text.dropWhile_of_head stop, List.append_nil,
    Text.trimEnd_append_blank _ blankGap, Text.trimEnd_of_solid fun e found => (letters e found).1]
  rfl

/-- A key, blanks, a delimiter and a value are read as that entry. -/
theorem Line.read_delimited (start : isKeyStart c = true) (bracket : c ≠ '[')
    (keyed : ∀ d ∈ run, isKeyChar d) (blank : ∀ d ∈ gap, isSeparatorBlank d)
    (delimits : isDelimiter d = true) :
    Line.read (c :: (run ++ (gap ++ d :: rest)))
      = .entry (String.ofList (c :: run)) (String.ofList (Text.trim Text.isBlank rest)) := by
  have solid := (letters_of_key start keyed c List.mem_cons_self).1
  have trimmed : Text.trim Text.isBlank (c :: (run ++ (gap ++ d :: rest)))
      = c :: (run ++ (gap ++ d :: Text.trimEnd Text.isBlank rest)) := by
    rw [Text.trim_cons solid, ← List.append_assoc,
      Text.trimEnd_append_cons _ _ (not_isBlank_of_isDelimiter delimits), List.append_assoc]
  have noComment : (c == '#' || c == '!') = false := by
    simp only [isKeyStart, Bool.and_eq_true, bne_iff_ne] at start
    simp [start.1.2, start.2]
  rw [Line.read, trimmed, sectionTitle?_of_ne bracket,
    splitEntry_delimited start keyed blank delimits, Text.trim_trimEnd]
  simp [noComment]

/-- The same where an equals sign follows the key at once. -/
theorem Line.read_marked (start : isKeyStart c = true) (bracket : c ≠ '[')
    (keyed : ∀ d ∈ run, isKeyChar d) :
    Line.read (c :: run ++ '=' :: rest)
      = .entry (String.ofList (c :: run)) (String.ofList (Text.trim Text.isBlank rest)) := by
  have none : ∀ d ∈ ([] : List Char), isSeparatorBlank d := List.forall_mem_nil _
  have delimits : isDelimiter '=' = true := rfl
  have marked : Line.read (c :: (run ++ ([] ++ '=' :: rest))) = _ :=
    Line.read_delimited start bracket keyed none delimits
  rw [List.nil_append] at marked
  exact marked

private theorem valueBehind_blank (blank : ∀ e ∈ gap, Text.isBlank e) : valueBehind gap = [] := by
  rw [valueBehind, List.dropWhile_eq_nil_iff.mpr blank]

private theorem valueBehind_cons (blank : ∀ e ∈ gap, Text.isBlank e)
    (solid : Text.isBlank d = false) :
    valueBehind (gap ++ d :: rest)
      = Text.trim Text.isBlank (if isDelimiter d then rest else d :: rest) := by
  rw [valueBehind, List.dropWhile_append_of_pos blank,
    Text.dropWhile_of_head (by rintro e ⟨⟩; exact solid)]

/-- A line that starts with a key is read as its entry. -/
theorem Line.read_entry (start : isKeyStart c = true) (bracket : c ≠ '[')
    (parts : Parts run gap rest) (solid : ∀ d ∈ rest.head?, Text.isBlank d = false) :
    Line.read (markBlankSeparator (c :: (run ++ (gap ++ rest))))
      = .entry (String.ofList (c :: run)) (String.ofList (valueBehind (gap ++ rest))) := by
  have blank : ∀ e ∈ gap, Text.isBlank e :=
    fun e found => isBlank_of_isSeparatorBlank (parts.blank e found)
  cases rest with
  | nil =>
    rw [List.append_nil, Line.read_key_blanks start parts.keyed blank,
      ← Line.read_bare start parts.keyed, Line.read_marked start bracket parts.keyed,
      valueBehind_blank blank]
    rfl
  | cons d more =>
    rw [markBlankSeparator_of_key start parts, valueBehind_cons blank (solid d rfl)]
    cases delimits : isDelimiter d with
    | true =>
      have stays : setsOff gap (d :: more) = false := by simp [setsOff, delimits]
      rw [stays, if_neg Bool.false_ne_true, if_pos rfl]
      exact Line.read_delimited start bracket parts.keyed parts.blank delimits
    | false =>
      have letter : isKeyChar d = true := isKeyChar_iff.mpr ⟨solid d rfl, delimits⟩
      -- Without a blank before it the character would belong to the key.
      have blanks : gap.isEmpty = false := by
        cases gap with
        | nil => rw [parts.ends rfl d rfl] at letter; cases letter
        | cons e gap => rfl
      have set : setsOff gap (d :: more) = true := by simp [setsOff, blanks, delimits, solid d rfl]
      rw [set, if_pos rfl, if_neg Bool.false_ne_true, Line.read_marked start bracket parts.keyed]

/-- A plain line without title and with a key, or without anything to say, is read by the
grammar. -/
theorem reading?_entryOf {line : List Char} (plain : IsPlain line)
    (untitled : (line.dropWhile Text.isBlank).head? ≠ some '[') (keyed : isKeyless line = false) :
    entryOf line = none ∧ (reading? line = none ∨ reading? line = some .comment) ∨
      ∃ key value, entryOf line = some (key, value) ∧ reading? line = some (.entry key value) := by
  cases body : line.dropWhile Text.isBlank with
  | nil =>
    have blank := List.dropWhile_eq_nil_iff.mp body
    exact .inl ⟨by simp [entryOf, body], .inl (reading?_of_blank blank)⟩
  | cons c cs =>
    have first : c ∈ (line.dropWhile Text.isBlank).head? := body ▸ rfl
    have solid := Text.head_dropWhile first
    have noDelimiter : isDelimiter c = false := by simpa [isKeyless, body] using keyed
    have bracket : c ≠ '[' := fun same => untitled (by rw [body, same]; rfl)
    have letter : isKeyChar c = true := isKeyChar_iff.mpr ⟨solid, noDelimiter⟩
    cases comment : c == '#' || c == '!' with
    | true =>
      refine .inl ⟨by simp [entryOf, body, comment], .inr ?_⟩
      rw [reading?_of_body body, Line.read_comment solid comment]
    | false =>
      have start : isKeyStart c = true := by
        simp only [isKeyStart, letter]
        simpa using comment
      obtain ⟨run, gap, rest, rfl, parts⟩ := exists_parts cs
      have solidRest : ∀ d ∈ rest.head?, Text.isBlank d = false := by
        intro d head
        have behind := parts.behind d head
        have among : d ∈ line := by
          apply (List.dropWhile_suffix Text.isBlank).subset
          rw [body]
          simp [List.mem_of_mem_head? head]
        cases blank : Text.isBlank d with
        | false => rfl
        | true => rw [plain d among blank] at behind; cases behind
      have whole := Line.read_entry start bracket parts solidRest
      refine .inr ⟨String.ofList (c :: run), String.ofList (valueBehind (gap ++ rest)), ?_, ?_⟩
      · rw [entryOf, body]
        simp [comment, letter, parts.takeWhile_key, parts.dropWhile_key]
      · rw [reading?_of_body body, whole]

/-- Reading lines goes on by the grammar as long as every line has its key. -/
theorem foldl_take_entries {lines : List (List Char)}
    (each : ∀ line ∈ lines, entryOf line = none ∧
        (reading? line = none ∨ reading? line = some .comment) ∨
      ∃ key value, entryOf line = some (key, value) ∧ reading? line = some (.entry key value))
    (p : Progress) (home : p.current = .main) :
    (lines.filterMap reading?).foldl Progress.take p =
      { p with main :=
          putEntries p.main (lines.filterMap entryOf) } := by
  induction lines generalizing p with
  | nil => rfl
  | cons line lines ih =>
    have later := fun other found => each other (List.mem_cons_of_mem line found)
    rw [List.filterMap_cons, List.filterMap_cons]
    rcases each line List.mem_cons_self with ⟨none, silent | comment⟩ | ⟨key, value, entry, read⟩
    · rw [none, silent]
      exact ih later p home
    · rw [none, comment]
      exact ih later p home
    · rw [entry, read]
      have taken : p.take (.entry key value) = { p with main := putEntry p.main key value } := by
        simp [Progress.take, home]
      rw [List.foldl_cons, taken]
      exact ih later _ home

/-- Texts without exotic blanks and without bracketed titles are read by the grammar. -/
theorem parse?_entries (text : List Char) (plain : ∀ line ∈ Text.textLines text, IsPlain line)
    (untitled : ∀ line ∈ Text.textLines text, (line.dropWhile Text.isBlank).head? ≠ some '[') :
    (parse? text).getD [] = entries text := by
  rw [parse?_eq, entries]
  cases keyless : (Text.textLines text).any isKeyless with
  | true => rfl
  | false =>
    have each := fun line found => reading?_entryOf (plain line found) (untitled line found)
      (Bool.eq_false_iff.mpr fun bad => by
        rw [List.any_eq_false] at keyless
        exact keyless line found bad)
    have main := foldl_take_entries each {} rfl
    rw [readings, main]
    simp [mergeEntries]

/-- A line holds characters of its text, none of them a line break. -/
theorem mem_textLines {text line : List Char} (among : line ∈ Text.textLines text)
    (found : c ∈ line) : c ∈ text ∧ c ≠ '\n' ∧ c ≠ '\r' := by
  induction text using Text.textLines.induct generalizing line with
  | case1 =>
    rw [List.mem_singleton.mp among] at found
    cases found
  | case2 rest ih =>
    rw [Text.textLines] at among
    rcases List.mem_cons.mp among with rfl | among
    · cases found
    · obtain ⟨inside, solid⟩ := ih among found
      exact ⟨by simp [inside], solid⟩
  | case3 e rest single ends ih =>
    rw [Text.textLines.eq_3 _ _ single, if_pos ends] at among
    rcases List.mem_cons.mp among with rfl | among
    · cases found
    · obtain ⟨inside, solid⟩ := ih among found
      exact ⟨List.mem_cons_of_mem e inside, solid⟩
  | case4 e rest single inner ih =>
    rw [Text.textLines.eq_3 _ _ single, if_neg inner] at among
    cases lines : Text.textLines rest with
    | nil =>
      rw [lines] at among
      cases among
    | cons first more =>
      rw [lines, List.modifyHead_cons] at among
      rcases List.mem_cons.mp among with rfl | among
      · rcases List.mem_cons.mp found with rfl | found
        · simp only [Bool.or_eq_true, beq_iff_eq, not_or] at inner
          exact ⟨List.mem_cons_self, inner⟩
        · obtain ⟨inside, solid⟩ := ih (lines ▸ List.mem_cons_self) found
          exact ⟨List.mem_cons_of_mem e inside, solid⟩
      · obtain ⟨inside, solid⟩ := ih (lines ▸ List.mem_cons_of_mem first among) found
        exact ⟨List.mem_cons_of_mem e inside, solid⟩

end Properties

/-- A properties file says what its grammar says, and nothing if a line of it has no key. -/
theorem Manager.readProperties_entries {σ : Type} (path text : String) (w : World σ)
    (plain : ∀ c ∈ text.toList, Text.isBlank c → c ∈ [' ', '\t', '\x0c', '\n', '\r'])
    (untitled : ∀ line ∈ Text.textLines text.toList,
      (line.dropWhile Text.isBlank).head? ≠ some '[') :
    (Manager.readProperties path (.content (Text.encodeUtf8 text)) w).1
      = .ok (Properties.entries text.toList) := by
  have plainLines : ∀ line ∈ Text.textLines text.toList, Properties.IsPlain line := by
    intro line among c found blank
    obtain ⟨inside, noFeed, noReturn⟩ := Properties.mem_textLines among found
    have listed := plain c inside blank
    simp only [List.mem_cons, List.not_mem_nil, noFeed, noReturn, or_false] at listed
    rcases listed with rfl | rfl | rfl <;> rfl
  have parsed := Properties.parse?_entries text.toList plainLines untitled
  simp only [Manager.readProperties, Properties.load, Text.decodeUtf8_encodeUtf8]
  cases read : Properties.parse? text.toList with
  | none =>
    rw [read] at parsed
    exact congrArg Except.ok parsed
  | some found =>
    rw [read] at parsed
    exact congrArg Except.ok parsed

/-- A comment, a key set off by blanks, a delimiter inside a value, a key without value, and a
repeated key. -/
theorem Manager.readProperties_entries_mixed :
    (Manager.readProperties "db.properties"
        (.content (Text.encodeUtf8 "# db=1\r\nurl\tpostgres://h\nuser : a=b \r timeout\nurl=x"))
        ({ surroundings := () } : World Unit)).1
      = .ok [("url", "x"), ("user", "a=b"), ("timeout", "")] := by
  have plain : ∀ c ∈ "# db=1\r\nurl\tpostgres://h\nuser : a=b \r timeout\nurl=x".toList,
      Text.isBlank c → c ∈ [' ', '\t', '\x0c', '\n', '\r'] :=
    -- Letter by letter of the text, not over all characters there are.
    @of_decide_eq_true _ (List.decidableBAll _ _) rfl
  rw [Manager.readProperties_entries "db.properties"
    "# db=1\r\nurl\tpostgres://h\nuser : a=b \r timeout\nurl=x" _ plain (by decide)]
  exact congrArg Except.ok (by decide)

end BucketStore
