import BucketStore.ConnectionString.Compose

/-!
The keyword notation reads back the pairs that it writes. One written pair at the start of a text
is read as its name and its value, whatever follows it behind a blank; a written list of pairs is
read as the same values, set one after the other.
-/

namespace BucketStore.ConnectionString

open Text (isLayout isBlank)

private theorem isBlank_of_isLayout {c : Char} (h : isLayout c = true) : isBlank c = true := by
  simp only [isLayout, Bool.or_eq_true, beq_iff_eq, Bool.and_eq_true, decide_eq_true_eq] at h
  simp only [isBlank, Text.isWhiteSpace, Bool.or_eq_true, beq_iff_eq, Bool.and_eq_true,
    decide_eq_true_eq]
  obtain rfl | within := h
  · decide
  · omega

namespace Keyword

/-- What stands behind a written pair: nothing, or a blank and more. -/
inductive Gap : List Char → Prop where
  | nothing : Gap []
  | blank (rest : List Char) : Gap (' ' :: rest)

section Values

variable {cs body tail : List Char}

private theorem bareValue_escapedChar {c : Char} (solid : isLayout c = false) (rest : List Char) :
    bareValue (escapedChar c ++ rest) = (c :: (bareValue rest).1, (bareValue rest).2) := by
  unfold escapedChar
  split
  · rw [List.cons_append, List.cons_append, List.nil_append, bareValue]
  next ordinary =>
    have noEscape : c ≠ '\\' := by rintro rfl; exact ordinary rfl
    rw [List.cons_append, List.nil_append, bareValue.eq_4 _ _ (fun h _ => noEscape h)
      (fun _ _ h _ => noEscape h), solid]
    rfl

/-- A value without blanks is read back up to the gap behind it. -/
theorem bareValue_written (solid : ∀ c ∈ cs, isLayout c = false) (gap : Gap tail) :
    bareValue (cs.flatMap escapedChar ++ tail) = (cs, tail.drop 1) := by
  induction cs with
  | nil =>
    cases gap with
    | nothing => rfl
    | blank rest => rfl
  | cons c cs ih =>
    have later := ih fun d member => solid d (List.mem_cons_of_mem c member)
    rw [List.flatMap_cons, List.append_assoc,
      bareValue_escapedChar (solid c List.mem_cons_self), later]

private theorem quotedValue?_escapedChar (c : Char) (rest : List Char) :
    quotedValue? (escapedChar c ++ rest)
      = (quotedValue? rest).map fun (value, after) => (c :: value, after) := by
  unfold escapedChar
  split
  · rw [List.cons_append, List.cons_append, List.nil_append, quotedValue?]
  next ordinary =>
    simp only [Bool.or_eq_true, beq_iff_eq, not_or] at ordinary
    rw [List.cons_append, List.nil_append, quotedValue?.eq_5 _ _ (fun h _ => ordinary.1 h)
      (fun _ _ h _ => ordinary.1 h) (fun h => ordinary.2 h)]

/-- A value in quotes is read back up to the closing quote, blanks and all. -/
theorem quotedValue?_written (cs tail : List Char) :
    quotedValue? (cs.flatMap escapedChar ++ '\x27' :: tail) = some (cs, tail) := by
  induction cs with
  | nil => rfl
  | cons c cs ih =>
    rw [List.flatMap_cons, List.append_assoc, quotedValue?_escapedChar, ih]
    rfl

private theorem value?_quoted {p : List Char × List Char}
    (quote : cs.dropWhile isLayout = '\x27' :: body) (found : quotedValue? body = some p) :
    ∃ result, value? cs = .ok result ∧ result.1 = p := by
  unfold value?
  split
  next body' opening =>
    obtain rfl : body' = body := List.tail_eq_of_cons_eq (opening.symm.trans quote)
    split
    next missing => exact nomatch missing.symm.trans found
    next p' read =>
      obtain rfl : p' = p := Option.some.inj (read.symm.trans found)
      exact ⟨_, rfl, rfl⟩
  next other => exact absurd quote (other body)

private theorem value?_bare (start : cs.dropWhile isLayout = body)
    (plain : ∀ rest, body ≠ '\x27' :: rest) :
    ∃ result, value? cs = .ok result ∧ result.1 = bareValue body := by
  subst start
  unfold value?
  split
  next body' opening => exact absurd opening (plain body')
  next => exact ⟨_, rfl, rfl⟩

/-- The first character of an escaped text is no quote, and a blank only if the text starts so. -/
theorem head_escaped {first : Char} {more : List Char}
    (h : cs.flatMap escapedChar ++ tail = first :: more) (full : cs ≠ [])
    (solid : ∀ c ∈ cs, isLayout c = false) : first ≠ '\x27' ∧ isLayout first = false := by
  cases cs with
  | nil => exact absurd rfl full
  | cons c cs =>
    rw [List.flatMap_cons, List.append_assoc] at h
    unfold escapedChar at h
    split at h
    · obtain rfl : '\\' = first := List.head_eq_of_cons_eq h
      decide
    next ordinary =>
      simp only [Bool.or_eq_true, beq_iff_eq, not_or] at ordinary
      obtain rfl : c = first := List.head_eq_of_cons_eq h
      exact ⟨ordinary.2, solid c List.mem_cons_self⟩

/-- A written value is read back; of what stands behind it, at most a blank is gone. -/
theorem value?_written (s : String) (gap : Gap tail) :
    ∃ result, value? (writtenValue s ++ tail) = .ok result ∧ result.1.1 = s.toList ∧
      result.1.2.dropWhile isLayout = tail.dropWhile isLayout := by
  by_cases quoted : (s.isEmpty || s.toList.any isBlank) = true
  · have start : (writtenValue s ++ tail).dropWhile isLayout
        = '\x27' :: (s.toList.flatMap escapedChar ++ '\x27' :: tail) := by
      simp only [writtenValue, quoted, if_true, List.append_assoc, List.cons_append,
        List.nil_append]
      rfl
    obtain ⟨result, read, same⟩ := value?_quoted start (quotedValue?_written s.toList tail)
    exact ⟨result, read, by rw [same], by rw [same]⟩
  · have written : writtenValue s ++ tail = s.toList.flatMap escapedChar ++ tail := by
      simp [writtenValue, quoted]
    simp only [Bool.or_eq_true, not_or, List.any_eq_true, not_exists, not_and] at quoted
    have full : s.toList ≠ [] := by simpa using quoted.1
    have solid : ∀ c ∈ s.toList, isLayout c = false := fun c member =>
      Bool.eq_false_iff.mpr fun layout => quoted.2 c member (isBlank_of_isLayout layout)
    -- No blank is dropped in front of the value, and it does not open with a quote.
    have start : (writtenValue s ++ tail).dropWhile isLayout
          = s.toList.flatMap escapedChar ++ tail ∧
        ∀ rest, s.toList.flatMap escapedChar ++ tail ≠ '\x27' :: rest := by
      rw [written]
      cases h : s.toList.flatMap escapedChar ++ tail with
      | nil => exact ⟨rfl, fun _ same => nomatch same⟩
      | cons first more =>
        obtain ⟨noQuote, noBlank⟩ := head_escaped h full solid
        exact ⟨by rw [List.dropWhile_cons, noBlank]; rfl,
          fun rest same => noQuote (List.head_eq_of_cons_eq same)⟩
    obtain ⟨result, read, same⟩ := value?_bare start.1 start.2
    rw [bareValue_written solid gap] at same
    refine ⟨result, read, by rw [same], ?_⟩
    rw [same]
    cases gap <;> rfl

end Values

section Pairs

variable {ps : Parameters} {name : String} {cs tail : List Char}

/-- The written form of one pair. -/
def writtenPair (name value : String) : List Char :=
  name.toList ++ '=' :: writtenValue value

/-- Pairs as they stand behind another one, each with a blank in front. -/
def writtenBehind : List (String × String) → List Char
  | [] => []
  | (name, value) :: rest => ' ' :: (writtenPair name value ++ writtenBehind rest)

private theorem gap_writtenBehind (pairs : List (String × String)) : Gap (writtenBehind pairs) := by
  cases pairs with
  | nil => exact .nothing
  | cons _ _ => exact .blank _

theorem write_cons (name value : String) (pairs : List (String × String)) :
    (write ((name, value) :: pairs)).toList = writtenPair name value ++ writtenBehind pairs := by
  induction pairs generalizing name value with
  | nil => simp [write, writtenPair, writtenBehind]
  | cons next rest ih =>
    have later := ih next.1 next.2
    simp only [write, List.map_cons, String.intercalate_cons_cons, String.toList_append] at later ⊢
    rw [later]
    simp [writtenPair, writtenBehind]

/-- No name holds a character that ends names. -/
theorem solid_names : ∀ name ∈ names, ∀ c ∈ name.toList, endsName c = false := by
  have solid : names.all (fun name => name.toList.all (!endsName ·)) = true := by decide +kernel
  simpa [List.all_eq_true] using solid

private theorem store?_of_mem (known : name ∈ names) (value : Setting) :
    ps.store? name value = some (ps.set name value) := by
  have current : name ≠ "requiressl" := by
    rintro rfl
    exact absurd known (by decide)
  simp [Parameters.store?, current, known]

private theorem pair?_of_value {label more : List Char}
    {result : { p : List Char × List Char // p.2.length ≤ more.length }}
    (start : cs = label ++ '=' :: more) (solid : ∀ c ∈ label, endsName c = false)
    (read : value? more = .ok result) :
    ∃ p, pair? cs = .ok p ∧ p.name = label ∧ p.value = result.1.1 ∧ p.rest = result.1.2 := by
  subst start
  have stays : ∀ c ∈ label, (!endsName c) = true := fun c member => by simp [solid c member]
  have before : (label ++ '=' :: more).takeWhile (!endsName ·) = label := by
    rw [List.takeWhile_append_of_pos stays]
    exact (congrArg (label ++ ·) rfl).trans (List.append_nil label)
  have behind : ((label ++ '=' :: more).dropWhile (!endsName ·)).dropWhile isLayout
      = '=' :: more := by
    rw [List.dropWhile_append_of_pos stays]
    rfl
  unfold pair?
  dsimp only
  split
  next more' sign =>
    obtain rfl : more' = more := List.tail_eq_of_cons_eq (sign.symm.trans behind)
    rw [read]
    exact ⟨_, rfl, before, rfl, rfl⟩
  next other => exact absurd behind (other more)

theorem readPairs_blank (h : cs.dropWhile isLayout = []) : readPairs ps cs = .ok ps := by
  fun_cases readPairs ps cs with
  | case1 => rfl
  | case2 c rest start => exact nomatch start.symm.trans h
  | case3 c rest start => exact nomatch start.symm.trans h
  | case4 c rest start => exact nomatch start.symm.trans h

/-- Reading takes the first pair behind the blanks, stores it and goes on. -/
theorem readPairs_cons {first : Char} {rest : List Char}
    (start : cs.dropWhile isLayout = first :: rest) :
    readPairs ps cs = match pair? (first :: rest) with
      | .error refusal => .error refusal
      | .ok p =>
        match ps.store? (String.ofList p.name) (.text (String.ofList p.value)) with
        | none => .error (.unknownOption (String.ofList p.name))
        | some next => readPairs next p.rest := by
  fun_cases readPairs ps cs with
  | case1 blank => exact nomatch blank.symm.trans start
  | case2 c rest' start' le refusal failed =>
    obtain ⟨rfl, rfl⟩ := List.cons.inj (start'.symm.trans start)
    rw [failed]
  | case3 c rest' start' le p read name unknown =>
    obtain ⟨rfl, rfl⟩ := List.cons.inj (start'.symm.trans start)
    rw [read]
    dsimp only
    rw [unknown]
  | case4 c rest' start' le p read name next known =>
    obtain ⟨rfl, rfl⟩ := List.cons.inj (start'.symm.trans start)
    rw [read]
    dsimp only
    rw [known]

/-- Blanks in front make no difference. -/
theorem readPairs_congr {cs' : List Char}
    (same : cs.dropWhile isLayout = cs'.dropWhile isLayout) :
    readPairs ps cs = readPairs ps cs' := by
  cases start : cs'.dropWhile isLayout with
  | nil => rw [readPairs_blank (same.trans start), readPairs_blank start]
  | cons first rest => rw [readPairs_cons (same.trans start), readPairs_cons start]

theorem readPairs_space (ps : Parameters) (cs : List Char) :
    readPairs ps (' ' :: cs) = readPairs ps cs :=
  readPairs_congr rfl

/-- The written form of a pair is read as that pair, and reading goes on behind it. -/
theorem readPairs_writtenPair (known : name ∈ names) (value : String) (gap : Gap tail) :
    readPairs ps (writtenPair name value ++ tail)
      = readPairs (ps.set name (.text value)) tail := by
  have solid := solid_names name known
  obtain ⟨result, valueRead, whole, behind⟩ := value?_written value gap
  have written : writtenPair name value ++ tail
      = name.toList ++ '=' :: (writtenValue value ++ tail) := by
    simp [writtenPair]
  obtain ⟨first, rest, start, noBlank⟩ : ∃ first rest,
      writtenPair name value ++ tail = first :: rest ∧ isLayout first = false := by
    rw [written]
    cases letters : name.toList with
    | nil => exact ⟨_, _, rfl, rfl⟩
    | cons c cs =>
      rw [letters] at solid
      exact ⟨_, _, rfl, (Bool.or_eq_false_iff.mp (solid c List.mem_cons_self)).2⟩
  obtain ⟨p, pairRead, nameRead, textRead, restRead⟩ :=
    pair?_of_value (start.symm.trans written) solid valueRead
  have stored : ps.store? (String.ofList p.name) (.text (String.ofList p.value))
      = some (ps.set name (.text value)) := by
    rw [nameRead, textRead, whole, String.ofList_toList, String.ofList_toList,
      store?_of_mem known]
  rw [start, readPairs_cons (by rw [List.dropWhile_cons, noBlank]; rfl), pairRead]
  simp only [stored, restRead]
  exact readPairs_congr behind

/-- Set parameters one after the other. -/
def setTexts (ps : Parameters) (pairs : List (String × String)) : Parameters :=
  pairs.foldl (fun ps pair => ps.set pair.1 (.text pair.2)) ps

private theorem readPairs_writtenBehind {pairs : List (String × String)}
    (known : ∀ pair ∈ pairs, pair.1 ∈ names) :
    readPairs ps (writtenBehind pairs) = .ok (setTexts ps pairs) := by
  induction pairs generalizing ps with
  | nil => exact readPairs_blank rfl
  | cons pair rest ih =>
    obtain ⟨name, value⟩ := pair
    rw [writtenBehind, readPairs_space,
      readPairs_writtenPair (known _ List.mem_cons_self) value (gap_writtenBehind rest),
      ih fun pair member => known pair (List.mem_cons_of_mem _ member)]
    rfl

/-- Written pairs are read as themselves. -/
theorem read_write {pairs : List (String × String)} (known : ∀ pair ∈ pairs, pair.1 ∈ names) :
    read (write pairs) = .ok (setTexts {} pairs) := by
  cases pairs with
  | nil => exact readPairs_blank rfl
  | cons pair rest =>
    rw [read, write_cons, readPairs_writtenPair (known _ List.mem_cons_self) pair.2
      (gap_writtenBehind rest)]
    exact readPairs_writtenBehind fun pair member => known pair (List.mem_cons_of_mem _ member)

end Pairs

end Keyword

end BucketStore.ConnectionString
