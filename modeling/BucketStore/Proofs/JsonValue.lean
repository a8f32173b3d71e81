import BucketStore.Proofs.JsonText

/-!
Written values read back. Values of null, booleans, integers, texts, lists and objects are written
as printable ASCII, and reading that text gives the value again, at any depth. The reader takes a
step for each character at most, so that the length of the text bounds its fuel.
-/

namespace BucketStore

/-- Values made of null, booleans, integers, texts, lists and objects. -/
inductive Value.Plain : Value → Prop
  | null : Plain .null
  | bool (b : Bool) : Plain (.bool b)
  | int (i : Int) : Plain (.int i)
  | text (s : String) : Plain (.text s)
  | list {items : List Value} (all : ∀ v ∈ items, Plain v) : Plain (.list items)
  | object {fields : List (String × Value)} (all : ∀ field ∈ fields, Plain field.2) :
    Plain (.object fields)

namespace Json

/-! ### Blanks and numbers -/

/-- A text that no number goes on in. -/
def Stops (cs : List Char) : Prop :=
  ∀ c ∈ cs.head?, isNumberChar c = false

theorem Stops.nil : Stops [] := fun _ head => nomatch head

theorem Stops.cons {c : Char} (other : isNumberChar c = false) (rest : List Char) :
    Stops (c :: rest) :=
  fun _ head => Option.some.inj head ▸ other

theorem skipSpace_cons {c : Char} (solid : isSpace c = false) (cs : List Char) :
    skipSpace (c :: cs) = c :: cs := by
  simp [skipSpace, solid]

private theorem readValue?_blank (fuel : Nat) (cs : List Char) :
    readValue? fuel (' ' :: cs) = readValue? fuel cs := by
  cases fuel with
  | zero => simp only [readValue?]
  | succ fuel =>
    have skipped : skipSpace (' ' :: cs) = skipSpace cs := rfl
    simp only [readValue?, skipped]

private theorem isSpace_of_number {c : Char} (number : isNumberChar c = true) :
    isSpace c = false := by
  refine Bool.eq_false_iff.mpr fun space => ?_
  simp only [isSpace, Bool.or_eq_true, beq_iff_eq] at space
  obtain ((rfl | rfl) | rfl) | rfl := space <;> exact absurd number (by decide)

/-- What starts like a number is read as one. -/
theorem readValue?_number {c : Char} (number : isNumberChar c = true) (fuel : Nat)
    (cs : List Char) :
    readValue? (fuel + 1) (c :: cs)
      = (readNumber? ((c :: cs).takeWhile isNumberChar)).map
        (·, (c :: cs).dropWhile isNumberChar) := by
  have start : skipSpace (c :: cs) = c :: cs := skipSpace_cons (isSpace_of_number number) cs
  have other {d : Char} (bad : isNumberChar d = false) {rest : List Char}
      (same : c :: cs = d :: rest) : False :=
    Bool.eq_false_iff.mp bad (List.head_eq_of_cons_eq same ▸ number)
  rw [readValue?, start]
  split
  next same => exact (other (by decide) same).elim
  next same => exact (other (by decide) same).elim
  next same => exact (other (by decide) same).elim
  next same => exact (other (by decide) same).elim
  next same => exact (other (by decide) same).elim
  next same => exact (other (by decide) same).elim
  next => rfl

section Integers

variable {i : Int} {rest : List Char}

private theorem isNumberChar_of_digit {c : Char} (digit : isAsciiDigit c = true) :
    isNumberChar c = true := by
  simp [isNumberChar, digit]

/-- The characters of a written integer are digits, but for a minus in front. -/
theorem mem_intText {c : Char} (member : c ∈ (intText i).toList) :
    isAsciiDigit c = true ∨ c = '-' := by
  rw [intText, String.toList_ofList, withSign] at member
  split at member
  · obtain sign | digit := List.mem_cons.mp member
    · exact .inr sign
    · exact .inl (isAsciiDigit_of_mem_decimalDigits digit)
  · exact .inl (isAsciiDigit_of_mem_decimalDigits member)

theorem isNumberChar_of_mem_intText {c : Char} (member : c ∈ (intText i).toList) :
    isNumberChar c = true := by
  obtain digit | rfl := mem_intText member
  · exact isNumberChar_of_digit digit
  · decide

private theorem intText_ne_nil (i : Int) : (intText i).toList ≠ [] := by
  rw [intText, String.toList_ofList, withSign]
  split
  · exact List.cons_ne_nil _ _
  · exact Nat.toDigits_ne_nil

theorem readNumber?_intText (i : Int) : readNumber? (intText i).toList = some (.int i) := by
  have whole : (intText i).toList.any (fun c => c == '.' || c == 'e' || c == 'E') = false := by
    refine List.any_eq_false.mpr fun c member float => ?_
    simp only [Bool.or_eq_true, beq_iff_eq] at float
    obtain digit | rfl := mem_intText member
    · obtain (rfl | rfl) | rfl := float <;> exact absurd digit (by decide)
    · exact absurd float (by decide)
  have digits := naturalText?_decimalDigits i.natAbs
  have signs : (intText i).toList = withSign (i < 0) (decimalDigits i.natAbs) :=
    String.toList_ofList
  unfold readNumber?
  rw [whole, signs]
  by_cases negative : i < 0
  · have value : -(i.natAbs : Int) = i := by omega
    simp only [Bool.false_eq_true, if_false, withSign, negative, decide_true, if_true, digits]
    exact congrArg (fun j => some (Value.int j)) value
  · have value : (i.natAbs : Int) = i := by omega
    simp only [Bool.false_eq_true, if_false, withSign, negative, decide_false]
    split
    next sign =>
      have member : '-' ∈ decimalDigits i.natAbs := sign ▸ List.mem_cons_self
      exact absurd (isAsciiDigit_of_mem_decimalDigits member) (by decide)
    next =>
      rw [digits]
      exact congrArg (fun j => some (Value.int j)) value

/-- A written integer is read up to where no number goes on. -/
theorem readValue?_intText (i : Int) (fuel : Nat) (stops : Stops rest) :
    readValue? (fuel + 1) ((intText i).toList ++ rest) = some (.int i, rest) := by
  have all : ∀ c ∈ (intText i).toList, isNumberChar c = true :=
    fun _ => isNumberChar_of_mem_intText
  have ends : rest.takeWhile isNumberChar = [] ∧ rest.dropWhile isNumberChar = rest := by
    cases rest with
    | nil => exact ⟨rfl, rfl⟩
    | cons c more => simp [stops c rfl]
  have taken : ((intText i).toList ++ rest).takeWhile isNumberChar = (intText i).toList := by
    rw [List.takeWhile_append_of_pos all, ends.1, List.append_nil]
  have dropped : ((intText i).toList ++ rest).dropWhile isNumberChar = rest := by
    rw [List.dropWhile_append_of_pos all, ends.2]
  cases text : (intText i).toList with
  | nil => exact absurd text (intText_ne_nil i)
  | cons c cs =>
    have number : isNumberChar c = true := all c (text ▸ List.mem_cons_self)
    rw [List.cons_append, readValue?_number number, ← List.cons_append, ← text, taken, dropped,
      readNumber?_intText]
    rfl

end Integers

/-! ### Lists and objects -/

/-- The written form of a value is read as that value, with a step for each of its characters. -/
def ReadsBack (v : Value) : Prop :=
  ∀ fuel rest, (write v).toList.length ≤ fuel → Stops rest →
    readValue? fuel ((write v).toList ++ rest) = some (v, rest)

section Items

variable {items : List Value} {fuel : Nat}

private theorem readItems?_blank (fuel : Nat) (read : List Value) (cs : List Char) :
    readItems? fuel read (' ' :: cs) = readItems? fuel read cs := by
  cases fuel with
  | zero => simp only [readItems?]
  | succ fuel => simp only [readItems?, readValue?_blank]

private theorem writeItems_cons (v w : Value) (rest : List Value) :
    (writeItems (v :: w :: rest)).toList
      = (write v).toList ++ ',' :: ' ' :: (writeItems (w :: rest)).toList := by
  simp [writeItems]

/-- Written items are read up to the closing bracket. -/
theorem readItems?_written (full : items ≠ []) (all : ∀ v ∈ items, ReadsBack v)
    (enough : (writeItems items).toList.length < fuel) (read : List Value) (rest : List Char) :
    readItems? fuel read ((writeItems items).toList ++ ']' :: rest)
      = some (read.reverse ++ items, rest) := by
  induction items generalizing fuel read with
  | nil => exact absurd rfl full
  | cons v items ih =>
    obtain ⟨fuel, rfl⟩ : ∃ n, fuel = n + 1 := Nat.exists_eq_succ_of_ne_zero (by omega)
    have first := all v List.mem_cons_self
    cases items with
    | nil =>
      rw [writeItems] at enough ⊢
      rw [readItems?, first fuel _ (by omega) (.cons rfl rest)]
      simp [skipSpace_cons (rfl : isSpace ']' = false)]
    | cons w items =>
      rw [writeItems_cons] at enough ⊢
      simp only [List.length_append, List.length_cons] at enough
      rw [List.append_assoc, List.cons_append, List.cons_append, readItems?,
        first fuel _ (by omega) (.cons rfl _)]
      simp only [skipSpace_cons (rfl : isSpace ',' = false), readItems?_blank]
      rw [ih (List.cons_ne_nil w items) (fun u member => all u (List.mem_cons_of_mem v member))
        (by omega)]
      simp

end Items

section Fields

variable {fields : List (String × Value)} {fuel : Nat}

private theorem readFields?_blank (fuel : Nat) (read : List (String × Value)) (cs : List Char) :
    readFields? fuel read (' ' :: cs) = readFields? fuel read cs := by
  cases fuel with
  | zero => simp only [readFields?]
  | succ fuel =>
    have skipped : skipSpace (' ' :: cs) = skipSpace cs := rfl
    simp only [readFields?, skipped]

/-- The written form of one field. -/
def writtenField (key : String) (v : Value) : List Char :=
  (string key).toList ++ ':' :: ' ' :: (write v).toList

private theorem writeFields_singleton (key : String) (v : Value) :
    (writeFields [(key, v)]).toList = writtenField key v := by
  simp [writeFields, writtenField]

private theorem writeFields_cons (key : String) (v : Value) (next : String × Value)
    (rest : List (String × Value)) :
    (writeFields ((key, v) :: next :: rest)).toList
      = writtenField key v ++ ',' :: ' ' :: (writeFields (next :: rest)).toList := by
  simp [writeFields, writtenField]

/-- A written field is read; what stands behind it decides how reading goes on. -/
theorem readFields?_field {key : String} {v : Value} (reads : ReadsBack v)
    (enough : (writtenField key v).length ≤ fuel) {rest : List Char} (stops : Stops rest)
    (read : List (String × Value)) :
    readFields? (fuel + 1) read (writtenField key v ++ rest) = match skipSpace rest with
      | ',' :: more => readFields? fuel ((key, v) :: read) more
      | '\x7d' :: more => some (((key, v) :: read).reverse, more)
      | _ => none := by
  have long := length_string key
  have text : writtenField key v ++ rest = '"' :: (key.toList.flatMap escaped
      ++ '"' :: ':' :: ' ' :: ((write v).toList ++ rest)) := by
    simp [writtenField, toList_string]
  simp only [writtenField, List.length_append, List.length_cons] at enough
  rw [readFields?, text, skipSpace_cons rfl]
  simp only [readString?_written (by omega : key.toList.length < fuel),
    skipSpace_cons (rfl : isSpace ':' = false), readValue?_blank, reads fuel rest (by omega) stops]
  have name : String.ofList ([].reverse ++ key.toList) = key := String.ofList_toList
  generalize String.ofList ([].reverse ++ key.toList) = shown at name ⊢
  subst name
  rfl

/-- Written fields are read up to the closing brace. -/
theorem readFields?_written (full : fields ≠ []) (all : ∀ field ∈ fields, ReadsBack field.2)
    (enough : (writeFields fields).toList.length < fuel) (read : List (String × Value))
    (rest : List Char) :
    readFields? fuel read ((writeFields fields).toList ++ '\x7d' :: rest)
      = some (read.reverse ++ fields, rest) := by
  induction fields generalizing fuel read with
  | nil => exact absurd rfl full
  | cons field fields ih =>
    obtain ⟨fuel, rfl⟩ : ∃ n, fuel = n + 1 := Nat.exists_eq_succ_of_ne_zero (by omega)
    obtain ⟨key, v⟩ := field
    have first : ReadsBack v := all _ List.mem_cons_self
    cases fields with
    | nil =>
      rw [writeFields_singleton] at enough ⊢
      rw [readFields?_field first (by omega) (.cons rfl rest), skipSpace_cons rfl]
      simp
    | cons next fields =>
      rw [writeFields_cons] at enough ⊢
      simp only [List.length_append, List.length_cons] at enough
      rw [List.append_assoc, List.cons_append, List.cons_append,
        readFields?_field first (by omega) (.cons rfl _), skipSpace_cons rfl]
      simp only [readFields?_blank]
      rw [ih (List.cons_ne_nil next fields)
        (fun field member => all field (List.mem_cons_of_mem _ member)) (by omega)]
      simp

end Fields

private theorem toList_write_list (items : List Value) :
    (write (.list items)).toList = '[' :: ((writeItems items).toList ++ [']']) := by
  simp [write]

private theorem toList_write_object (fields : List (String × Value)) :
    (write (.object fields)).toList = '\x7b' :: ((writeFields fields).toList ++ ['\x7d']) := by
  simp [write]

/-- A written value opens with neither a blank nor a closing bracket. -/
theorem write_opens {v : Value} (plain : v.Plain) :
    ∃ c more, (write v).toList = c :: more ∧ isSpace c = false ∧ c ≠ ']' := by
  cases plain with
  | null => exact ⟨_, _, rfl, rfl, by decide⟩
  | bool b => cases b <;> exact ⟨_, _, rfl, rfl, by decide⟩
  | int i =>
    cases text : (intText i).toList with
    | nil => exact absurd text (intText_ne_nil i)
    | cons c more =>
      have number : isNumberChar c = true :=
        isNumberChar_of_mem_intText (text ▸ List.mem_cons_self)
      refine ⟨c, more, by rw [write, text], isSpace_of_number number, ?_⟩
      rintro rfl
      exact absurd number (by decide)
  | text s => exact ⟨_, _, by rw [write, toList_string], rfl, by decide⟩
  | list => exact ⟨_, _, toList_write_list _, rfl, by decide⟩
  | object => exact ⟨_, _, toList_write_object _, rfl, by decide⟩

private theorem writeItems_opens {items : List Value} (full : items ≠ [])
    (plain : ∀ v ∈ items, v.Plain) :
    ∃ c more, (writeItems items).toList = c :: more ∧ isSpace c = false ∧ c ≠ ']' := by
  cases items with
  | nil => exact absurd rfl full
  | cons v items =>
    obtain ⟨c, more, text, solid, apart⟩ := write_opens (plain v List.mem_cons_self)
    cases items with
    | nil => exact ⟨c, more, by rw [writeItems, text], solid, apart⟩
    | cons w items => exact ⟨c, _, by rw [writeItems_cons, text, List.cons_append], solid, apart⟩

private theorem writeFields_opens {fields : List (String × Value)} (full : fields ≠ []) :
    ∃ more, (writeFields fields).toList = '"' :: more := by
  cases fields with
  | nil => exact absurd rfl full
  | cons field fields =>
    obtain ⟨key, v⟩ := field
    cases fields with
    | nil => exact ⟨_, by rw [writeFields_singleton, writtenField, toList_string]; rfl⟩
    | cons next fields => exact ⟨_, by rw [writeFields_cons, writtenField, toList_string]; rfl⟩

/-- Nothing is written as no text, so that there is fuel for a step. -/
theorem ReadsBack.of_step {v : Value} (plain : v.Plain)
    (step : ∀ fuel rest, (write v).toList.length ≤ fuel + 1 → Stops rest →
      readValue? (fuel + 1) ((write v).toList ++ rest) = some (v, rest)) : ReadsBack v := by
  intro fuel rest enough stops
  obtain ⟨c, more, text, -, -⟩ := write_opens plain
  have positive : 0 < fuel := by
    rw [text, List.length_cons] at enough
    omega
  obtain ⟨fuel, rfl⟩ : ∃ n, fuel = n + 1 := Nat.exists_eq_succ_of_ne_zero (Nat.ne_of_gt positive)
  exact step fuel rest enough stops

/-- Written values read back. -/
theorem readsBack {v : Value} (plain : v.Plain) : ReadsBack v := by
  induction plain with
  | null => exact .of_step .null fun fuel rest enough stops => rfl
  | bool b => exact .of_step (.bool b) fun fuel rest enough stops => by cases b <;> rfl
  | int i =>
    refine .of_step (.int i) fun fuel rest enough stops => ?_
    rw [write]
    exact readValue?_intText i fuel stops
  | text s =>
    refine .of_step (.text s) fun fuel rest enough stops => ?_
    have long := length_string s
    rw [write] at enough ⊢
    have text : (string s).toList ++ rest = '"' :: (s.toList.flatMap escaped ++ '"' :: rest) := by
      simp [toList_string]
    rw [text, readValue?, skipSpace_cons rfl]
    simp only [readString?_written (by omega : s.toList.length < fuel)]
    simp
  | @list items all ih =>
    refine .of_step (.list all) fun fuel rest enough stops => ?_
    rw [toList_write_list] at enough ⊢
    simp only [List.length_cons, List.length_append, List.length_nil] at enough
    by_cases full : items = []
    · subst full
      rfl
    · obtain ⟨c, more, text, solid, apart⟩ := writeItems_opens full all
      have read := readItems?_written full ih (by omega : _ < fuel) [] rest
      have bare : skipSpace ((writeItems items).toList ++ ']' :: rest)
          = c :: (more ++ ']' :: rest) := by
        rw [text, List.cons_append, skipSpace_cons solid]
      rw [List.cons_append, List.append_assoc, readValue?, skipSpace_cons rfl]
      simp only [List.cons_append, List.nil_append, bare, read]
      split
      next close => exact absurd (List.head_eq_of_cons_eq close) apart
      next => simp
  | @object fields all ih =>
    refine .of_step (.object all) fun fuel rest enough stops => ?_
    rw [toList_write_object] at enough ⊢
    simp only [List.length_cons, List.length_append, List.length_nil] at enough
    by_cases full : fields = []
    · subst full
      rfl
    · obtain ⟨more, text⟩ := writeFields_opens full
      have read := readFields?_written full ih (by omega : _ < fuel) [] rest
      have bare : skipSpace ((writeFields fields).toList ++ '\x7d' :: rest)
          = '"' :: (more ++ '\x7d' :: rest) := by
        rw [text, List.cons_append, skipSpace_cons rfl]
      rw [List.cons_append, List.append_assoc, readValue?, skipSpace_cons rfl]
      simp only [List.cons_append, List.nil_append, bare, read]
      simp

/-- A written value, read as a whole text, is that value. -/
theorem read?_write {v : Value} (plain : v.Plain) : read? (write v) = some v := by
  have whole := readsBack plain (2 * (write v).toList.length + 2) [] (by omega) .nil
  rw [List.append_nil] at whole
  unfold read?
  simp only [whole]
  rfl

end Json

end BucketStore
