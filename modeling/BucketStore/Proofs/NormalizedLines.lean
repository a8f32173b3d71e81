import BucketStore.Configuration.Sections
import BucketStore.Proofs.PropertyLines

/-!
Normalized lines are lines again: put together they are cut apart at the same places, and none of
them is blank or starts with a blank.
-/

namespace BucketStore

namespace Text

/-- Lines as they are cut: none is empty, each ends in its only line feed, and only the last one
may lack it. -/
inductive Lined : List (List Char) → Prop where
  | nil : Lined []
  | last {c : Char} {body : List Char} (inner : '\n' ∉ c :: body) : Lined [c :: body]
  | cons {body : List Char} {lines : List (List Char)} (inner : '\n' ∉ body)
    (rest : Lined lines) : Lined ((body ++ ['\n']) :: lines)

private theorem splitLines_last {c : Char} {body : List Char} (inner : '\n' ∉ c :: body) :
    splitLines (c :: body) = [c :: body] := by
  induction body generalizing c with
  | nil => simp [splitLines, Ne.symm (List.ne_of_not_mem_cons inner)]
  | cons d body ih =>
    rw [List.mem_cons, not_or] at inner
    rw [splitLines, ih inner.2]
    simp [Ne.symm inner.1]

private theorem splitLines_line {body : List Char} (inner : '\n' ∉ body) (rest : List Char) :
    splitLines (body ++ ['\n'] ++ rest) = (body ++ ['\n']) :: splitLines rest := by
  induction body with
  | nil => rfl
  | cons c body ih =>
    rw [List.mem_cons, not_or] at inner
    rw [List.cons_append, List.cons_append, splitLines, ih inner.2]
    simp [Ne.symm inner.1]

private theorem lined_splitLines (cs : List Char) : Lined (splitLines cs) := by
  induction cs with
  | nil => exact .nil
  | cons c cs ih =>
    by_cases feed : c = '\n'
    · subst feed
      exact .cons List.not_mem_nil ih
    · have grown {body : List Char} (inner : '\n' ∉ body) : '\n' ∉ c :: body := by
        simp [inner, Ne.symm feed]
      rw [splitLines, if_neg (by simp [feed])]
      generalize splitLines cs = lines at ih
      cases ih with
      | nil => exact .last (grown List.not_mem_nil)
      | last inner => exact .last (grown inner)
      | cons inner rest => exact .cons (grown inner) rest

/-- Lines that are put together are cut apart again. -/
theorem Lined.splitLines_flatten {lines : List (List Char)} (lined : Lined lines) :
    splitLines lines.flatten = lines := by
  induction lined with
  | nil => rfl
  | last inner => rw [List.flatten_singleton, splitLines_last inner]
  | cons inner rest ih => rw [List.flatten_cons, splitLines_line inner, ih]

end Text

namespace Properties

open Text (Lined)

/-- An equals sign takes the place of blanks, or nothing changes. -/
theorem markBlankSeparator_cases (line : List Char) :
    markBlankSeparator line = line ∨
      ∃ key gap value, gap ≠ [] ∧ (∀ c ∈ gap, isSeparatorBlank c) ∧
        line = key ++ gap ++ value ∧ markBlankSeparator line = key ++ '=' :: value := by
  cases line with
  | nil => exact .inl rfl
  | cons c cs =>
    cases start : isKeyStart c with
    | false => exact .inl (by simp [markBlankSeparator, start])
    | true =>
      obtain ⟨run, gap, rest, rfl, parts⟩ := exists_parts cs
      rw [markBlankSeparator_of_key start parts]
      cases set : setsOff gap rest with
      | false => exact .inl rfl
      | true =>
        refine .inr ⟨c :: run, gap, rest, ?_, parts.blank, by simp, rfl⟩
        rintro rfl
        simp [setsOff] at set

private theorem mem_markBlankSeparator {line : List Char} {c : Char}
    (among : c ∈ markBlankSeparator line) :
    c ∈ line ∨ c = '=' := by
  obtain same | ⟨key, gap, value, -, -, whole, marked⟩ := markBlankSeparator_cases line
  · exact .inl (same ▸ among)
  · rw [marked] at among
    rw [whole]
    simp only [List.mem_append, List.mem_cons] at among ⊢
    grind

theorem mem_normalizeLine {line : List Char} {c : Char} (among : c ∈ normalizeLine line) :
    c ∈ line ∨ c = '=' :=
  (mem_markBlankSeparator among).imp_left fun found => (List.dropWhile_suffix _).subset found

/-- The last character of a text is the last one of any part at its end. -/
theorem exists_concat {body front tail : List Char} {c : Char} (some : tail ≠ [])
    (whole : body ++ [c] = front ++ tail) :
    ∃ tail', tail = tail' ++ [c] ∧ body = front ++ tail' := by
  obtain ⟨tail', last, rfl⟩ := (List.eq_nil_or_concat tail).resolve_left some
  rw [List.concat_eq_append, ← List.append_assoc] at whole
  obtain ⟨same, ends⟩ := List.append_inj' whole rfl
  rw [List.concat_eq_append, ends]
  exact ⟨tail', rfl, same⟩

/-- A line feed at the end of a line stays there. -/
theorem markBlankSeparator_line (body : List Char) :
    ∃ body', markBlankSeparator (body ++ ['\n']) = body' ++ ['\n'] ∧
      ∀ c ∈ body', c ∈ body ∨ c = '=' := by
  obtain same | ⟨key, gap, value, some, blank, whole, marked⟩ :=
    markBlankSeparator_cases (body ++ ['\n'])
  · exact ⟨body, same, fun c found => .inl found⟩
  · by_cases empty : value = []
    · -- Blanks at the very end would be the line feed, which sets off nothing.
      rw [empty, List.append_nil] at whole
      obtain ⟨gap', rfl, -⟩ := exists_concat some whole
      exact absurd (blank '\n' (by simp)) (by decide)
    · obtain ⟨value', rfl, same⟩ := exists_concat empty whole
      refine ⟨key ++ '=' :: value', by rw [marked]; simp, fun c found => ?_⟩
      rw [same]
      simp only [List.mem_append, List.mem_cons] at found ⊢
      grind

/-- A line keeps its line feed, unless it is blank. -/
theorem normalizeLine_line {body : List Char} (inner : '\n' ∉ body) :
    normalizeLine (body ++ ['\n']) = [] ∨
      ∃ body', normalizeLine (body ++ ['\n']) = body' ++ ['\n'] ∧ '\n' ∉ body' := by
  rw [normalizeLine, List.dropWhile_append]
  split
  · exact .inl rfl
  · obtain ⟨body', marked, kept⟩ := markBlankSeparator_line (body.dropWhile Text.isBlank)
    refine .inr ⟨body', marked, fun found => ?_⟩
    obtain among | equals := kept _ found
    · exact inner ((List.dropWhile_suffix _).subset among)
    · cases equals

/-- Normalized lines are lines again, where they are not blank. -/
theorem lined_normalized {lines : List (List Char)} (lined : Lined lines) :
    Lined ((lines.map normalizeLine).filter (!·.isEmpty)) := by
  induction lined with
  | nil => exact .nil
  | @last c body inner =>
    have none : '\n' ∉ normalizeLine (c :: body) := by
      intro found
      obtain among | equals := mem_normalizeLine found
      · exact inner among
      · cases equals
    rw [List.map_singleton]
    cases normal : normalizeLine (c :: body) with
    | nil => exact .nil
    | cons d more => exact .last (normal ▸ none)
  | @cons body lines inner rest ih =>
    rw [List.map_cons]
    obtain blank | ⟨body', normal, inner'⟩ := normalizeLine_line inner
    · rw [blank]
      exact ih
    · rw [normal, List.filter_cons_of_pos (by simp)]
      exact .cons inner' ih

/-- Behind their title the normalized lines are read one by one. -/
theorem splitLines_ofProperties (text : List Char) :
    Text.splitLines (Sections.ofProperties text) = "[db]\n".toList :: lines text := by
  have lined := lined_normalized (Text.lined_splitLines (Text.unifyBreaks text))
  have cut := lined.splitLines_flatten
  rw [List.flatten_filter_not_isEmpty] at cut
  have title : '\n' ∉ "[db]".toList := by decide
  exact (Text.splitLines_line title _).trans (congrArg _ cut)

/-- No line that is read starts with a blank. -/
theorem head_lines {text line : List Char} (among : line ∈ lines text) :
    ∃ c rest, line = c :: rest ∧ Text.isBlank c = false := by
  rw [lines, List.mem_filter, List.mem_map] at among
  obtain ⟨⟨raw, -, rfl⟩, solid⟩ := among
  cases normal : normalizeLine raw with
  | nil => simp [normal] at solid
  | cons c rest =>
    have first := head_markBlankSeparator (raw.dropWhile Text.isBlank)
    rw [← normalizeLine, normal] at first
    exact ⟨c, rest, rfl, Text.head_dropWhile first.symm⟩

end Properties

end BucketStore
