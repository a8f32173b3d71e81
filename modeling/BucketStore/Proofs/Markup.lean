import BucketStore.Proofs.Legible

/-!
Texts inside one tag. As long as nothing in such a text is taken for markup, it is shown as it is,
but for emoji codes and characters that would move the cursor.
-/

namespace BucketStore.Console

/-- Nothing in a text is taken for markup, or takes part in markup behind it: no bracket begins a
tag, and no backslash stands before a bracket or at the end. -/
def isUnmarked : List Char → Bool
  | [] => true
  | c :: rest =>
    (c != '[' || (tagBody? rest).isNone) && (c != '\\' || rest.head?.any (· != '['))
      && isUnmarked rest

/-- The characters of a text that are shown, and their emoji. -/
def shownChars (cs : List Char) : List Char :=
  (withEmoji cs).filter (!isHidden ·)

theorem shownChars_of_plain {cs : List Char} (codes : withEmoji cs = cs)
    (visible : ∀ c ∈ cs, isHidden c = false) : shownChars cs = cs := by
  rw [shownChars, codes, List.filter_eq_self]
  intro c member
  rw [visible c member]
  rfl

/-! ### Tags -/

/-- A word for a colour: whether it is known or not, nothing is wrong with it, and it is a tag's
name in its normal form. -/
structure IsTagWord (word : List Char) : Prop where
  starts : word.head?.any startsTag = true
  unbracketed : '[' ∉ word ∧ ']' ∉ word
  unmarked : word.head? ≠ some '/' ∧ word.head? ≠ some '@'
  whole : word.takeWhile (· != '=') = word ∧ word.dropWhile (· != '=') = []
  trimmed : Text.trim Text.isBlank word = word
  single : Style.blankWords word = [word]
  low : Text.lower word = word
  unreserved : word ∉ ["none".toList, "on".toList, "not".toList, "link".toList]
  feature : Feature.ofName? (String.ofList word) = none
  colour : argument? "rgb(" word = none

theorem isTagWord_red : IsTagWord "red".toList := by
  constructor <;> decide

theorem isTagWord_yellow : IsTagWord "yellow".toList := by
  constructor <;> decide

private theorem untilBracket?_append {body : List Char} (unbracketed : '[' ∉ body ∧ ']' ∉ body)
    (rest : List Char) : untilBracket? (body ++ ']' :: rest) = some body := by
  induction body with
  | nil => rfl
  | cons c body ih =>
    simp only [List.mem_cons, not_or] at unbracketed
    have inner := ih ⟨unbracketed.1.2, unbracketed.2.2⟩
    simp [untilBracket?, Ne.symm unbracketed.1.1, Ne.symm unbracketed.2.1, inner]

private theorem tagBody?_append {c : Char} {body : List Char} (starts : startsTag c = true)
    (unbracketed : '[' ∉ body ∧ ']' ∉ body) (rest : List Char) :
    tagBody? (c :: body ++ ']' :: rest) = some (c :: body) := by
  simp [tagBody?, starts, untilBracket?_append unbracketed]

/-- A tag that is not closed is not closed behind another bracket. -/
theorem untilBracket?_append_bracket {cs : List Char} (unclosed : untilBracket? cs = none)
    (rest : List Char) : untilBracket? (cs ++ '[' :: rest) = none := by
  induction cs with
  | nil => rfl
  | cons c cs ih =>
    simp only [untilBracket?] at unclosed
    simp only [List.cons_append, untilBracket?]
    split at unclosed
    · cases unclosed
    · rename_i inner
      rw [if_neg inner]
      split at unclosed
      · rename_i opening
        rw [if_pos opening]
      · rename_i inner
        rw [if_neg inner, ih (Option.map_eq_none_iff.mp unclosed)]
        rfl

private theorem tagBody?_append_bracket {cs : List Char} (untagged : tagBody? cs = none)
    (rest : List Char) : tagBody? (cs ++ '[' :: rest) = none := by
  cases cs with
  | nil => rfl
  | cons c cs =>
    simp only [tagBody?] at untagged
    simp only [List.cons_append, tagBody?]
    split at untagged
    · rename_i starts
      rw [if_pos starts, untilBracket?_append_bracket (Option.map_eq_none_iff.mp untagged)]
      rfl
    · rename_i starts
      rw [if_neg starts]

namespace IsTagWord

variable {word : List Char}

theorem read (tag : IsTagWord word) :
    Style.read word = .style { colour := some word } ∨ Style.read word = .unknown := by
  obtain ⟨known, judged⟩ : ∃ known, isColour word = .ok known := by
    unfold isColour
    rw [tag.colour]
    exact ⟨_, rfl⟩
  have reserved := tag.unreserved
  simp only [List.mem_cons, List.not_mem_nil, or_false, not_or] at reserved
  obtain ⟨none, on, not, link⟩ := reserved
  have added : Style.read word = (Style.add {} .any word).bind fun r =>
      Style.addAll r.1 r.2 [] := by
    rw [Style.read, tag.trimmed, if_neg (by rwa [beq_iff_eq]), tag.single]
    rfl
  rw [added, Style.add]
  simp only [tag.low, tag.feature, StyleReading.ifColour, judged]
  rw [if_neg (by rwa [beq_iff_eq]), if_neg (by rwa [beq_iff_eq]), if_neg (by rwa [beq_iff_eq])]
  cases known
  · exact .inr rfl
  · exact .inl rfl

theorem normalForm (tag : IsTagWord word) : normalForm word = .ok word := by
  rw [Console.normalForm]
  rcases tag.read with style | unknown
  · have words : Style.normalWords { colour := some word } = [word] := by
      simp [Style.normalWords]
    rw [style]
    simp [words]
  · rw [unknown, tag.trimmed, tag.low]

theorem definitionFlaw? (tag : IsTagWord word) : definitionFlaw? word = none := by
  rw [Console.definitionFlaw?]
  rcases tag.read with style | unknown
  · rw [style]
  · rw [unknown]

end IsTagWord

/-! ### Pieces -/

/-- Characters that belong to a tag are passed over. -/
theorem piecesFrom_skip (position : Nat) (cs rest : List Char) :
    piecesFrom position cs.length 0 [] (cs ++ rest)
      = piecesFrom (position + cs.length) 0 0 [] rest := by
  induction cs generalizing position with
  | nil => rfl
  | cons c cs ih =>
    have passed : piecesFrom position (cs.length + 1) 0 [] (c :: (cs ++ rest))
        = piecesFrom (position + 1) cs.length 0 [] (cs ++ rest) := by
      simp [piecesFrom]
    rw [List.length_cons, List.cons_append, passed, ih, Nat.add_right_comm, Nat.add_assoc]

section

variable (position escapes : Nat) (gathered : List Char)

private theorem piecesFrom_tag {body rest : List Char} (found : tagBody? rest = some body) :
    piecesFrom position 0 0 gathered ('[' :: rest) = textPiece gathered.reverse
      ++ .tag position body :: piecesFrom (position + 1) (body.length + 1) 0 [] rest := by
  simp [piecesFrom, found, textPiece, backslashes]

private theorem piecesFrom_backslash (rest : List Char) :
    piecesFrom position 0 escapes gathered ('\\' :: rest)
      = piecesFrom (position + 1) 0 (escapes + 1) gathered rest := by
  simp [piecesFrom]

private theorem piecesFrom_text {c : Char} {rest : List Char} (plain : c ≠ '\\')
    (untagged : c = '[' → tagBody? rest = none) :
    piecesFrom position 0 escapes gathered (c :: rest)
      = piecesFrom (position + 1) 0 0 (c :: (backslashes escapes ++ gathered)) rest := by
  have none : (if c == '[' then tagBody? rest else none) = none := by
    split
    · rename_i bracket
      exact untagged (beq_iff_eq.mp bracket)
    · rfl
  have printable : (c == '\\') = false := beq_false_of_ne plain
  simp only [piecesFrom, Nat.lt_irrefl, if_false, printable, Bool.false_eq_true, none]

end

/-- The pieces of a text in front of a closing tag. -/
theorem piecesFrom_unmarked {word cs : List Char} (unbracketed : '[' ∉ word ∧ ']' ∉ word)
    (unmarked : isUnmarked cs = true) (position escapes : Nat) (gathered : List Char)
    (escaping : escapes ≠ 0 → cs.head?.any (· != '[') = true) (behind : List Char) :
    ∃ place place', piecesFrom position 0 escapes gathered
        (cs ++ '[' :: '/' :: word ++ ']' :: behind)
      = textPiece (gathered.reverse ++ backslashes escapes ++ cs)
        ++ .tag place ('/' :: word) :: piecesFrom place' 0 0 [] behind := by
  induction cs generalizing position escapes gathered with
  | nil =>
    obtain rfl : escapes = 0 := by
      cases escapes with
      | zero => rfl
      | succ n => cases escaping (by simp)
    have body : tagBody? ('/' :: word ++ ']' :: behind) = some ('/' :: word) :=
      tagBody?_append (by decide) unbracketed behind
    have skipped := piecesFrom_skip (position + 1) ('/' :: word ++ [']']) behind
    rw [List.length_append, List.length_singleton] at skipped
    refine ⟨position, position + 1 + (('/' :: word).length + 1), ?_⟩
    rw [List.nil_append, List.cons_append, piecesFrom_tag position gathered body, ← skipped]
    simp [backslashes]
  | cons c rest ih =>
    simp only [isUnmarked, Bool.and_eq_true] at unmarked
    obtain ⟨⟨bracket, backslash⟩, others⟩ := unmarked
    by_cases escape : c = '\\'
    · subst escape
      obtain ⟨place, place', ended⟩ := ih others (position + 1) (escapes + 1) gathered
        fun _ => by simpa using backslash
      refine ⟨place, place', ?_⟩
      rw [List.cons_append, List.cons_append, piecesFrom_backslash, ended]
      simp [backslashes, List.replicate_succ']
    · have untagged : c = '[' → tagBody? (rest ++ '[' :: '/' :: word ++ ']' :: behind) = none := by
        rintro rfl
        have none : tagBody? rest = none := by simpa using bracket
        rw [List.append_assoc]
        exact tagBody?_append_bracket none _
      obtain ⟨place, place', ended⟩ := ih others (position + 1) 0
        (c :: (backslashes escapes ++ gathered)) fun some => absurd rfl some
      refine ⟨place, place', ?_⟩
      rw [List.cons_append, List.cons_append, piecesFrom_text position escapes gathered escape
        untagged, ended]
      simp [backslashes]

/-- No bracket of an unmarked text has a backslash before it. -/
theorem bareBrackets_of_isUnmarked {cs : List Char} (unmarked : isUnmarked cs = true) :
    bareBrackets cs = cs := by
  induction cs with
  | nil => rfl
  | cons c rest ih =>
    simp only [isUnmarked, Bool.and_eq_true] at unmarked
    obtain ⟨⟨-, backslash⟩, others⟩ := unmarked
    rw [bareBrackets, ih others]
    rintro rest rfl rfl
    simp at backslash

/-! ### Reading -/

private theorem addText_of_isUnmarked {cs : List Char} (unmarked : isUnmarked cs = true)
    (r : Reading) :
    r.addText cs = { r with chars := r.chars ++ shownChars cs } := by
  rw [Reading.addText, bareBrackets_of_isUnmarked unmarked]
  rfl

private theorem foldlM_textPiece {cs : List Char} (unmarked : isUnmarked cs = true) (r : Reading) :
    (textPiece cs).foldlM Reading.add r = .ok { r with chars := r.chars ++ shownChars cs } := by
  unfold textPiece
  split
  · rename_i empty
    have nothing : r.chars ++ shownChars [] = r.chars := List.append_nil r.chars
    rw [List.isEmpty_iff.mp empty, nothing]
    rfl
  · rw [List.foldlM_cons, Reading.add, addText_of_isUnmarked unmarked]
    rfl

section

variable {word : List Char} (tag : IsTagWord word)
include tag

private theorem addTag_word (r : Reading) (position : Nat) : r.addTag position word
    = .ok { r with openTags := ⟨r.chars.length, word, none⟩ :: r.openTags } := by
  obtain ⟨opening, -⟩ := tag.unmarked
  rw [Reading.addTag, tag.whole.1, tag.whole.2]
  split
  · exact absurd rfl opening
  · rw [Reading.addOpening, tag.normalForm]
    rfl

private theorem addTag_slash (r : Reading) (place : Nat) :
    r.addTag place ('/' :: word) = r.addClosing place ('/' :: word) word := by
  have whole : ('/' :: word).takeWhile (· != '=') = '/' :: word := by
    simp [tag.whole.1]
  rw [Reading.addTag, whole]
  rfl

/-- A word closes the latest open tag of its name. -/
theorem closed_word (r : Reading) (place : Nat) (body : List Char) : r.closed place body word
    = match r.openTags.find? (·.name == word) with
      | some opened => .ok opened
      | none => .error (.unmatchedClosing ("[" ++ String.ofList body ++ "]") place) := by
  have full : word.isEmpty = false := by
    cases word with
    | nil => cases tag.starts
    | cons c rest => rfl
  simp only [Reading.closed, tag.trimmed, full, Bool.false_eq_true, if_false]
  exact Result.bind_of_ok tag.normalForm

private theorem addTag_closing (chars : List Char) (place start : Nat) :
    ({ chars, openTags := [⟨start, word, none⟩] } : Reading).addTag place ('/' :: word)
      = .ok { chars, spans := [⟨start, chars.length, none⟩] } := by
  have styled : OpenTag.isHandler ⟨start, word, none⟩ = false :=
    beq_false_of_ne tag.unmarked.2
  have ended : OpenTag.close ⟨start, word, none⟩ chars.length
      = .ok ⟨start, chars.length, none⟩ := by
    simp [OpenTag.close, styled, OpenTag.span, OpenTag.definition, tag.definitionFlaw?]
  have found : [(⟨start, word, none⟩ : OpenTag)].find? (·.name == word)
      = some ⟨start, word, none⟩ := by
    simp
  rw [addTag_slash tag, Reading.addClosing, closed_word tag]
  simp only [found]
  rw [Result.bind_of_ok rfl, Result.bind_of_ok ended]
  simp [Reading.without]
  rfl

/-- A closing tag is a problem if no tag of its name is open. -/
theorem addTag_unmatched {r : Reading} (unopened : ∀ opened ∈ r.openTags, opened.name ≠ word)
    (place : Nat) : ∃ p, r.addTag place ('/' :: word) = .error p := by
  have missing : r.openTags.find? (·.name == word) = none := by
    simpa [List.find?_eq_none] using unopened
  refine ⟨.unmatchedClosing ("[" ++ String.ofList ('/' :: word) ++ "]") place, ?_⟩
  rw [addTag_slash tag, Reading.addClosing, closed_word tag, missing]
  rfl

/-- The pieces of a text that has one unmarked text between an opening and a closing tag. -/
theorem pieces_between {word' cs : List Char} (unbracketed : '[' ∉ word' ∧ ']' ∉ word')
    (unmarked : isUnmarked cs = true) (behind : List Char) :
    ∃ place place', pieces ('[' :: word ++ ']' :: cs ++ '[' :: '/' :: word' ++ ']' :: behind)
      = .tag 0 word :: textPiece cs
        ++ .tag place ('/' :: word') :: piecesFrom place' 0 0 [] behind := by
  obtain ⟨place, place', ended⟩ := piecesFrom_unmarked unbracketed unmarked (1 + (word.length + 1))
    0 [] (fun some => absurd rfl some) behind
  refine ⟨place, place', ?_⟩
  have body : tagBody? (word ++ ']' :: (cs ++ '[' :: '/' :: word' ++ ']' :: behind))
      = some word := by
    have starts := tag.starts
    have unbracketed := tag.unbracketed
    cases word with
    | nil => cases starts
    | cons c rest =>
      simp only [List.mem_cons, not_or] at unbracketed
      exact tagBody?_append starts ⟨unbracketed.1.2, unbracketed.2.2⟩ _
  have skipped := piecesFrom_skip 1 (word ++ [']']) (cs ++ '[' :: '/' :: word' ++ ']' :: behind)
  rw [List.length_append, List.length_singleton, ended] at skipped
  simp only [List.append_assoc, List.cons_append] at body skipped ⊢
  simp only [List.nil_append] at body skipped ⊢
  rw [pieces, piecesFrom_tag 0 [] body, Nat.zero_add, skipped]
  simp [textPiece, backslashes]

/-- An unmarked text inside one tag is shown as it is. -/
theorem shownText_tagged {s : String} {cs : List Char} (unmarked : isUnmarked cs = true)
    (text : s.toList = '[' :: word ++ ']' :: cs ++ '[' :: '/' :: word ++ [']']) :
    shownText s = .ok ⟨shownChars cs, [⟨0, (shownChars cs).length, none⟩]⟩ := by
  have bracket : s.toList.contains '[' = true := by
    simp [text]
  obtain ⟨place, place', cut⟩ := pieces_between tag tag.unbracketed unmarked []
  have none : piecesFrom place' 0 0 [] [] = [] := rfl
  rw [shownText, if_pos bracket, text, cut, none, List.cons_append, List.foldlM_cons, Reading.add,
    Result.bind_of_ok (addTag_word tag _ 0), List.foldlM_append,
    Result.bind_of_ok (foldlM_textPiece unmarked _), List.foldlM_cons, Reading.add,
    Result.bind_of_ok (addTag_closing tag _ place _)]
  simp [Reading.text]
  rfl

/-- A text in a tag that is closed by another word cannot be shown. -/
theorem shownText_unmatched {s : String} {word' cs behind : List Char} (other : IsTagWord word')
    (different : word ≠ word') (unmarked : isUnmarked cs = true)
    (text : s.toList = '[' :: word ++ ']' :: cs ++ '[' :: '/' :: word' ++ ']' :: behind) :
    ∃ p, shownText s = .error p := by
  have bracket : s.toList.contains '[' = true := by
    simp [text]
  obtain ⟨place, place', cut⟩ := pieces_between tag other.unbracketed unmarked behind
  obtain ⟨p, failed⟩ := addTag_unmatched other (r := ⟨shownChars cs, [⟨0, word, none⟩], []⟩)
    (by simpa using different) place
  refine ⟨p, ?_⟩
  rw [shownText, if_pos bracket, text, cut, List.cons_append, List.foldlM_cons, Reading.add,
    Result.bind_of_ok (addTag_word tag _ 0), List.foldlM_append,
    Result.bind_of_ok (foldlM_textPiece unmarked _), List.foldlM_cons, Reading.add]
  exact congrArg (· >>= _) (congrArg (· >>= _) failed)

end

end BucketStore.Console
