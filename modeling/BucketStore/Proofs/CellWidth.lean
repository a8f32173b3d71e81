import BucketStore.Console.Wrap
import BucketStore.Proofs.Trimming

/-!
Widths of texts. A text takes no less cells than each of its beginnings, and no less than two parts
of it together, unless the first of them ends in a joiner. Words end in blanks, so that a line which
fits is not broken.
-/

namespace BucketStore.Console

private theorem cells_le_two (c : Char) : cells c ≤ 2 := by
  unfold cells
  split
  · exact Nat.le_succ 1
  · split
    · exact Nat.zero_le 2
    · split
      · exact Nat.le_refl 2
      · exact Nat.le_succ 1

/-! ### Parts -/

section

variable (base? : Option Char) (rest : List Char)

theorem widthBehind_joiner (d : Char) :
    widthBehind base? (joiner :: d :: rest) = widthBehind base? rest := by
  conv => lhs; unfold widthBehind
  simp

private theorem widthBehind_joiner_last : widthBehind base? [joiner] = 0 := by
  conv => lhs; unfold widthBehind
  simp

theorem widthBehind_mark :
    widthBehind base? (emojiMark :: rest) = growth base? + widthBehind none rest := by
  have other : (emojiMark == joiner) = false := by decide
  conv => lhs; unfold widthBehind
  simp [other]

theorem widthBehind_cons {c : Char} (unjoined : c ≠ joiner) (unmarked : c ≠ emojiMark) :
    widthBehind base? (c :: rest)
      = cells c + widthBehind (if cells c = 0 then base? else some c) rest := by
  conv => lhs; unfold widthBehind
  simp [unjoined, unmarked]

end

theorem width_single_le_two {c : Char} (unjoined : c ≠ joiner) (unmarked : c ≠ emojiMark) :
    width [c] ≤ 2 := by
  rw [width, widthBehind_cons _ _ unjoined unmarked, widthBehind]
  exact cells_le_two c

/-- What holds of a text behind a character holds by the way it is measured. -/
theorem widthBehind_induction {P : Option Char → List Char → Prop} (nil : ∀ base?, P base? [])
    (last : ∀ base?, P base? [joiner])
    (joined : ∀ base? d rest, P base? rest → P base? (joiner :: d :: rest))
    (marked : ∀ base? rest, P none rest → P base? (emojiMark :: rest))
    (cons : ∀ base? c rest, c ≠ joiner → c ≠ emojiMark →
      P (if cells c = 0 then base? else some c) rest → P base? (c :: rest))
    (base? : Option Char) (cs : List Char) : P base? cs := by
  fun_induction widthBehind base? cs with
  | case1 base? => exact nil base?
  | case2 base? c isJoiner =>
    rw [beq_iff_eq.mp isJoiner]
    exact last base?
  | case3 base? c isJoiner d more ih =>
    rw [beq_iff_eq.mp isJoiner]
    exact joined base? d more ih
  | case4 base? c rest _ isMark ih =>
    rw [beq_iff_eq.mp isMark]
    exact marked base? rest ih
  | case5 base? c rest unjoined unmarked ih =>
    exact cons base? c rest (by simpa using unjoined) (by simpa using unmarked) ih

/-- The character before a text can only add to its cells. -/
theorem widthBehind_none_le (base? : Option Char) (cs : List Char) :
    widthBehind none cs ≤ widthBehind base? cs := by
  induction base?, cs using widthBehind_induction with
  | nil base? => exact Nat.le_refl 0
  | last base? => rw [widthBehind_joiner_last]; exact Nat.zero_le _
  | joined base? d rest ih => rwa [widthBehind_joiner, widthBehind_joiner]
  | marked base? rest ih =>
    rw [widthBehind_mark, widthBehind_mark]
    exact Nat.add_le_add_right (Nat.zero_le _) _
  | cons base? c rest unjoined unmarked ih =>
    rw [widthBehind_cons _ _ unjoined unmarked, widthBehind_cons _ _ unjoined unmarked]
    split
    · rename_i flat
      rw [if_pos flat] at ih
      exact Nat.add_le_add_left ih _
    · exact Nat.le_refl _

/-- A beginning of a text takes no more cells than the text. -/
theorem widthBehind_le_append (base? : Option Char) (cs more : List Char) :
    widthBehind base? cs ≤ widthBehind base? (cs ++ more) := by
  induction base?, cs using widthBehind_induction with
  | nil base? => exact Nat.zero_le _
  | last base? => rw [widthBehind_joiner_last]; exact Nat.zero_le _
  | joined base? d rest ih =>
    rw [List.cons_append, List.cons_append, widthBehind_joiner, widthBehind_joiner]
    exact ih
  | marked base? rest ih =>
    rw [List.cons_append, widthBehind_mark, widthBehind_mark]
    exact Nat.add_le_add_left ih _
  | cons base? c rest unjoined unmarked ih =>
    rw [List.cons_append, widthBehind_cons _ _ unjoined unmarked,
      widthBehind_cons _ _ unjoined unmarked]
    exact Nat.add_le_add_left ih _

private theorem width_le_of_prefix {cs ds : List Char} (begins : cs <+: ds) :
    width cs ≤ width ds := by
  obtain ⟨more, rfl⟩ := begins
  exact widthBehind_le_append none cs more

theorem getLast?_ne_of_cons {c d : Char} {rest : List Char}
    (other : (c :: rest).getLast? ≠ some d) :
    rest.getLast? ≠ some d := by
  cases rest with
  | nil => exact nofun
  | cons e rest => simpa using other

/-- Two parts take no more cells than the whole, unless the first one ends in a joiner. -/
theorem widthBehind_append_le {base? : Option Char} {cs : List Char}
    (unjoined : cs.getLast? ≠ some joiner) (more : List Char) :
    widthBehind base? cs + width more ≤ widthBehind base? (cs ++ more) := by
  induction base?, cs using widthBehind_induction with
  | nil base? =>
    rw [List.nil_append, widthBehind, Nat.zero_add]
    exact widthBehind_none_le base? more
  | last base? => exact absurd rfl unjoined
  | joined base? d rest ih =>
    rw [List.cons_append, List.cons_append, widthBehind_joiner, widthBehind_joiner]
    exact ih (getLast?_ne_of_cons (getLast?_ne_of_cons unjoined))
  | marked base? rest ih =>
    rw [List.cons_append, widthBehind_mark, widthBehind_mark, Nat.add_assoc]
    exact Nat.add_le_add_left (ih (getLast?_ne_of_cons unjoined)) _
  | cons base? c rest single unmarked ih =>
    rw [List.cons_append, widthBehind_cons _ _ single unmarked,
      widthBehind_cons _ _ single unmarked, Nat.add_assoc]
    exact Nat.add_le_add_left (ih (getLast?_ne_of_cons unjoined)) _

/-- Spaces behind a text add their number, unless a joiner draws the first one in. -/
theorem widthBehind_append_spaces {base? : Option Char} {cs : List Char}
    (unjoined : cs.getLast? ≠ some joiner) (n : Nat) :
    widthBehind base? (cs ++ spaces n) = widthBehind base? cs + n := by
  induction base?, cs using widthBehind_induction with
  | nil base? => rw [List.nil_append, widthBehind_spaces, widthBehind, Nat.zero_add]
  | last base? => exact absurd rfl unjoined
  | joined base? d rest ih =>
    rw [List.cons_append, List.cons_append, widthBehind_joiner, widthBehind_joiner]
    exact ih (getLast?_ne_of_cons (getLast?_ne_of_cons unjoined))
  | marked base? rest ih =>
    rw [List.cons_append, widthBehind_mark, widthBehind_mark, Nat.add_assoc,
      ih (getLast?_ne_of_cons unjoined)]
  | cons base? c rest single unmarked ih =>
    rw [List.cons_append, widthBehind_cons _ _ single unmarked,
      widthBehind_cons _ _ single unmarked, Nat.add_assoc, ih (getLast?_ne_of_cons unjoined)]

/-- A character with cells of its own, which belongs to no other one. -/
structure IsUpright (c : Char) : Prop where
  unjoined : c ≠ joiner
  unmarked : c ≠ emojiMark
  celled : cells c ≠ 0

private theorem widthBehind_upright {c : Char} (upright : IsUpright c) (base? : Option Char)
    (rest : List Char) : widthBehind base? (c :: rest) = width (c :: rest) := by
  rw [width, widthBehind_cons _ _ upright.unjoined upright.unmarked,
    widthBehind_cons _ _ upright.unjoined upright.unmarked, if_neg upright.celled,
    if_neg upright.celled]

theorem width_upright_pos {c : Char} (upright : IsUpright c) (rest : List Char) :
    0 < width (c :: rest) := by
  rw [width, widthBehind_cons _ _ upright.unjoined upright.unmarked]
  exact Nat.add_pos_left (Nat.pos_of_ne_zero upright.celled) _

/-- Spaces in front of a text add their number, unless the text begins with what belongs to a
character before it. -/
theorem widthBehind_spaces_append (base? : Option Char) (n : Nat) {c : Char}
    (upright : IsUpright c) (rest : List Char) :
    widthBehind base? (spaces n ++ c :: rest) = n + width (c :: rest) := by
  induction n generalizing base? with
  | zero => rw [Nat.zero_add, ← widthBehind_upright upright base? rest]; rfl
  | succ n ih =>
    have step : spaces (n + 1) = ' ' :: spaces n := List.replicate_succ
    rw [step, List.cons_append, widthBehind_space, ih, Nat.add_comm n 1, Nat.add_assoc]

/-! ### Words -/

/-- A word reaches to the end of a text, or it ends in a blank. -/
theorem wordLength?_eq_some {cs : List Char} {n : Nat} (found : wordLength? cs = some n) :
    cs.drop n = [] ∨ ∃ c, (cs.take n).getLast? = some c ∧ Text.isBlank c = true := by
  let body := cs.dropWhile Text.isBlank
  let tail := body.dropWhile (!Text.isBlank ·)
  let rest := tail.dropWhile Text.isBlank
  let word := cs.takeWhile Text.isBlank ++ body.takeWhile (!Text.isBlank ·)
    ++ tail.takeWhile Text.isBlank
  have whole : word ++ rest = cs := by
    simp only [word, rest, List.append_assoc, tail, body, List.takeWhile_append_dropWhile]
  have count : n = word.length := by
    have length : cs.length = word.length + rest.length := by rw [← whole, List.length_append]
    have measured : wordLength? cs
        = if body.isEmpty then none else some (cs.length - rest.length) :=
      rfl
    rw [measured] at found
    split at found
    · cases found
    · have same := Option.some.inj found
      omega
  rw [← whole, count, List.drop_left, List.take_left]
  cases behind : tail with
  | nil => exact .inl (by simp [rest, behind])
  | cons c others =>
    right
    have blank : Text.isBlank c = true := by
      have first : (body.dropWhile (!Text.isBlank ·)).head? = some c := by
        rw [show body.dropWhile (!Text.isBlank ·) = c :: others from behind]
        rfl
      simpa using Text.head_dropWhile (p := (!Text.isBlank ·)) first
    cases last : (tail.takeWhile Text.isBlank).getLast? with
    | none =>
      rw [List.getLast?_eq_none_iff, behind, List.takeWhile_cons_of_pos blank] at last
      cases last
    | some d =>
      refine ⟨d, ?_, List.mem_takeWhile_imp (List.mem_of_getLast? last)⟩
      rw [List.getLast?_append, last]
      rfl

/-- A line that fits has no breaks. -/
theorem breaksFrom_eq_nil (overflow : Overflow) {total used : Nat} {cs : List Char}
    (fits : used + width cs ≤ total) (start fuel : Nat) :
    breaksFrom overflow total start used (wordsFrom fuel cs) = [] := by
  induction fuel generalizing start used cs with
  | zero => rfl
  | succ fuel ih =>
    rw [wordsFrom]
    split
    · rename_i n found
      have word : width (Text.trimEnd Text.isBlank (cs.take n)) ≤ width cs := by
        exact width_le_of_prefix ((Text.prefix_trimEnd _ _).trans (List.take_prefix n cs))
      have both : width (cs.take n) + width (cs.drop n) ≤ width cs := by
        rcases wordLength?_eq_some found with last | ⟨c, ends, blank⟩
        · rw [last]
          exact width_le_of_prefix (List.take_prefix n cs)
        · have unjoined : (cs.take n).getLast? ≠ some joiner := by
            rw [ends]
            rintro ⟨⟩
            exact absurd blank (by decide)
          have parts : width (cs.take n) + width (cs.drop n)
              ≤ width (cs.take n ++ cs.drop n) :=
            widthBehind_append_le unjoined (cs.drop n)
          rwa [List.take_append_drop] at parts
      unfold breaksFrom
      dsimp only
      rw [if_pos (by omega)]
      exact ih (by omega) _
    · rfl

end BucketStore.Console
