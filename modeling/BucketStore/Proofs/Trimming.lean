import BucketStore.Text.Blank
import Mathlib.Data.List.TakeWhile

/-!
Trimming: what is cut off a text are characters of one class, and neither end of what is left has
one.
-/

namespace BucketStore.Text

variable {p : Char → Bool}

theorem head_dropWhile {cs : List Char} {c : Char} (first : c ∈ (cs.dropWhile p).head?) :
    p c = false := by
  have stopped := List.head?_dropWhile_not p cs
  rw [Option.mem_def.mp first] at stopped
  exact stopped

theorem takeWhile_of_head {cs : List Char} (first : ∀ c ∈ cs.head?, p c = false) :
    cs.takeWhile p = [] := by
  cases cs with
  | nil => rfl
  | cons c rest => exact List.takeWhile_cons_of_neg (by simp [first c rfl])

theorem dropWhile_of_head {cs : List Char} (first : ∀ c ∈ cs.head?, p c = false) :
    cs.dropWhile p = cs := by
  cases cs with
  | nil => rfl
  | cons c rest => exact List.dropWhile_cons_of_neg (by simp [first c rfl])

/-- Nothing is cut off behind a character of another class. -/
theorem trimEnd_of_last {cs : List Char} (solid : ∀ c ∈ cs.getLast?, p c = false) :
    trimEnd p cs = cs := by
  have back : cs.reverse.dropWhile p = cs.reverse := by
    apply dropWhile_of_head
    rwa [List.head?_reverse]
  rw [trimEnd, back, List.reverse_reverse]

theorem trimEnd_append_blank (cs : List Char) {blanks : List Char} (blank : ∀ c ∈ blanks, p c) :
    trimEnd p (cs ++ blanks) = trimEnd p cs := by
  have reversed : ∀ c ∈ blanks.reverse, p c := fun c found => blank c (List.mem_reverse.mp found)
  rw [trimEnd, List.reverse_append, List.dropWhile_append_of_pos reversed, trimEnd]

theorem trimEnd_append_cons (cs rest : List Char) {c : Char} (kept : p c = false) :
    trimEnd p (cs ++ c :: rest) = cs ++ c :: trimEnd p rest := by
  have stays : (c :: cs.reverse).dropWhile p = c :: cs.reverse :=
    List.dropWhile_cons_of_neg (by simp [kept])
  rw [trimEnd, List.reverse_append, List.reverse_cons, List.append_assoc, List.singleton_append,
    List.dropWhile_append]
  split
  · rename_i gone
    rw [stays, trimEnd, List.isEmpty_iff.mp gone]
    simp
  · rw [trimEnd]
    simp

theorem trim_cons {c : Char} (kept : p c = false) (cs : List Char) :
    trim p (c :: cs) = c :: trimEnd p cs := by
  rw [trim, List.dropWhile_cons_of_neg (by simp [kept]), ← List.nil_append (c :: cs),
    trimEnd_append_cons _ _ kept, List.nil_append]

/-- What is cut off the end are blanks. -/
theorem trimEnd_append (p : Char → Bool) (cs : List Char) :
    ∃ blanks, (∀ c ∈ blanks, p c) ∧ trimEnd p cs ++ blanks = cs := by
  refine ⟨(cs.reverse.takeWhile p).reverse, fun c found => ?_, ?_⟩
  · exact List.mem_takeWhile_imp (List.mem_reverse.mp found)
  · rw [trimEnd, ← List.reverse_append, List.takeWhile_append_dropWhile, List.reverse_reverse]

theorem trim_append_blank (cs : List Char) {blanks : List Char} (blank : ∀ c ∈ blanks, p c) :
    trim p (cs ++ blanks) = trim p cs := by
  rw [trim, List.dropWhile_append, trim]
  split
  · rename_i gone
    rw [List.dropWhile_eq_nil_iff.mpr blank, List.isEmpty_iff.mp gone]
  · rw [trimEnd_append_blank _ blank]

theorem trimEnd_of_solid {cs : List Char} (solid : ∀ c ∈ cs, p c = false) : trimEnd p cs = cs := by
  have back : cs.reverse.dropWhile p = cs.reverse :=
    dropWhile_of_head fun c last => solid c (List.mem_reverse.mp (List.mem_of_mem_head? last))
  rw [trimEnd, back, List.reverse_reverse]

theorem trim_of_solid {cs : List Char} (solid : ∀ c ∈ cs, p c = false) : trim p cs = cs := by
  rw [trim, dropWhile_of_head fun c first => solid c (List.mem_of_mem_head? first),
    trimEnd_of_solid solid]

theorem trim_trimEnd (p : Char → Bool) (cs : List Char) : trim p (trimEnd p cs) = trim p cs := by
  obtain ⟨blanks, blank, whole⟩ := trimEnd_append p cs
  rw [← trim_append_blank _ blank, whole]

theorem trimEnd_trimEnd (p : Char → Bool) (cs : List Char) :
    trimEnd p (trimEnd p cs) = trimEnd p cs := by
  obtain ⟨blanks, blank, whole⟩ := trimEnd_append p cs
  rw [← trimEnd_append_blank _ blank, whole]

theorem last_trimEnd {cs : List Char} {c : Char} (last : c ∈ (trimEnd p cs).getLast?) :
    p c = false := by
  rw [trimEnd, List.getLast?_reverse] at last
  exact head_dropWhile last

private theorem trim_dropWhile (p : Char → Bool) (cs : List Char) :
    trim p (cs.dropWhile p) = trim p cs := by
  rw [trim, dropWhile_of_head fun _ => head_dropWhile, trim]

theorem trim_trim (p : Char → Bool) (cs : List Char) :
    trim p (trim p cs) = trim p cs :=
  (trim_trimEnd p _).trans (trim_dropWhile p cs)

theorem prefix_trimEnd (p : Char → Bool) (cs : List Char) : trimEnd p cs <+: cs := by
  obtain ⟨blanks, -, whole⟩ := trimEnd_append p cs
  exact ⟨blanks, whole⟩

theorem trim_subset (p : Char → Bool) (cs : List Char) : trim p cs ⊆ cs :=
  fun _ found => (List.dropWhile_suffix p).subset ((prefix_trimEnd p _).subset found)

theorem solid_of_trim {p : Char → Bool} {cs rest : List Char} {c : Char}
    (shape : trim p cs = c :: rest) : p c = false := by
  obtain ⟨blanks, whole⟩ := prefix_trimEnd p (cs.dropWhile p)
  rw [← trim, shape] at whole
  have first : c ∈ (cs.dropWhile p).head? := by
    rw [← whole]
    rfl
  exact head_dropWhile first

end BucketStore.Text
