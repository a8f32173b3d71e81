import BucketStore.Number.Show
import BucketStore.Proofs.JsonText

/-!
Texts of numbers. They consist of digits, signs and points, or of letters for what is no number, so
that nothing in them is taken for markup.
-/

namespace BucketStore

private theorem not_mem_decimalDigits {c : Char} (mark : isAsciiDigit c = false) (n : Nat) :
    c ∉ decimalDigits n := by
  intro member
  rw [isAsciiDigit_of_mem_decimalDigits member] at mark
  cases mark

private theorem mem_groupThousands {separator c : Char} {cs : List Char}
    (member : c ∈ groupThousands separator cs) : c = separator ∨ c ∈ cs := by
  unfold groupThousands at member
  generalize cs.length = n at member
  induction cs generalizing n with
  | nil => cases n <;> exact .inr member
  | cons d rest ih =>
    cases n with
    | zero => exact .inr member
    | succ n =>
      rw [groupThousands.go] at member
      split at member
      · rcases List.mem_cons.mp member with rfl | member
        · exact .inr List.mem_cons_self
        · rcases List.mem_cons.mp member with rfl | member
          · exact .inl rfl
          · exact (ih n member).imp_right (List.mem_cons_of_mem d)
      · rcases List.mem_cons.mp member with rfl | member
        · exact .inr List.mem_cons_self
        · exact (ih n member).imp_right (List.mem_cons_of_mem d)

private theorem bracket_not_mem_commas {cs : List Char} (plain : '[' ∉ cs) : '[' ∉ commas cs := by
  intro member
  rcases mem_groupThousands member with comma | inside
  · cases comma
  · exact plain inside

theorem bracket_not_mem_withSign {cs : List Char} (plain : '[' ∉ cs) (negative : Bool) :
    '[' ∉ withSign negative cs := by
  cases negative <;> simp [withSign, plain]

private theorem bracket_not_mem_decimalDigits (n : Nat) : '[' ∉ decimalDigits n :=
  not_mem_decimalDigits (by decide) n

theorem bracket_not_mem_intText (i : Int) : '[' ∉ (intText i).toList := by
  rw [intText, String.toList_ofList]
  exact bracket_not_mem_withSign (bracket_not_mem_decimalDigits _) _

theorem bracket_not_mem_groupedIntText (i : Int) : '[' ∉ (groupedIntText i).toList := by
  rw [groupedIntText, String.toList_ofList]
  exact bracket_not_mem_withSign (bracket_not_mem_commas (bracket_not_mem_decimalDigits _)) _

private theorem bracket_not_mem_joinPoint {whole places : List Char} (first : '[' ∉ whole)
    (last : '[' ∉ places) : '[' ∉ joinPoint (whole, places) := by
  unfold joinPoint
  split
  · exact first
  · simp [first, last]

/-- Digits on both sides of a point stay without brackets, if their grouping adds none. -/
theorem bracket_not_mem_fixedText {group : List Char → List Char}
    (grouped : ∀ {cs}, '[' ∉ cs → '[' ∉ group cs) (places : Nat) (x : Dyadic64) :
    '[' ∉ fixedText group places x := by
  have digits := bracket_not_mem_decimalDigits (x.fixed places)
  have padded : '[' ∉ List.replicate (places + 1 - (decimalDigits (x.fixed places)).length) '0'
      ++ decimalDigits (x.fixed places) := by
    simp [digits]
  simp only [fixedText, splitPlaces, List.splitAt_eq]
  apply bracket_not_mem_joinPoint
  · exact grouped fun member => padded (List.mem_of_mem_take member)
  · exact fun member => padded (List.mem_of_mem_drop member)

private theorem bracket_not_mem_layoutFloat {layout : Dyadic64 → List Char}
    (plain : ∀ x, '[' ∉ layout x) (f : Float) : '[' ∉ layoutFloat layout f := by
  rw [layoutFloat]
  split
  · exact bracket_not_mem_withSign (plain _) _
  · exact bracket_not_mem_withSign (by simp) _
  · simp

theorem bracket_not_mem_groupedPlacesText (places : Nat) (f : Float) :
    '[' ∉ (groupedPlacesText places f).toList := by
  rw [groupedPlacesText, String.toList_ofList]
  exact bracket_not_mem_layoutFloat (bracket_not_mem_fixedText bracket_not_mem_commas places) f

theorem bracket_not_mem_placesText (places : Nat) (f : Float) :
    '[' ∉ (placesText places f).toList := by
  rw [placesText, String.toList_ofList]
  exact bracket_not_mem_layoutFloat (bracket_not_mem_fixedText id places) f

end BucketStore
