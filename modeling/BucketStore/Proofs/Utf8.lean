import BucketStore.Text.Utf8

/-!
Reading the bytes of a text gives the text back. Bytes that are not zero are read as characters
other than NUL, and encode them.
-/

namespace BucketStore.Text

theorem toNat_ofNat_byte {n : Nat} (small : n < 256) : (UInt8.ofNat n).toNat = n := by
  simpa using Nat.mod_eq_of_lt small

/-- A continuation byte within its range adds six bits. -/
theorem continuations_byte {range : Nat × Nat} {n : Nat} (value read more : Nat) (rest : List UInt8)
    (small : n < 64) (within : range.1 ≤ n + 128 ∧ n + 128 ≤ range.2) :
    continuations range value read (more + 1) (UInt8.ofNat (n + 128) :: rest)
      = continuations (0x80, 0xbf) (value * 64 + n) (read + 1) more rest := by
  have byte : (UInt8.ofNat (n + 128)).toNat = n + 128 := toNat_ofNat_byte (by omega)
  have six : (n + 128) % 64 = n := by omega
  rw [continuations, byte, if_pos within, six]

/-- A second byte makes no overlong form, no surrogate and no character beyond the last. -/
theorem secondRange_within {first second : Nat}
    (fits : 0x80 ≤ second ∧ second ≤ 0xbf ∧ (first = 0xe0 → 0xa0 ≤ second) ∧
      (first = 0xed → second ≤ 0x9f) ∧ (first = 0xf0 → 0x90 ≤ second) ∧
      (first = 0xf4 → second ≤ 0x8f)) :
    (secondRange first).1 ≤ second ∧ second ≤ (secondRange first).2 := by
  unfold secondRange
  repeat' split
  all_goals exact ⟨by dsimp only; omega, by dsimp only; omega⟩

/-- A first byte and the continuations that it asks for make a character. -/
theorem utf8Step_of_ok {b : UInt8} {rest : List UInt8} {first : Nat} (n lead value : Nat)
    (byte : b.toNat = first) (length : utf8Length first = n + 2)
    (mark : first % Nat.pow 2 (5 - n) = lead)
    (read : continuations (secondRange first) lead 1 (n + 1) rest = .ok value) :
    utf8Step b rest = .char (Char.ofNat value) (n + 2) := by
  simp only [utf8Step, byte, length, mark, read]

/-- The bytes of a character are read as that character, whatever follows them. -/
theorem utf8Step_encodeChar (c : Char) (tail : List UInt8) :
    ∃ b rest, encodeChar c ++ tail = b :: rest ∧ utf8Step b rest = .char c (encodeChar c).length ∧
      rest.drop ((encodeChar c).length - 1) = tail := by
  have valid : c.val.toNat < 0xd800 ∨ 0xdfff < c.val.toNat ∧ c.val.toNat < 0x110000 := c.valid
  have whole : Char.ofNat c.val.toNat = c := Char.ofNat_toNat c
  unfold encodeChar String.utf8EncodeChar
  generalize c.val.toNat = v at valid whole
  dsimp only
  split
  · refine ⟨_, _, rfl, ?_, rfl⟩
    have one : utf8Length v = 1 := if_pos (by omega)
    simp only [utf8Step, toNat_ofNat_byte (show v < 256 by omega), one, whole]
    rfl
  split
  · refine ⟨_, _, rfl, ?_, rfl⟩
    rw [utf8Step_of_ok 0 (v / 64) v (toNat_ofNat_byte (by omega)), whole]
    · rfl
    · rw [utf8Length, if_neg, if_neg, if_pos] <;> omega
    · change (v / 64 % 32 + 192) % 32 = v / 64
      omega
    · refine (continuations_byte _ _ _ _ (by omega) (secondRange_within (by omega))).trans ?_
      exact congrArg Except.ok (by omega)
  split
  · refine ⟨_, _, rfl, ?_, rfl⟩
    rw [utf8Step_of_ok 1 (v / 4096) v (toNat_ofNat_byte (by omega)),
      whole]
    · rfl
    · rw [utf8Length, if_neg, if_neg, if_neg, if_pos] <;> omega
    · change (v / 4096 % 16 + 224) % 16 = v / 4096
      omega
    · refine (continuations_byte _ _ _ _ (by omega) (secondRange_within (by omega))).trans ?_
      refine (continuations_byte _ _ _ _ (by omega) (by dsimp only; omega)).trans ?_
      exact congrArg Except.ok (by omega)
  · refine ⟨_, _, rfl, ?_, rfl⟩
    rw [utf8Step_of_ok 2 (v / 262144) v (toNat_ofNat_byte (by omega)),
      whole]
    · rfl
    · rw [utf8Length, if_neg, if_neg, if_neg, if_neg, if_pos] <;> omega
    · change (v / 262144 % 8 + 240) % 8 = v / 262144
      omega
    · refine (continuations_byte _ _ _ _ (by omega) (secondRange_within (by omega))).trans ?_
      refine (continuations_byte _ _ _ _ (by omega) (by dsimp only; omega)).trans ?_
      refine (continuations_byte _ _ _ _ (by omega) (by dsimp only; omega)).trans ?_
      exact congrArg Except.ok (by omega)

/-- Reading goes on behind the bytes of a whole text. -/
theorem decodeUtf8_go (cs : List Char) (fuel position : Nat) (read : List Char)
    (enough : (cs.flatMap encodeChar).length ≤ fuel) :
    decodeUtf8.go fuel position read (cs.flatMap encodeChar)
      = .ok (String.ofList (read.reverse ++ cs)) := by
  induction cs generalizing fuel position read with
  | nil => cases fuel <;> simp [decodeUtf8.go]
  | cons c cs ih =>
    obtain ⟨b, rest, bytes, step, behind⟩ := utf8Step_encodeChar c (cs.flatMap encodeChar)
    rw [List.flatMap_cons, bytes] at enough ⊢
    cases fuel with
    | zero => cases enough
    | succ fuel =>
      have shorter : (cs.flatMap encodeChar).length ≤ fuel := by
        rw [← behind, List.length_drop]
        rw [List.length_cons] at enough
        omega
      simp only [decodeUtf8.go, step, behind]
      rw [ih fuel _ _ shorter, List.reverse_cons, List.append_assoc]
      rfl

theorem decodeUtf8_encodeUtf8 (text : String) : decodeUtf8 (encodeUtf8 text) = .ok text := by
  rw [decodeUtf8, encodeUtf8, decodeUtf8_go _ _ _ _ (Nat.le_refl _)]
  exact congrArg Except.ok String.ofList_toList

/-- A continuation byte that is read adds six bits. -/
theorem continuations_of_ok {range : Nat × Nat} {value read n result : Nat} {bytes : List UInt8}
    (h : continuations range value read (n + 1) bytes = .ok result) :
    ∃ b : Nat, ∃ rest, range.1 ≤ b ∧ b ≤ range.2 ∧
      continuations (0x80, 0xbf) (value * 64 + b % 64) (read + 1) n rest = .ok result := by
  cases bytes with
  | nil => cases h
  | cons b rest =>
    rw [continuations] at h
    split at h
    next within => exact ⟨b.toNat, rest, within.1, within.2, h⟩
    · cases h

/-- Where a second byte lies, by its first. -/
theorem secondRange_cases (first : Nat) :
    0x80 ≤ (secondRange first).1 ∧ (secondRange first).2 ≤ 0xbf ∧
      (first = 0xe0 → (secondRange first).1 = 0xa0) ∧
      (first = 0xed → (secondRange first).2 = 0x9f) ∧
      (first = 0xf0 → (secondRange first).1 = 0x90) ∧
      (first = 0xf4 → (secondRange first).2 = 0x8f) := by
  unfold secondRange
  repeat' split
  all_goals simp_all

private theorem utf8Length_cases {b n : Nat} (h : utf8Length b = n + 2) :
    (n = 0 ∧ 0xc2 ≤ b ∧ b < 0xe0) ∨ (n = 1 ∧ 0xe0 ≤ b ∧ b < 0xf0) ∨
      (n = 2 ∧ 0xf0 ≤ b ∧ b < 0xf5) := by
  unfold utf8Length at h
  repeat' split at h
  all_goals omega

/-- More than one byte encodes a character beyond ASCII. -/
theorem character_of_continuations {first n value : Nat} {rest : List UInt8}
    (length : utf8Length first = n + 2)
    (read : continuations (secondRange first) (first % Nat.pow 2 (5 - n)) 1 (n + 1) rest
      = .ok value) :
    0x80 ≤ value ∧ value.isValidChar := by
  have second := secondRange_cases first
  unfold Nat.isValidChar
  obtain ⟨rfl, low, high⟩ | ⟨rfl, low, high⟩ | ⟨rfl, low, high⟩ := utf8Length_cases length
  · rw [show Nat.pow 2 (5 - 0) = 32 from rfl] at read
    obtain ⟨b, _, above, below, read⟩ := continuations_of_ok read
    have whole := Except.ok.inj read
    omega
  · rw [show Nat.pow 2 (5 - 1) = 16 from rfl] at read
    obtain ⟨b, _, above, below, read⟩ := continuations_of_ok read
    obtain ⟨b', _, above', below', read⟩ := continuations_of_ok read
    have whole := Except.ok.inj read
    dsimp only at above' below'
    omega
  · rw [show Nat.pow 2 (5 - 2) = 8 from rfl] at read
    obtain ⟨b, _, above, below, read⟩ := continuations_of_ok read
    obtain ⟨b', _, above', below', read⟩ := continuations_of_ok read
    obtain ⟨b'', _, above'', below'', read⟩ := continuations_of_ok read
    have whole := Except.ok.inj read
    dsimp only at above' below' above'' below''
    omega

private theorem toNat_ofNat_of_valid {n : Nat} (valid : n.isValidChar) :
    (Char.ofNat n).toNat = n := by
  rw [Char.ofNat, dif_pos valid]
  rfl

private theorem ofNat_ne_nul {n : Nat} (valid : n.isValidChar) (positive : n ≠ 0) :
    Char.ofNat n ≠ '\x00' := by
  intro nul
  have value := congrArg Char.toNat nul
  rw [toNat_ofNat_of_valid valid] at value
  exact positive value

/-- Only a zero byte is read as NUL. -/
theorem utf8Step_ne_nul {b : UInt8} {rest : List UInt8} {c : Char} {n : Nat}
    (step : utf8Step b rest = .char c n) (nonzero : b ≠ 0) : c ≠ '\x00' := by
  have positive : b.toNat ≠ 0 := fun zero => nonzero (UInt8.toNat.inj zero)
  unfold utf8Step at step
  dsimp only at step
  split at step
  · cases step
  next one =>
    obtain ⟨rfl, -⟩ := Utf8Step.char.inj step
    have small : b.toNat < 256 := b.toNat_lt
    exact ofNat_ne_nul (Or.inl (by omega)) positive
  next length =>
    split at step
    next value read =>
      obtain ⟨rfl, -⟩ := Utf8Step.char.inj step
      obtain ⟨beyond, valid⟩ := character_of_continuations length read
      exact ofNat_ne_nul valid (by omega)
    · cases step

/-- Bytes that are not zero are read as a text without NUL. -/
theorem decodeUtf8_go_nulFree {fuel position : Nat} {read : List Char} {bytes : List UInt8}
    {s : String} (free : '\x00' ∉ read) (nonzero : 0 ∉ bytes)
    (h : decodeUtf8.go fuel position read bytes = .ok s) : '\x00' ∉ s.toList := by
  induction fuel generalizing position read bytes with
  | zero =>
    have whole : s = String.ofList read.reverse := by
      cases bytes <;> exact (Except.ok.inj h).symm
    rw [whole, String.toList_ofList, List.mem_reverse]
    exact free
  | succ fuel ih =>
    cases bytes with
    | nil =>
      rw [← Except.ok.inj h, String.toList_ofList, List.mem_reverse]
      exact free
    | cons b rest =>
      rw [List.mem_cons, not_or] at nonzero
      rw [decodeUtf8.go] at h
      split at h
      next c n step =>
        have other := utf8Step_ne_nul step (Ne.symm nonzero.1)
        refine ih ?_ (fun member => nonzero.2 (List.mem_of_mem_drop member)) h
        rw [List.mem_cons, not_or]
        exact ⟨Ne.symm other, free⟩
      · cases h

theorem decodeUtf8_nulFree {bytes : List UInt8} {s : String} (nonzero : 0 ∉ bytes)
    (h : decodeUtf8 bytes = .ok s) : '\x00' ∉ s.toList :=
  decodeUtf8_go_nulFree List.not_mem_nil nonzero h

theorem encodeChar_nonzero {c : Char} (other : c ≠ '\x00') : 0 ∉ encodeChar c := by
  have positive : c.val.toNat ≠ 0 := fun zero => other (Char.ext (UInt32.toNat.inj zero))
  have valid : c.val.toNat < 0xd800 ∨ 0xdfff < c.val.toNat ∧ c.val.toNat < 0x110000 := c.valid
  have byte {n : Nat} (small : n < 256) (nonzero : n ≠ 0) : (0 : UInt8) ≠ UInt8.ofNat n :=
    fun zero => nonzero ((toNat_ofNat_byte small).symm.trans (congrArg UInt8.toNat zero).symm)
  unfold encodeChar String.utf8EncodeChar
  generalize c.val.toNat = v at valid positive
  dsimp only
  repeat' split
  all_goals
    simp only [List.mem_cons, List.not_mem_nil, or_false, not_or]
    and_intros
    all_goals exact byte (by omega) (by omega)

end BucketStore.Text
