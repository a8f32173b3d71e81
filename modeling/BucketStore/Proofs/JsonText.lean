import BucketStore.Json.Reader
import BucketStore.Json.Writer
import BucketStore.Proofs.Utf8

/-!
Written strings and numbers read back. A character outside printable ASCII is written as one UTF-16
unit or two; reading joins them again, and stops at the closing quote, as no other quote stands
bare.
-/

namespace BucketStore

/-- Characters from the blank to the tilde: no line breaks, and nothing outside ASCII. -/
def Printable (cs : List Char) : Prop :=
  ∀ c ∈ cs, 0x20 ≤ c.toNat ∧ c.toNat < 0x7f

instance (cs : List Char) : Decidable (Printable cs) :=
  decidable_of_iff (cs.all fun c => 0x20 ≤ c.toNat && c.toNat < 0x7f) (by simp [Printable])

theorem Printable.append {cs ds : List Char} (left : Printable cs) (right : Printable ds) :
    Printable (cs ++ ds) :=
  List.forall_mem_append.mpr ⟨left, right⟩

/-! ### Numerals -/

namespace Text

theorem hexDigit?_digitChar {d : Nat} (small : d < 16) : hexDigit? d.digitChar = some d := by
  revert d
  decide

private theorem hexValue_concat (cs : List Char) (c : Char) :
    hexValue (cs ++ [c]) = 16 * hexValue cs + (hexDigit? c).getD 0 := by
  simp [hexValue]

private theorem hexValue_toDigits (n : Nat) : hexValue (Nat.toDigits 16 n) = n := by
  induction n using Nat.strongRecOn with
  | ind n ih =>
    rw [Nat.toDigits_eq_if (by decide)]
    split
    next small => simp [hexValue, hexDigit?_digitChar small]
    next large =>
      rw [hexValue_concat, ih (n / 16) (by omega),
        hexDigit?_digitChar (Nat.mod_lt n (by decide)), Option.getD_some]
      omega

private theorem hexDigit?_of_mem_toDigits {n : Nat} {c : Char} (member : c ∈ Nat.toDigits 16 n) :
    ∃ d, hexDigit? c = some d := by
  induction n using Nat.strongRecOn with
  | ind n ih =>
    rw [Nat.toDigits_eq_if (by decide)] at member
    split at member
    next small =>
      obtain rfl := List.mem_singleton.mp member
      exact ⟨n, hexDigit?_digitChar small⟩
    next large =>
      obtain earlier | last := List.mem_append.mp member
      · exact ih (n / 16) (by omega) earlier
      · obtain rfl := List.mem_singleton.mp last
        exact ⟨_, hexDigit?_digitChar (Nat.mod_lt n (by decide))⟩

theorem hexValue_hexDigits (width n : Nat) : hexValue (hexDigits width n) = n := by
  have zeros (k : Nat) : hexValue (List.replicate k '0') = 0 := by
    induction k with
    | zero => rfl
    | succ k ih => rw [List.replicate_succ', hexValue_concat, ih]; rfl
  have start : ((List.replicate (width - (Nat.toDigits 16 n).length) '0').foldl
      (fun n c => 16 * n + (hexDigit? c).getD 0) 0) = 0 := zeros _
  unfold hexDigits hexValue
  rw [List.foldl_append, start]
  exact hexValue_toDigits n

theorem hexDigit?_of_mem_hexDigits {width n : Nat} {c : Char} (member : c ∈ hexDigits width n) :
    ∃ d, hexDigit? c = some d := by
  obtain zero | digit := List.mem_append.mp member
  · exact ⟨0, (List.mem_replicate.mp zero).2 ▸ rfl⟩
  · exact hexDigit?_of_mem_toDigits digit

theorem length_hexDigits {width n : Nat} (positive : 0 < width) (small : n < Nat.pow 16 width) :
    (hexDigits width n).length = width := by
  have short := (Nat.length_toDigits_le_iff (by decide : 1 < 16) positive).mpr small
  simp only [hexDigits, List.length_append, List.length_replicate]
  omega

end Text

theorem isAsciiDigit_of_mem_decimalDigits {n : Nat} {c : Char} (member : c ∈ decimalDigits n) :
    isAsciiDigit c = true := by
  have digit := Nat.isDigit_of_mem_toDigits (by decide) (by decide) member
  have range : 48 ≤ c.toNat ∧ c.toNat ≤ 57 := by
    simp only [Char.isDigit, ge_iff_le, Bool.and_eq_true, decide_eq_true_eq,
      UInt32.le_iff_toNat_le] at digit
    exact digit
  simp [isAsciiDigit, Text.asciiDigit?, range]

theorem naturalText?_decimalDigits (n : Nat) : naturalText? (decimalDigits n) = some n := by
  have digits : (decimalDigits n).all isAsciiDigit = true :=
    List.all_eq_true.mpr fun _ => isAsciiDigit_of_mem_decimalDigits
  have full : (decimalDigits n).isEmpty = false := by
    simp [decimalDigits]
  have value : digitsValue (decimalDigits n) = n := by
    have read := Nat.ofDigitChars_toDigits (n := n) (b := 10) (by decide) (by decide)
    rwa [Nat.ofDigitChars_eq_foldl] at read
  simp [naturalText?, digits, full, value]

theorem naturalText?_intText {i : Int} (positive : 0 ≤ i) :
    naturalText? (intText i).toList = some i.toNat := by
  obtain ⟨n, rfl⟩ := Int.eq_ofNat_of_zero_le positive
  have unsigned : ¬((n : Int) < 0) := by omega
  simp [intText, withSign, unsigned, naturalText?_decimalDigits]

/-! ### Strings -/

namespace Json

theorem readUnit?_hexDigits {n : Nat} (small : n < 0x10000) (rest : List Char) :
    readUnit? (Text.hexDigits 4 n ++ rest) = some (n, rest) := by
  have length : (Text.hexDigits 4 n).length = 4 := Text.length_hexDigits (by decide) small
  have digits : (Text.hexDigits 4 n).all (Text.hexDigit? · |>.isSome) = true := by
    refine List.all_eq_true.mpr fun c member => ?_
    obtain ⟨d, digit⟩ := Text.hexDigit?_of_mem_hexDigits member
    simp [digit]
  simp [readUnit?, List.take_left' length, List.drop_left' length, length, digits,
    Text.hexValue_hexDigits]

/-- A character is no surrogate. -/
theorem toNat_lt_or_gt (c : Char) : c.toNat < 0xd800 ∨ 0xdfff < c.toNat ∧ c.toNat < 0x110000 :=
  c.valid

/-- A unit that is a character by itself stays alone. -/
theorem joinUnits_single (c : Char) (rest : List Char) : joinUnits c.toNat rest = (c, rest) := by
  have apart := toNat_lt_or_gt c
  have high : ¬ (0xd800 ≤ c.toNat ∧ c.toNat < 0xdc00) := by omega
  have surrogate : ¬ (0xd800 ≤ c.toNat ∧ c.toNat < 0xe000) := by omega
  simp only [joinUnits, if_neg high, if_neg surrogate, Char.ofNat_toNat]

/-- A first and a second surrogate are joined. -/
theorem joinUnits_surrogates {high low : Nat} (first : 0xd800 ≤ high ∧ high < 0xdc00)
    (second : 0xdc00 ≤ low ∧ low < 0xe000) (rest : List Char) :
    joinUnits high (unitEscape low ++ rest)
      = (Char.ofNat (0x10000 + (high - 0xd800) * 0x400 + (low - 0xdc00)), rest) := by
  have small : low < 0x10000 := by omega
  simp only [joinUnits, if_pos first, unitEscape, List.cons_append, readUnit?_hexDigits small,
    if_pos second]

/-- The two units of a character beyond the first plane. -/
theorem joinUnits_pair {c : Char} (beyond : 0x10000 ≤ c.toNat) (rest : List Char) :
    joinUnits (0xd800 + (c.toNat - 0x10000) / 0x400)
      (unitEscape (0xdc00 + (c.toNat - 0x10000) % 0x400) ++ rest) = (c, rest) := by
  have last := toNat_lt_or_gt c
  obtain ⟨n, above⟩ : ∃ n, c.toNat = 0x10000 + n := Nat.exists_eq_add_of_le beyond
  have shifted : c.toNat - 0x10000 = n := by omega
  rw [shifted, joinUnits_surrogates (by omega) (by omega)]
  have whole : 0x10000 + (0xd800 + n / 0x400 - 0xd800) * 0x400 + (0xdc00 + n % 0x400 - 0xdc00)
      = c.toNat := by omega
  rw [whole, Char.ofNat_toNat]

private theorem readString?_unitEscape {n : Nat} (small : n < 0x10000) (fuel : Nat)
    (read rest : List Char) :
    readString? (fuel + 1) read (unitEscape n ++ rest)
      = readString? fuel ((joinUnits n rest).1 :: read) (joinUnits n rest).2 := by
  rw [unitEscape, List.cons_append, List.cons_append, readString?.eq_4,
    readUnit?_hexDigits small]

/-- The written form of a character is read as that character. -/
theorem readString?_escaped (c : Char) (fuel : Nat) (read rest : List Char) :
    readString? (fuel + 1) read (escaped c ++ rest) = readString? fuel (c :: read) rest := by
  unfold escaped
  -- Seven characters have short escapes.
  iterate 7
    split
    next is => rw [eq_of_beq is]; rfl
  rename_i noQuote noSlash _ _ _ _ _
  dsimp only
  split
  · have quote : c ≠ '"' := fun same => noQuote (beq_iff_eq.mpr same)
    have slash : c ≠ '\\' := fun same => noSlash (beq_iff_eq.mpr same)
    rw [List.cons_append, List.nil_append, readString?.eq_6 _ _ _ _ quote
      (fun _ same _ => slash same) (fun _ _ same _ => slash same)]
  split
  next small => rw [readString?_unitEscape small, joinUnits_single]
  next large =>
    have last := toNat_lt_or_gt c
    rw [List.append_assoc, readString?_unitEscape (by omega), joinUnits_pair (by omega)]

/-- A written string is read up to its closing quote. -/
theorem readString?_written {cs : List Char} {fuel : Nat} (enough : cs.length < fuel)
    (read rest : List Char) :
    readString? fuel read (cs.flatMap escaped ++ '"' :: rest)
      = some (String.ofList (read.reverse ++ cs), rest) := by
  induction cs generalizing fuel read with
  | nil =>
    rw [List.flatMap_nil, List.nil_append, readString?.eq_3 _ _ _ (Nat.ne_of_gt enough),
      List.append_nil]
  | cons c cs ih =>
    obtain ⟨fuel, rfl⟩ : ∃ n, fuel = n + 1 := Nat.exists_eq_succ_of_ne_zero (by omega)
    rw [List.flatMap_cons, List.append_assoc, readString?_escaped,
      ih (Nat.lt_of_succ_lt_succ enough), List.reverse_cons, List.append_assoc]
    rfl

theorem toList_string (s : String) :
    (string s).toList = '"' :: (s.toList.flatMap escaped ++ ['"']) := by
  simp [string]

private theorem escaped_ne_nil (c : Char) : escaped c ≠ [] := by
  simp only [escaped, unitEscape]
  repeat' split
  all_goals exact List.cons_ne_nil _ _

/-- Every character of a string is written as at least one. -/
theorem length_string (s : String) : s.toList.length + 2 ≤ (string s).toList.length := by
  have grows (cs : List Char) : cs.length ≤ (cs.flatMap escaped).length := by
    induction cs with
    | nil => exact Nat.le_refl 0
    | cons c cs ih =>
      have positive := List.length_pos_iff.mpr (escaped_ne_nil c)
      rw [List.flatMap_cons, List.length_append, List.length_cons]
      omega
  rw [toList_string, List.length_cons, List.length_append]
  exact Nat.succ_le_succ (Nat.succ_le_succ (grows s.toList))

end Json

end BucketStore
