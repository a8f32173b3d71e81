import BucketStore.Calendar.Stamp
import BucketStore.Proofs.Calendar
import BucketStore.Proofs.JsonText
import BucketStore.Proofs.Rounding

/-!
What a stamp says. The quotient by a thousand is rounded twice, to binary64 and to the microsecond,
and neither rounding leaves the second that a timestamp lies in, as long as its year can be named;
all other timestamps have no stamp. A stamp is read back as the second that it was made of.
-/

namespace BucketStore.Stamp

/-! ### The second of a timestamp -/

/-- A fraction between the first and the last microsecond of a second stays between them. -/
theorem microsOfFraction_between {n d : Nat} (pos : 0 < d) (low : d ≤ n * 1000000)
    (high : n * 1000000 ≤ 999999 * d) :
    1 ≤ microsOfFraction n d ∧ microsOfFraction n d ≤ 999999 := by
  let product := Dyadic64.nearest (n * 1000000) d
  have pos' : (0 : ℚ) < d := by exact_mod_cast pos
  have first : (Dyadic64.nearest 1 1).value = (1 : Nat) :=
    Dyadic64.nearest_natCast (by decide) (by decide) (by decide)
  have last : (Dyadic64.nearest 999999 1).value = (999999 : Nat) :=
    Dyadic64.nearest_natCast (by decide) (by decide) (by decide)
  have least : ((1 : Nat) : ℚ) ≤ product.value := by
    rw [← first]
    refine Dyadic64.nearest_mono (by decide) pos ?_
    rw [Nat.cast_one, div_one, one_le_div pos']
    exact_mod_cast low
  have most : product.value ≤ (999999 : Nat) := by
    rw [← last]
    refine Dyadic64.nearest_mono pos (by decide) ?_
    rw [Nat.cast_one, div_one, div_le_iff₀ pos']
    exact_mod_cast high
  have rounded := roundHalfEven_halfEven product.ratio.1 product.ratio_snd_pos
  rw [Dyadic64.ratio_div] at rounded
  exact ⟨(HalfEven.natCast 1).mono rounded least, rounded.mono (.natCast 999999) most⟩

/-- The second of a number of seconds without a fraction. -/
theorem secondOf_of_whole {x : Dyadic64} {k : Nat} (negative : Bool)
    (whole : x.ratio.1 = k * x.ratio.2) :
    secondOf negative x = if negative then -(k : Int) else k := by
  have pos := x.ratio_snd_pos
  have quotient : x.ratio.1 / x.ratio.2 = k := by rw [whole, Nat.mul_div_cancel _ pos]
  have rest : x.ratio.1 % x.ratio.2 = 0 := by rw [whole, Nat.mul_mod_left]
  have micros : microsOfFraction 0 x.ratio.2 = 0 := by
    simp [microsOfFraction, Dyadic64.nearest, Dyadic64.ratio, roundHalfEven]
  simp [secondOf, quotient, rest, micros]

/-- The second of a number of seconds that is not close to a whole one. -/
theorem secondOf_of_between {x : Dyadic64} {k : Nat} (negative : Bool)
    (low : (k * 1000000 + 1) * x.ratio.2 ≤ x.ratio.1 * 1000000)
    (high : x.ratio.1 * 1000000 ≤ (k * 1000000 + 999999) * x.ratio.2) :
    secondOf negative x = if negative then -(k : Int) - 1 else k := by
  have pos := x.ratio_snd_pos
  simp only [secondOf]
  generalize x.ratio.1 = n at *
  generalize x.ratio.2 = d at *
  rw [Nat.add_mul, Nat.mul_right_comm] at low high
  have quotient : n / d = k := by
    apply Nat.div_eq_of_lt_le
    · omega
    · rw [Nat.add_mul]
      omega
  have rest := Nat.mod_add_div n d
  rw [quotient, Nat.mul_comm d] at rest
  have start : d ≤ n % d * 1000000 := by omega
  have stop : n % d * 1000000 ≤ 999999 * d := by lia
  obtain ⟨least, most⟩ := microsOfFraction_between pos start stop
  rw [quotient]
  split
  · rw [if_neg (by omega), if_neg (by omega)]
  · rw [if_neg (by omega)]

/-- A quotient of usual size that is no whole number is so far from one that rounding does not
reach its neighbours' microseconds. -/
theorem nearest_thousandths {n : Nat} (small : n < 2 ^ 48) (broken : n % 1000 ≠ 0) :
    (n / 1000 : Nat) + 1 / 1000000 ≤ (Dyadic64.nearest n 1000).value ∧
      (Dyadic64.nearest n 1000).value ≤ (n / 1000 : Nat) + 999999 / 1000000 := by
  have split : (n : ℚ) = 1000 * (n / 1000 : Nat) + (n % 1000 : Nat) := by
    exact_mod_cast (Nat.div_add_mod n 1000).symm
  have small' : (n : ℚ) < 281474976710656 := by exact_mod_cast small
  have low : (1 : ℚ) ≤ (n % 1000 : Nat) := by
    exact_mod_cast Nat.one_le_iff_ne_zero.mpr broken
  have high : ((n % 1000 : Nat) : ℚ) ≤ 999 := by
    exact_mod_cast Nat.le_of_lt_succ (Nat.mod_lt n (by decide))
  have whole : (0 : ℚ) ≤ (n / 1000 : Nat) := by positivity
  have normal : (2 : ℚ) ^ (-1022 : Int) ≤ n / (1000 : Nat) := by
    calc (2 : ℚ) ^ (-1022 : Int) ≤ 2 ^ (-10 : Int) :=
          zpow_le_zpow_right₀ (by norm_num) (by norm_num)
      _ ≤ 1 / 1000 := by norm_num
      _ ≤ n / (1000 : Nat) := by
        push_cast
        linarith
  have error := Dyadic64.nearest_error (by decide) normal
  rw [abs_le] at error
  push_cast at error
  norm_num at error
  constructor <;> linarith [error.1, error.2]

/-- The second of a timestamp is the floor of its quotient by a thousand: below 2⁴⁸ milliseconds
rounding never reaches another second. -/
theorem secondOf_nearest {millis : Int} (small : millis.natAbs < 2 ^ 48) :
    secondOf (millis < 0) (Dyadic64.nearest millis.natAbs 1000) = millis / 1000 := by
  have pos : (0 : ℚ) < (Dyadic64.nearest millis.natAbs 1000).ratio.2 := by
    exact_mod_cast Dyadic64.ratio_snd_pos _
  have value := Dyadic64.ratio_div (Dyadic64.nearest millis.natAbs 1000)
  rw [div_eq_iff pos.ne'] at value
  by_cases whole : millis.natAbs % 1000 = 0
  · rw [Dyadic64.nearest_natCast (k := millis.natAbs / 1000) (by decide) (by omega) (by omega)]
      at value
    rw [secondOf_of_whole _ (by exact_mod_cast value)]
    simp only [decide_eq_true_eq]
    split <;> omega
  · obtain ⟨low, high⟩ := nearest_thousandths small whole
    generalize Dyadic64.nearest millis.natAbs 1000 = x at *
    have low' := mul_le_mul_of_nonneg_right low pos.le
    have high' := mul_le_mul_of_nonneg_right high pos.le
    rw [← value] at low' high'
    have above : ((millis.natAbs / 1000 : Nat) * 1000000 + 1 : ℚ) * x.ratio.2
        ≤ x.ratio.1 * 1000000 := by
      linarith
    have below : (x.ratio.1 * 1000000 : ℚ)
        ≤ ((millis.natAbs / 1000 : Nat) * 1000000 + 999999) * x.ratio.2 := by
      linarith
    rw [secondOf_of_between _ (by exact_mod_cast above) (by exact_mod_cast below)]
    simp only [decide_eq_true_eq]
    split <;> omega

/-- A number of seconds with a large whole part is in a second that is at least as far off. -/
theorem secondOf_of_far {x : Dyadic64} {k : Nat} (far : k * x.ratio.2 ≤ x.ratio.1) :
    secondOf true x ≤ -k ∧ k ≤ secondOf false x := by
  have whole : k ≤ x.ratio.1 / x.ratio.2 := (Nat.le_div_iff_mul_le x.ratio_snd_pos).mpr far
  simp only [secondOf, if_true, Bool.false_eq_true, if_false]
  generalize x.ratio.1 / x.ratio.2 = quotient at *
  constructor
  · repeat' split
    all_goals omega
  · split <;> omega

/-- From 2⁴⁸ milliseconds on a timestamp is at least 281474976710 seconds off. -/
theorem far_of_large {n : Nat} (large : 2 ^ 48 ≤ n) :
    281474976710 * (Dyadic64.nearest n 1000).ratio.2 ≤ (Dyadic64.nearest n 1000).ratio.1 := by
  have pos : (0 : ℚ) < (Dyadic64.nearest n 1000).ratio.2 := by
    exact_mod_cast Dyadic64.ratio_snd_pos _
  have kept : (Dyadic64.nearest 281474976710 1).value = (281474976710 : Nat) :=
    Dyadic64.nearest_natCast (by decide) (by decide) (by decide)
  have ordered : ((281474976710 : Nat) : ℚ) / (1 : Nat) ≤ n / (1000 : Nat) := by
    have large' : (281474976710656 : ℚ) ≤ n := by exact_mod_cast large
    push_cast
    linarith
  have far := Dyadic64.nearest_mono (by decide) (by decide) ordered
  rw [kept, ← Dyadic64.ratio_div, le_div_iff₀ pos] at far
  exact_mod_cast far

/-! ### Which timestamps have a stamp -/

/-- The instant lies in a year that can be named. -/
def InCalendar (millis : Int) : Prop :=
  Date.toDays ⟨1, 1, 1⟩ * 86400000 ≤ millis ∧ millis < Date.toDays ⟨10000, 1, 1⟩ * 86400000

instance (millis : Int) : Decidable (InCalendar millis) :=
  inferInstanceAs (Decidable (_ ∧ _))

private theorem inCalendar_iff (millis : Int) :
    InCalendar millis ↔ -62135596800000 ≤ millis ∧ millis < 253402300800000 := by
  have first : Date.toDays ⟨1, 1, 1⟩ = -719162 := by decide
  have last : Date.toDays ⟨10000, 1, 1⟩ = 2932897 := by decide
  rw [InCalendar, first, last]
  omega

/-- The year of a second is one that can be named. -/
theorem year_bounds_iff (second : Int) :
    (1 ≤ (Date.ofDays (Int.fdiv second 86400)).year
        ∧ (Date.ofDays (Int.fdiv second 86400)).year ≤ 9999)
      ↔ -62135596800 ≤ second ∧ second < 253402300800 := by
  have first : Date.toDays ⟨1, 1, 1⟩ = -719162 := by decide
  have last : Date.toDays ⟨10000, 1, 1⟩ = 2932897 := by decide
  have reached := Date.le_year_ofDays_iff 1 (Int.fdiv second 86400)
  have passed := Date.le_year_ofDays_iff 10000 (Int.fdiv second 86400)
  rw [first] at reached
  rw [last] at passed
  have days := Int.fdiv_eq_ediv_of_nonneg second (by decide : (0 : Int) ≤ 86400)
  omega

private theorem ofSecondChecked_eq {second : Int}
    (inYears : -62135596800 ≤ second ∧ second < 253402300800) :
    ofSecondChecked second = .ok (ofSecond second) := by
  obtain ⟨first, last⟩ := (year_bounds_iff second).mpr inYears
  rw [ofSecondChecked, if_neg (by omega)]
  dsimp only
  rw [if_neg (by omega), if_neg (by omega)]

private theorem inYears_of_ok {second : Int} {text : String}
    (shown : ofSecondChecked second = .ok text) :
    -62135596800 ≤ second ∧ second < 253402300800 := by
  rw [← year_bounds_iff]
  simp only [ofSecondChecked] at shown
  repeat' split at shown
  · cases shown
  · cases shown
  · cases shown
  · omega

private theorem not_overflows_nearest {n : Nat} (small : n < 2 ^ 48) :
    (Dyadic64.nearest n 1000).overflows = false := by
  have pos := (Dyadic64.nearest n 1000).ratio_snd_pos
  have pos' : (0 : ℚ) < (Dyadic64.nearest n 1000).ratio.2 := by exact_mod_cast pos
  have kept : (Dyadic64.nearest (2 ^ 48) 1).value = (2 ^ 48 : Nat) :=
    Dyadic64.nearest_natCast (by decide) (by decide) (by decide)
  have ordered : (n : ℚ) / (1000 : Nat) ≤ (2 ^ 48 : Nat) / (1 : Nat) := by
    have small' : (n : ℚ) ≤ (2 ^ 48 : Nat) := by exact_mod_cast small.le
    push_cast at small' ⊢
    linarith
  have near := Dyadic64.nearest_mono (by decide) (by decide) ordered
  rw [kept, ← Dyadic64.ratio_div, div_le_iff₀ pos'] at near
  have near' : (Dyadic64.nearest n 1000).ratio.1 ≤ 2 ^ 48 * (Dyadic64.nearest n 1000).ratio.2 := by
    exact_mod_cast near
  have short (bits : Nat) (many : 48 < bits) : (Dyadic64.nearest n 1000).ratio.1
      < (Dyadic64.nearest n 1000).ratio.2 * 2 ^ bits := by
    rw [Nat.mul_comm]
    exact near'.trans_lt
      (Nat.mul_lt_mul_of_pos_right (Nat.pow_lt_pow_right (by decide) many) pos)
  simp only [Dyadic64.overflows, Nat.shiftLeft_eq, decide_eq_false_iff_not, Nat.not_le]
  apply short
  decide

/-- The stamp of a timestamp in a year that can be named is that of its second. -/
theorem ofMillis_eq {millis : Int} (inYears : InCalendar millis) :
    ofMillis millis = .ok (ofSecond (millis / 1000)) := by
  obtain ⟨first, last⟩ := (inCalendar_iff millis).mp inYears
  have small : millis.natAbs < 2 ^ 48 := by omega
  simp only [ofMillis, not_overflows_nearest small, Bool.false_eq_true, if_false, ofSeconds,
    secondOf_nearest small]
  exact ofSecondChecked_eq (by omega)

/-- Other timestamps have none. -/
theorem inCalendar_of_ok {millis : Int} {text : String} (shown : ofMillis millis = .ok text) :
    InCalendar millis := by
  rw [inCalendar_iff]
  simp only [ofMillis, ofSeconds] at shown
  split at shown
  · cases shown
  · have inYears := inYears_of_ok shown
    by_cases small : millis.natAbs < 2 ^ 48
    · rw [secondOf_nearest small] at inYears
      omega
    · obtain ⟨below, above⟩ := secondOf_of_far (far_of_large (Nat.not_lt.mp small))
      by_cases negative : millis < 0
      · simp only [negative, decide_true] at inYears
        omega
      · simp only [negative, decide_false] at inYears
        omega

/-! ### Reading a stamp -/

/-- The date that is written, if there is such a date. -/
def readDate? (cs : List Char) : Option Date :=
  match cs.splitOn '-' with
  | [year, month, day] => do
    let date : Date := ⟨← naturalText? year, ← naturalText? month, ← naturalText? day⟩
    if date.isNameable then some date else none
  | _ => none

/-- The second of the day that is written, if there is such a time of day. -/
def readClock? (cs : List Char) : Option Nat :=
  match cs.splitOn ':' with
  | [hour, minute, second] => do
    let hour ← naturalText? hour
    let minute ← naturalText? minute
    let second ← naturalText? second
    if hour < 24 ∧ minute < 60 ∧ second < 60 then some (hour * 3600 + minute * 60 + second)
    else none
  | _ => none

/-- The second, counted from the epoch, of a written date and time of day. -/
def read? (text : String) : Option Int :=
  match text.toList.splitOn ' ' with
  | [date, clock] => do
    let date ← readDate? date
    let clock ← readClock? clock
    some (date.toDays * 86400 + clock)
  | _ => none

private theorem naturalText?_zero_cons {cs : List Char} {n : Nat}
    (read : naturalText? cs = some n) :
    naturalText? ('0' :: cs) = some n := by
  have zero : isAsciiDigit '0' = true := by decide
  simp only [naturalText?, Option.ite_none_right_eq_some, Bool.and_eq_true] at read
  simpa [naturalText?, digitsValue, zero, read.1.2] using read.2

theorem naturalText?_twoDigits (n : Nat) : naturalText? (twoDigits n).toList = some n := by
  have read := naturalText?_decimalDigits n
  simp only [twoDigits, String.toList_ofList]
  split
  · exact naturalText?_zero_cons read
  · exact read

/-- Digits stand between the marks of a stamp, not among them. -/
theorem not_mem_of_naturalText? {cs : List Char} {n : Nat} (read : naturalText? cs = some n)
    {c : Char} (mark : isAsciiDigit c = false) : c ∉ cs := by
  intro member
  simp only [naturalText?, Option.ite_none_right_eq_some, Bool.and_eq_true, List.all_eq_true]
    at read
  rw [read.1.2 c member] at mark
  cases mark

private theorem splitOn_mark {cs ds : List Char} {mark : Char} (first : mark ∉ cs)
    (second : mark ∉ ds) :
    (cs ++ mark :: ds).splitOn mark = [cs, ds] := by
  have split := [cs, ds].splitOn_intercalate mark (by simp [first, second]) (by simp)
  simpa [List.intercalate] using split

private theorem splitOn_marks {cs ds es : List Char} {mark : Char} (first : mark ∉ cs)
    (second : mark ∉ ds)
    (third : mark ∉ es) : (cs ++ mark :: (ds ++ mark :: es)).splitOn mark = [cs, ds, es] := by
  have split := [cs, ds, es].splitOn_intercalate mark (by simp [first, second, third]) (by simp)
  simpa [List.intercalate] using split

/-- The text of a date. -/
def dateText (date : Date) : List Char :=
  (intText date.year).toList ++ '-' :: ((twoDigits date.month).toList ++ '-' ::
    (twoDigits date.day).toList)

/-- The text of a second of the day. -/
def clockText (clock : Nat) : List Char :=
  (twoDigits (clock / 3600)).toList ++ ':' :: ((twoDigits (clock / 60 % 60)).toList ++ ':' ::
    (twoDigits (clock % 60)).toList)

theorem toList_ofSecond (second : Int) : (ofSecond second).toList =
    dateText (Date.ofDays (Int.fdiv second 86400)) ++ ' ' :: clockText (second % 86400).toNat := by
  simp [ofSecond, dateText, clockText]

private theorem readDate?_dateText {date : Date} (valid : date.IsValid) (first : 1 ≤ date.year)
    (last : date.year ≤ 9999) : readDate? (dateText date) = some date := by
  have year := naturalText?_intText (by omega : 0 ≤ date.year)
  have month := naturalText?_twoDigits date.month
  have day := naturalText?_twoDigits date.day
  have back : ((date.year.toNat : Nat) : Int) = date.year := Int.toNat_of_nonneg (by omega)
  have nameable : date.isNameable = true := by
    simp [Date.isNameable, first, last, valid.month_pos, valid.month_le, valid.day_pos,
      valid.day_le]
  rw [readDate?, dateText, splitOn_marks (not_mem_of_naturalText? year (by decide))
    (not_mem_of_naturalText? month (by decide)) (not_mem_of_naturalText? day (by decide))]
  simp [year, month, day, back, nameable]

private theorem readClock?_clockText {clock : Nat} (short : clock < 86400) :
    readClock? (clockText clock) = some clock := by
  have hour := naturalText?_twoDigits (clock / 3600)
  have minute := naturalText?_twoDigits (clock / 60 % 60)
  have second := naturalText?_twoDigits (clock % 60)
  rw [readClock?, clockText, splitOn_marks (not_mem_of_naturalText? hour (by decide))
    (not_mem_of_naturalText? minute (by decide)) (not_mem_of_naturalText? second (by decide))]
  simp [hour, minute, second]
  omega

private theorem blank_not_mem_dateText {date : Date} (first : 1 ≤ date.year) :
    ' ' ∉ dateText date := by
  have blank : isAsciiDigit ' ' = false := by decide
  have year := not_mem_of_naturalText? (naturalText?_intText (by omega : 0 ≤ date.year)) blank
  have month := not_mem_of_naturalText? (naturalText?_twoDigits date.month) blank
  have day := not_mem_of_naturalText? (naturalText?_twoDigits date.day) blank
  simp [dateText, year, month, day]

private theorem blank_not_mem_clockText (clock : Nat) : ' ' ∉ clockText clock := by
  have blank (n : Nat) : ' ' ∉ (twoDigits n).toList :=
    not_mem_of_naturalText? (naturalText?_twoDigits n) (by decide)
  simp [clockText, blank]

/-- A stamp is read as the second it was made of. -/
theorem read?_ofSecond {second : Int} (inYears : -62135596800 ≤ second ∧ second < 253402300800) :
    read? (ofSecond second) = some second := by
  obtain ⟨first, last⟩ := (year_bounds_iff second).mpr inYears
  have days := Int.fdiv_eq_ediv_of_nonneg second (by decide : (0 : Int) ≤ 86400)
  have date := readDate?_dateText (Date.ofDays_isValid _) first last
  have short : (second % 86400).toNat < 86400 := by omega
  have clock := readClock?_clockText short
  have count := Date.toDays_ofDays (Int.fdiv second 86400)
  rw [read?, toList_ofSecond,
    splitOn_mark (blank_not_mem_dateText first) (blank_not_mem_clockText _)]
  simp [date, clock, count]
  omega

/-- The stamp of a timestamp in a year that can be named is the text of its second, and is read
back as that; two timestamps have one stamp if and only if they lie in one second. -/
theorem ofMillis_denotes {millis millis' : Int} (inYears : InCalendar millis)
    (inYears' : InCalendar millis') :
    (∃ text, ofMillis millis = .ok text ∧ read? text = some (millis / 1000))
      ∧ (ofMillis millis = ofMillis millis' ↔ millis / 1000 = millis' / 1000) := by
  have read {m : Int} (h : InCalendar m) : read? (ofSecond (m / 1000)) = some (m / 1000) := by
    have := (inCalendar_iff m).mp h
    exact read?_ofSecond (by omega)
  refine ⟨⟨_, ofMillis_eq inYears, read inYears⟩, ?_, ?_⟩
  · intro same
    rw [ofMillis_eq inYears, ofMillis_eq inYears'] at same
    have text : ofSecond (millis / 1000) = ofSecond (millis' / 1000) := by
      injection same
    have second := read inYears
    rw [text, read inYears'] at second
    exact (Option.some.inj second).symm
  · intro same
    rw [ofMillis_eq inYears, ofMillis_eq inYears', same]

theorem ofMillis_denotes_before_epoch : InCalendar (-1) ∧ InCalendar (-1000) ∧
    (∃ text, ofMillis (-1) = .ok text ∧ read? text = some (-1)) ∧
    ofMillis (-1) = ofMillis (-1000) := by
  have last : InCalendar (-1) := by decide
  have first : InCalendar (-1000) := by decide
  obtain ⟨read, alike⟩ := ofMillis_denotes last first
  exact ⟨last, first, read, alike.mpr (by decide)⟩

example : ofSecond (-1) = "1969-12-31 23:59:59" := by decide

end BucketStore.Stamp
