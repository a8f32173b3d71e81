import BucketStore.Calendar.Moment
import BucketStore.Number.Reading

namespace BucketStore.Moment

def digits? (n : Nat) (cs : List Char) : Option (Nat × List Char) :=
  let run := cs.take n
  if run.length = n && run.all isAsciiDigit then some (digitsValue run, cs.drop n) else none

/-- Where the character between date and time stands. -/
def separatorAt (cs : List Char) : Nat :=
  if cs.length = 7 then 7
  else if cs[4]? == some '-' then
    if cs[5]? == some 'W' then
      if cs[8]? == some '-' then
        if (cs[10]?.map isAsciiDigit).getD false then 8 else 10
      else 8
    else 10
  else if cs[4]? == some 'W' then
    let stop := 7 + ((cs.drop 7).takeWhile isAsciiDigit).length
    if stop < 9 then stop else if stop % 2 = 0 then 7 else 8
  else 8

def dateOfWeek? (year week weekday : Nat) : Option Date :=
  if 1 ≤ year ∧ year ≤ 9999 ∧ 1 ≤ week ∧ (week : Int) ≤ Date.weeksInYear year
      ∧ 1 ≤ weekday ∧ weekday ≤ 7 then
    some (Date.ofDays (Date.firstMonday year + (week - 1) * 7 + (weekday - 1)))
  else none

/-- A hyphen, if the notation has separators. -/
def dateMark? (separated : Bool) (cs : List Char) : Option (List Char) :=
  match separated, cs with
  | false, _ => some cs
  | true, '-' :: rest => some rest
  | true, _ => none

/-- The date in the first `length` characters. -/
def readDate? (length : Nat) (cs : List Char) : Option Date := do
  let (year, rest) ← digits? 4 cs
  let separated := rest.head? == some '-'
  let rest ← dateMark? separated rest
  if rest.head? == some 'W' then
    let (week, rest) ← digits? 2 (rest.drop 1)
    if cs.length - rest.length < length then
      let rest ← dateMark? separated rest
      let (weekday, _) ← digits? 1 rest
      dateOfWeek? year week weekday
    else dateOfWeek? year week 1
  else
    let (month, rest) ← digits? 2 rest
    let rest ← dateMark? separated rest
    let (day, _) ← digits? 2 rest
    return ⟨year, month, day⟩

structure ClockReading where
  parts : List Nat
  micros : Nat
  ended : Bool

/-- The fraction of a second: six digits count, more are skipped. -/
def readFraction? (parts : List Nat) (cs : List Char) : Option ClockReading := do
  let count := min cs.length 6
  let (n, rest) ← digits? count cs
  if count = 0 then none
  else return ⟨parts, n * Nat.pow 10 (6 - count), (rest.dropWhile isAsciiDigit).isEmpty⟩

/-- Pairs of digits, `count` of them at most, each behind a colon or none behind one. -/
def readPairs? (separated : Option Bool) (parts : List Nat) :
    Nat → List Char → Option ClockReading
  | 0, cs => readFraction? parts cs
  | count + 1, cs => do
    let (n, rest) ← digits? 2 cs
    let parts := parts ++ [n]
    match rest with
    | [] => return ⟨parts, 0, true⟩
    | c :: more =>
      let separated := separated.getD (c == ':')
      if more.isEmpty then return ⟨parts, 0, false⟩
      else if separated && c == ':' then readPairs? (some separated) parts count more
      else if c == '.' || c == ',' then readFraction? parts more
      else if separated then none
      else readPairs? (some separated) parts count (c :: more)

def ClockReading.total (r : ClockReading) : Nat :=
  let unit (i : Nat) := r.parts.getD i 0
  ((unit 0 * 60 + unit 1) * 60 + unit 2) * 1000000 + r.micros

def ClockReading.isOfDay (r : ClockReading) : Bool :=
  r.parts.getD 0 0 < 24 && r.parts.getD 1 0 < 60 && r.parts.getD 2 0 < 60

def isOffsetMark (c : Char) : Bool :=
  c == '+' || c == '-' || c == 'Z'

def readTime? (cs : List Char) : Option (Nat × Option Int) := do
  let clockText := cs.takeWhile (!isOffsetMark ·)
  let clock ← readPairs? none [] 3 clockText
  if !clock.isOfDay then none
  else match cs.dropWhile (!isOffsetMark ·) with
    | [] => if clock.ended then some (clock.total, none) else none
    | 'Z' :: rest => if rest.isEmpty then some (clock.total, some 0) else none
    | mark :: rest =>
      let shift ← readPairs? none [] 3 rest
      let seconds := shift.total - shift.micros
      let offset : Int := if seconds = 0 then 0 else shift.total
      if !shift.ended || offset ≥ microsPerDay then none
      else some (clock.total, some (if mark == '-' then -offset else offset))

def read? (text : String) : Option Moment := do
  let cs := text.toList.flatMap fun c => List.replicate c.utf8Size c
  if cs.length < 7 then none
  else
    let at_ := separatorAt cs
    let date ← readDate? at_ cs
    if !date.isNameable then none
    else
      let days := date.toDays * microsPerDay
      match cs.drop at_ with
      | c :: rest =>
        let (clock, offset) ← readTime? (rest.drop (c.utf8Size - 1))
        return ⟨days + clock, offset⟩
      | [] => return ⟨days, none⟩

end BucketStore.Moment
