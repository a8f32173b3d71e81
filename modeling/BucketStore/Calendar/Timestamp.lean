import BucketStore.Calendar.Moment
import BucketStore.Number.Reading

/-!
Moments as a user gives them: a date and a time of day with hyphens and colons, a date alone, or
the time since the epoch as a number. Numbers up to a watershed count seconds and those beyond it
milliseconds, so that both can be given without a unit.
-/

namespace BucketStore.Timestamp

def twoDigits? : List Char → Option (Nat × List Char)
  | a :: b :: rest => (naturalText? [a, b]).map (·, rest)
  | _ => none

def after? (mark : Char) : List Char → Option (List Char)
  | c :: rest => if c == mark then some rest else none
  | [] => none

def date? (cs : List Char) : Option (Date × List Char) := do
  let year ← naturalText? (cs.take 4)
  let (month, rest) ← twoDigits? (← after? '-' (cs.drop 4))
  let (day, rest) ← twoDigits? (← after? '-' rest)
  let date : Date := ⟨year, month, day⟩
  if date.isNameable then some (date, rest) else none

/-- Microseconds out of the digits of a fraction: six count. -/
def fractionMicros (digits : List Char) : Nat :=
  let digits := digits.take 6
  digitsValue digits * Nat.pow 10 (6 - digits.length)

def seconds? (cs : List Char) : Option (Nat × List Char) :=
  match cs with
  | ':' :: rest => do
    let (second, rest) ← twoDigits? rest
    if second ≥ 60 then none
    else match rest with
      | mark :: more =>
        if mark == '.' || mark == ',' then
          let digits := more.takeWhile isAsciiDigit
          if digits.isEmpty then none
          else some (second * 1000000 + fractionMicros digits, more.dropWhile isAsciiDigit)
        else some (second * 1000000, rest)
      | [] => some (second * 1000000, [])
  | _ => some (0, cs)

def clock? (cs : List Char) : Option (Nat × List Char) := do
  let (hour, rest) ← twoDigits? cs
  let (minute, rest) ← twoDigits? (← after? ':' rest)
  let (micros, rest) ← seconds? rest
  if hour ≥ 24 ∨ minute ≥ 60 then none
  else some ((hour * 60 + minute) * 60000000 + micros, rest)

/-- Hours and minutes of an offset, less than a day, in microseconds. -/
def offsetSize? (cs : List Char) : Option Int := do
  let (hour, rest) ← twoDigits? cs
  let (minute, rest) ← twoDigits? ((after? ':' rest).getD rest)
  if !rest.isEmpty || hour ≥ 24 || minute ≥ 60 then none
  else some ((hour * 60 + minute) * 60000000 : Nat)

/-- The offset at the end of a moment, which may be missing. A minus may also be the sign of
typography. -/
def offset? : List Char → Option (Option Int)
  | [] => some none
  | mark :: rest =>
    if (mark == 'Z' || mark == 'z') && rest.isEmpty then some (some 0)
    else if mark == '+' then (offsetSize? rest).map some
    else if mark == '-' || mark == '\u2212' then (offsetSize? rest).map fun size => some (-size)
    else none

def isSeparator (c : Char) : Bool :=
  c == 'T' || c == 't' || c == ' ' || c == '_'

def ofCalendar? (cs : List Char) : Option Moment := do
  let (date, rest) ← date? cs
  let start := date.toDays * Moment.microsPerDay
  match rest with
  | [] => some ⟨start, none⟩
  | mark :: rest =>
    if !isSeparator mark then none
    else
      let (micros, rest) ← clock? rest
      let offset ← offset? rest
      some ⟨start + micros, offset⟩

/-- The largest number of seconds; larger numbers count milliseconds. -/
def watershed : Int := 20000000000

/-- The moment a number of seconds or milliseconds after the epoch, and microseconds behind it. -/
def ofCount? (count micros : Int) : Option Moment :=
  let clock :=
    if -watershed ≤ count ∧ count ≤ watershed then count * 1000000 + micros
    else count * 1000 + micros
  if Moment.earliest ≤ clock ∧ clock < Moment.beyond then some ⟨clock, some 0⟩ else none

/-- Microseconds of a fraction below one, rounded; a half goes up. -/
def micros (fraction : Float) : Int :=
  ((fraction * 1000000.0).round).toUInt64.toNat

def ofFloat? (count : Float) : Option Moment := do
  let seconds := if count.abs > Float.ofInt watershed then count / 1000.0 else count
  match FloatView.ofFloat seconds.floor with
  | .finite negative x =>
    let whole : Int := x.floor
    ofCount? (if negative then -whole else whole) (micros (seconds - seconds.floor))
  | _ => none

/-- The moment of a number text: digits with at most one point among them. -/
def ofNumber? (cs : List Char) : Option Moment :=
  let (negative, body) := splitSign cs
  match naturalText? body with
  | some n => ofCount? (if negative then -(n : Int) else n) 0
  | none =>
    let whole := body.takeWhile isAsciiDigit
    match body.dropWhile isAsciiDigit with
    | '.' :: places =>
      if places.all isAsciiDigit then
        let size := floatOfDecimal (digitsValue (whole ++ places)) (-(places.length : Int))
        ofFloat? (if negative then -size else size)
      else none
    | _ => none

def read? (s : String) : Option Moment :=
  (ofCalendar? s.toList).or (ofNumber? s.toList)

end BucketStore.Timestamp
