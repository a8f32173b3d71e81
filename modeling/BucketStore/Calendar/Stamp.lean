import BucketStore.Calendar.Date
import BucketStore.Value.Number

/-!
Timestamps as they are shown: date and time of day of an instant in UTC, to the second. The
instant is the quotient of the timestamp by a thousand, rounded to binary64 and then to the
microsecond.
-/

namespace BucketStore.Stamp

/-- Microseconds of a fraction of a second below one: the product is rounded to binary64, and then
to an integer; a half goes to the even neighbour. -/
def microsOfFraction (n d : Nat) : Nat :=
  let (n, d) := (Dyadic64.nearest (n * 1000000) d).ratio
  roundHalfEven n d

/-- The whole second in which an instant lies, once it is rounded to the microsecond. -/
def secondOf (negative : Bool) (seconds : Dyadic64) : Int :=
  let (n, d) := seconds.ratio
  let whole : Int := (n / d : Nat)
  let micros := microsOfFraction (n % d) d
  if negative then
    if micros ≥ 1000000 then -whole - 1
    else if micros = 0 then -whole
    else -whole - 1
  else if micros ≥ 1000000 then whole + 1
  else whole

def twoDigits (n : Nat) : String :=
  String.ofList (let cs := decimalDigits n; if cs.length < 2 then '0' :: cs else cs)

/-- Date and time of day of a second counted from the epoch; the year is not filled up. -/
def ofSecond (second : Int) : String :=
  let date := Date.ofDays (Int.fdiv second 86400)
  let clock := (second % 86400).toNat
  intText date.year ++ "-" ++ twoDigits date.month ++ "-" ++ twoDigits date.day ++ " "
    ++ twoDigits (clock / 3600) ++ ":" ++ twoDigits (clock / 60 % 60) ++ ":"
    ++ twoDigits (clock % 60)

/-- Seconds are counted in 63 bits and a sign, and years since 1900 in 31 bits and a sign; of the
years that fit, 1 to 9999 can be shown. -/
def ofSecondChecked (second : Int) : Except Problem String :=
  if second < -0x8000000000000000 ∨ 0x8000000000000000 ≤ second then .error .instantOutOfRange
  else
    let year := (Date.ofDays (Int.fdiv second 86400)).year
    if year - 1900 < -0x80000000 ∨ 0x80000000 ≤ year - 1900 then .error .instantTooLarge
    else if year < 1 ∨ 9999 < year then .error (.yearOutOfRange (Int.bmod year 0x100000000))
    else .ok (ofSecond second)

def ofSeconds : FloatView → Except Problem String
  | .finite negative x => ofSecondChecked (secondOf negative x)
  | .infinite _ => .error .instantOutOfRange
  | .undefined => .error .instantUndefined

def ofMillis (millis : Int) : Except Problem String :=
  let seconds := Dyadic64.nearest millis.natAbs 1000
  if seconds.overflows then .error .quotientTooLarge
  else ofSeconds (.finite (millis < 0) seconds)

def ofValue : Value → Except Problem String
  | .int i => ofMillis i
  | .bool b => ofMillis (Value.ofBool b)
  | .float f => ofSeconds (FloatView.ofFloat (f / 1000.0))
  | v => .error (.operands "/" v.kind "int")

end BucketStore.Stamp
