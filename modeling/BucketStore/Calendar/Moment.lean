import BucketStore.Calendar.Date
import BucketStore.Number.Binary64
import BucketStore.Fault

/-!
Moments: a clock reading with an optional offset from UTC, exact to the microsecond. A moment
without an offset is read as UTC.
-/

namespace BucketStore

/-- `clock` counts microseconds on the moment's own clock from the first of January 1970;
`offset` is how far that clock is ahead of UTC, in microseconds. -/
structure Moment where
  clock : Int
  offset : Option Int := none
deriving Repr, DecidableEq

namespace Moment

def microsPerSecond : Nat := 1000000

def microsPerDay : Int := 86400 * 1000000

/-- The first reading of a clock: the start of year 1. -/
def earliest : Int := Date.toDays ⟨1, 1, 1⟩ * microsPerDay

/-- The first reading beyond year 9999. -/
def beyond : Int := Date.toDays ⟨10000, 1, 1⟩ * microsPerDay

/-- Microseconds since the epoch in UTC. -/
def instant (m : Moment) : Int :=
  m.clock - m.offset.getD 0

/-- The moment a number of milliseconds before, on the same clock. -/
def before (m : Moment) (millis : Nat) : Except Problem Moment :=
  let clock := m.clock - millis * 1000
  if earliest ≤ clock ∧ clock < beyond then .ok { m with clock := clock }
  else .error .dateOutOfRange

/-- The whole milliseconds in a magnitude of microseconds: the seconds are rounded to binary64,
and so is their product by a thousand; then the fraction is dropped. -/
def millisOfMicros (micros : Nat) : Nat :=
  let (n, d) := (Dyadic64.nearest micros microsPerSecond).ratio
  (Dyadic64.nearest (n * 1000) d).floor

def epochMillis (m : Moment) : Int :=
  let millis : Int := millisOfMicros m.instant.natAbs
  if m.instant < 0 then -millis else millis

end Moment

end BucketStore
