import BucketStore.Value.Number

/-!
Trying again: how often at most, and how long to wait before the next time. Both are given as
values of any kind; one that is no number is a problem, but only once it is needed.
-/

namespace BucketStore

structure Retry where
  attempts : Value := .int 1
  /-- The first pause in seconds. -/
  backoff : Value := .float 1.0

namespace Retry

/-- The longest pause between two attempts, in seconds. -/
def longestPause : Float := 10.0

/-- A pause within bounds; an undefined one is none. -/
def bounded (pause : Float) : Float :=
  let pause := if longestPause < pause then longestPause else pause
  if pause > 0.0 then pause else 0.0

/-- How often the pause has doubled after a number of attempts. -/
def growth (made : Nat) : Nat :=
  Nat.pow 2 (made - 1)

def pauseOfInt (backoff : Int) (made : Nat) : Float :=
  let grown := backoff * growth made
  if grown ≤ 0 then 0.0
  else if 10 ≤ grown then longestPause
  else Float.ofInt grown

/-- No float holds the growth after more than 1024 attempts; the pause is the longest then. -/
def pauseOfFloat (backoff : Float) (made : Nat) : Float :=
  if made > 1024 then longestPause else bounded (backoff * Float.ofNat (growth made))

/-- The pause after a number of attempts: the backoff doubled each time, within bounds. Texts and
lists could be repeated, but they are no pauses. -/
def pauseAfter (r : Retry) (made : Nat) : Except Problem Float :=
  match r.backoff with
  | .int i => .ok (pauseOfInt i made)
  | .bool b => .ok (pauseOfInt (Value.ofBool b) made)
  | .float f => .ok (pauseOfFloat f made)
  | .text s => .error (.comparison ">" (Value.text s).kind "int")
  | .list items => .error (.comparison ">" (Value.list items).kind "int")
  | v => .error (.operands "*" v.kind "int")

def isSpent (r : Retry) (made : Nat) : Except Problem Bool :=
  match r.attempts with
  | .int i => .ok (i ≤ made)
  | .bool b => .ok (Value.ofBool b ≤ made)
  | .float f => .ok (f ≤ Float.ofNat made)
  | v => .error (.comparison ">=" "int" v.kind)

/-- More attempts than anyone waits for. -/
def endless : Nat := 0x10000000000000000

def limit (r : Retry) : Nat :=
  match r.attempts with
  | .int i => i.toNat
  | .float f =>
    match FloatView.ofFloat f with
    | .finite true _ => 0
    | .finite false x => x.floor + 1
    | _ => endless
  | _ => 1

end Retry

end BucketStore
