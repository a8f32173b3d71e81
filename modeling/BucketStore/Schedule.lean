import BucketStore.World

/-!
Surroundings that are laid down beforehand: which contacts end in faults and how often, the
readings of the stopwatch, and answers given in the place of the database's.
-/

namespace BucketStore

/-- The kind of a contact, without its statement. -/
inductive ContactKind where
  | openPool
  | closePool
  | takeConnection
  | returnConnection
  | cursor
  | execute
  | executeMany
  | row
  | commit
  | rollback
deriving Repr, DecidableEq

def Contact.kind : Contact → ContactKind
  | .openPool => .openPool
  | .closePool => .closePool
  | .takeConnection => .takeConnection
  | .returnConnection => .returnConnection
  | .cursor => .cursor
  | .execute _ => .execute
  | .executeMany _ => .executeMany
  | .row _ _ => .row
  | .commit => .commit
  | .rollback => .rollback

/-- The statement of a contact, empty where there is none. -/
def Contact.sql : Contact → String
  | .execute sql | .executeMany sql | .row sql _ => sql
  | _ => ""

def occursIn (needle : List Char) : List Char → Bool
  | [] => needle.isEmpty
  | c :: rest => needle.isPrefixOf (c :: rest) || occursIn needle rest

structure FaultRule where
  kind : ContactKind
  fault : Fault
  /-- A text that the statement has to hold. -/
  contains : String := ""
  /-- The number of the row, for the rows of a batch. -/
  row : Nat := 0
  /-- How many times the rule still applies; any negative number means always. -/
  times : Int := 1
  closes : Bool := false

def FaultRule.appliesTo (r : FaultRule) (contact : Contact) : Bool :=
  let atRow := match contact with
    | .row _ index => r.row == index
    | _ => true
  r.kind == contact.kind && r.times != 0 && occursIn r.contains.toList contact.sql.toList && atRow

/-- The first rule that applies, and the rules after it was used. -/
def useRule (contact : Contact) : List FaultRule → Option FaultRule × List FaultRule
  | [] => (none, [])
  | r :: rest =>
    if r.appliesTo contact then (some r, { r with times := r.times - 1 } :: rest)
    else
      let (found, rest) := useRule contact rest
      (found, r :: rest)

/-- The words a free statement may start with. -/
def commands : List String :=
  ["SELECT", "INSERT", "UPDATE", "DELETE", "CREATE", "DROP", "TRUNCATE", "VACUUM", "ANALYZE"]

/-- Capital letters; the dotless i and the long s have ASCII capitals as well. -/
def capitals (cs : List Char) : String :=
  String.ofList (cs.map fun c =>
    if c == '\u0131' then 'I' else if c == '\u017f' then 'S' else c.toUpper)

/-- A free statement that starts with no command is no statement. -/
def commandFault? (sql : String) : Option (DriverFault × String) :=
  let word := (sql.toList.dropWhile Text.isBlank).takeWhile (!Text.isBlank ·)
  if commands.contains (capitals word) then none
  else some (.syntaxError, "syntax error at or near \"" ++ String.ofList word ++ "\"")

structure Schedule where
  rules : List FaultRule := []
  /-- Readings to come; after the last one it is repeated. -/
  ticks : List Float := []
  lastTick : Float := 0.0
  answer : Option (List Value) := none
  counts : List Int := []
  triesOut : Bool := false
  now : Moment

namespace Schedule

def strike (contact : Contact) (s : Schedule) : Option Strike × Schedule :=
  let (found, rules) := useRule contact s.rules
  (found.map fun r => ⟨r.fault, r.closes⟩, { s with rules := rules })

def tick (s : Schedule) : Float × Schedule :=
  match s.ticks with
  | [] => (s.lastTick, s)
  | t :: rest => (t, { s with ticks := rest, lastTick := t })

def takeAnswer (s : Schedule) : Option (List Value) × Schedule :=
  (s.answer, { s with answer := none })

def takeCount (s : Schedule) : Option Int × Schedule :=
  match s.counts with
  | [] => (none, s)
  | n :: rest => (some n, { s with counts := rest })

instance : Surroundings Schedule where
  strike := strike
  tick := tick
  answer := takeAnswer
  count := takeCount
  refusal? _ := commandFault?
  triesOut := Schedule.triesOut
  now := Schedule.now

end Schedule

end BucketStore
