import BucketStore.Value
import BucketStore.Number.Reading
import BucketStore.Fault

/-!
Checking the fields of a record against rules. All fields are checked, and the rules they break
are reported in the order of the fields. Numbers may be given as texts: white space around them,
underscores between digits and, for integers, a plus, zeros in front and a fraction of zeros are
allowed.
-/

namespace BucketStore

/-- The way in which a value breaks the rule of its field. -/
inductive Flaw where
  | missing
  | noText
  | emptyText
  | noInt
  | unreadableInt
  | oversizedInt
  | fractional
  | notFinite
  | noFloat
  | unreadableFloat
  | noBool
  | unreadableBool
  | noPinKind
  | below (bound : Int)
  | notAbove (bound : Int)
  | above (bound : Int)
  | frozen
deriving Repr, DecidableEq

namespace Flaw

def code : Flaw → String
  | .missing => "missing"
  | .noText => "string_type"
  | .emptyText => "string_too_short"
  | .noInt => "int_type"
  | .unreadableInt => "int_parsing"
  | .oversizedInt => "int_parsing_size"
  | .fractional => "int_from_float"
  | .notFinite => "finite_number"
  | .noFloat => "float_type"
  | .unreadableFloat => "float_parsing"
  | .noBool => "bool_type"
  | .unreadableBool => "bool_parsing"
  | .noPinKind => "enum"
  | .below _ => "greater_than_equal"
  | .notAbove _ => "greater_than"
  | .above _ => "less_than_equal"
  | .frozen => "frozen_instance"

def message : Flaw → String
  | .missing => "Field required"
  | .noText => "Input should be a valid string"
  | .emptyText => "String should have at least 1 character"
  | .noInt => "Input should be a valid integer"
  | .unreadableInt =>
    "Input should be a valid integer, unable to parse string as an integer"
  | .oversizedInt => "Unable to parse input string as an integer, exceeded maximum size"
  | .fractional => "Input should be a valid integer, got a number with a fractional part"
  | .notFinite => "Input should be a finite number"
  | .noFloat => "Input should be a valid number"
  | .unreadableFloat => "Input should be a valid number, unable to parse string as a number"
  | .noBool => "Input should be a valid boolean"
  | .unreadableBool => "Input should be a valid boolean, unable to interpret input"
  | .noPinKind => "Input should be 'd', 'a' or 'v'"
  | .below bound => "Input should be greater than or equal to " ++ intText bound
  | .notAbove bound => "Input should be greater than " ++ intText bound
  | .above bound => "Input should be less than or equal to " ++ intText bound
  | .frozen => "Instance is frozen"

def issue (field : String) (flaw : Flaw) : Issue :=
  ⟨flaw.code, field, flaw.message⟩

end Flaw

/-- A checked record, or all the rules it breaks. -/
inductive Checked (α : Type) where
  | valid (a : α)
  | flawed (issues : List Issue)

namespace Checked

variable {α β : Type}

def map (f : α → β) : Checked α → Checked β
  | .valid a => .valid (f a)
  | .flawed issues => .flawed issues

def both : Checked α → Checked β → Checked (α × β)
  | .valid a, .valid b => .valid (a, b)
  | .valid _, .flawed issues => .flawed issues
  | .flawed issues, .valid _ => .flawed issues
  | .flawed first, .flawed second => .flawed (first ++ second)

def run (title : String) : Checked α → Except Fault α
  | .valid a => .ok a
  | .flawed issues => .error (.invalid title issues)

end Checked

abbrev Rule (α : Type) := Value → Except Flaw α

namespace Rule

def text : Rule String
  | .text s => .ok s
  | _ => .error .noText

/-- Cut the zeros off the front of a number, and underscores among them. The last character
before a point or the end stays; a minus behind zeros begins the number. -/
def dropLeadingZeros? : List Char → Option (List Char)
  | [] => none
  | c :: rest =>
    if c == '0' then go '0' rest
    else if isAsciiDigit c || c == '-' then some (c :: rest)
    else none
where
  go (last : Char) : List Char → Option (List Char)
    | [] => some [last]
    | c :: rest =>
      if c == '0' || c == '_' then go c rest
      else if isAsciiDigit c || c == '-' then some (c :: rest)
      else if c == '.' then some (last :: c :: rest)
      else none

def dropZeroFraction (cs : List Char) : List Char :=
  match cs.dropWhile (· != '.') with
  | _ :: places =>
    if !places.isEmpty && places.all (· == '0') then cs.takeWhile (· != '.') else cs
  | [] => cs

def hasDoubleUnderscore : List Char → Bool
  | '_' :: '_' :: _ => true
  | _ :: rest => hasDoubleUnderscore rest
  | [] => false

/-- Remove underscores that stand inside the text, one at a time. -/
def dropInnerUnderscores (cs : List Char) : List Char :=
  if cs.head? == some '_' || cs.getLast? == some '_' || hasDoubleUnderscore cs then cs
  else cs.filter (· ≠ '_')

/-- An integer in its plain form: a minus, and digits that start with a zero only if it is the
only one. Too many digits are refused whatever follows them. -/
def plainInt (cs : List Char) : Except Flaw Int :=
  let (negative, body) := match cs with
    | '-' :: rest => (true, rest)
    | _ => (false, cs)
  let run := body.takeWhile isAsciiDigit
  if run.isEmpty || (run.head? == some '0' && run.length > 1) then .error .unreadableInt
  else if run.length > digitLimit then .error .oversizedInt
  else if run.length ≠ body.length then .error .unreadableInt
  else .ok (if negative then -(digitsValue run : Int) else digitsValue run)

/-- A number text without white space, a plus, zeros in front, a fraction of zeros and
underscores. -/
def tidyInt? (cs : List Char) : Option (List Char) :=
  let trimmed := Text.trim Text.isWhiteSpace cs
  let unsigned? := match trimmed with
    | '+' :: '-' :: _ => none
    | '+' :: rest => some rest
    | cs => some cs
  unsigned?.bind fun unsigned =>
    let (mark, body) := match unsigned with
      | '-' :: rest => (['-'], rest)
      | cs => ([], cs)
    (dropLeadingZeros? body).map fun digits =>
      mark ++ dropInnerUnderscores (dropZeroFraction digits)

/-- The integer that a text denotes: in its plain form, or else in the form it takes once it is
tidied up. -/
def intOfText (s : String) : Except Flaw Int :=
  match plainInt s.toList with
  | .error .unreadableInt =>
    match (tidyInt? s.toList).map plainInt with
    | some (.ok i) => .ok i
    | _ => .error .unreadableInt
  | reading => reading

/-- Floats beyond 63 bits are not taken for integers. -/
def intOfFloat (f : Float) : Except Flaw Int :=
  match FloatView.ofFloat f with
  | .finite _ _ =>
    match wholeOfFloat? f with
    | none => .error .fractional
    | some i =>
      if -0x8000000000000000 < i ∧ i < 0x8000000000000000 then .ok i else .error .oversizedInt
  | _ => .error .notFinite

def int : Rule Int
  | .int i => .ok i
  | .bool b => .ok (if b then 1 else 0)
  | .float f => intOfFloat f
  | .text s => intOfText s
  | _ => .error .noInt

def floatOfText (s : String) : Except Flaw Float :=
  match NumberText.read? (Text.trim Text.isWhiteSpace s.toList) with
  | some number => .ok number.toFloat
  | none =>
    if s.toList.contains '_' then
      match NumberText.read? (dropInnerUnderscores s.toList) with
      | some number => .ok number.toFloat
      | none => .error .unreadableFloat
    else .error .unreadableFloat

def float : Rule Float
  | .float f => .ok f
  | .int i =>
    match floatOfInt? i with
    | some f => .ok f
    | none => .error .noFloat
  | .bool b => .ok (if b then 1.0 else 0.0)
  | .text s => floatOfText s
  | _ => .error .noFloat

def falseWords : List String := ["0", "off", "f", "false", "n", "no"]

def trueWords : List String := ["1", "on", "t", "true", "y", "yes"]

/-- Zero and one are truth values; numbers beyond 64 bits are not even tried. -/
def boolOfInt (i : Int) : Except Flaw Bool :=
  if i = 0 then .ok false
  else if i = 1 then .ok true
  else if -0x8000000000000000 ≤ i ∧ i < 0x8000000000000000 then .error .unreadableBool
  else .error .noBool

def bool : Rule Bool
  | .bool b => .ok b
  | .text s =>
    let word := lowered s.toList
    if falseWords.contains word then .ok false
    else if trueWords.contains word then .ok true
    else .error .unreadableBool
  | .int i => boolOfInt i
  | .float f =>
    match intOfFloat f with
    | .ok i => boolOfInt i
    | .error _ => .error .noBool
  | _ => .error .noBool

def nonemptyText : Rule String := fun v => do
  let s ← text v
  if s.isEmpty then .error .emptyText else .ok s

def optional {α : Type} (rule : Rule α) : Rule (Option α)
  | .null => .ok none
  | v => (rule v).map some

def intFrom (bound : Int) : Rule Int := fun v => do
  let i ← int v
  if bound ≤ i then .ok i else .error (.below bound)

/-- Floats from a bound upwards; an undefined number is never large enough. -/
def floatFrom (bound : Int) : Rule Float := fun v => do
  let f ← float v
  if f ≥ Float.ofInt bound then .ok f else .error (.below bound)

def floatAbove (bound : Int) : Rule Float := fun v => do
  let f ← float v
  if f > Float.ofInt bound then .ok f else .error (.notAbove bound)

end Rule

/-- A field: the key it is given under, another key that also counts, and its rule. -/
structure Field (α : Type) where
  key : String
  alternative : String := key
  rule : Rule α
  default? : Option α := none

/-- Find a field's value under its key or else its alternative, and check it. -/
def Field.check {α : Type} (field : Field α) (fields : List (String × Value)) : Checked α :=
  let given (key : String) := (Value.lookup fields key).map (key, ·)
  match (given field.key).or (given field.alternative) with
  | some (key, v) =>
    match field.rule v with
    | .ok a => .valid a
    | .error flaw => .flawed [flaw.issue key]
  | none =>
    match field.default? with
    | some a => .valid a
    | none => .flawed [Flaw.missing.issue field.key]

end BucketStore
