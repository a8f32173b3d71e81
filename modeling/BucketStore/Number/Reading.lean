import BucketStore.Number.Binary64
import BucketStore.Text.Blank
import BucketStore.Text.Digit

/-!
Numbers read from text. A decimal text is a sign, digits with at most one point among them, and an
exponent; `inf`, `infinity` and `nan` are numbers too. In the liberal reading white space around
the number, digits of every script and single underscores between digits are allowed as well.
-/

namespace BucketStore

/-- What a decimal text says, before it is rounded to a float. -/
inductive NumberText where
  | finite (negative : Bool) (digits : Nat) (exponent : Int)
  | infinite (negative : Bool)
  | undefined
deriving Repr, DecidableEq

def NumberText.toFloat : NumberText → Float
  | .finite negative digits exponent =>
    let x := floatOfDecimal digits exponent
    if negative then -x else x
  | .infinite negative => if negative then -(1.0 / 0.0) else 1.0 / 0.0
  | .undefined => 0.0 / 0.0

/-- A sign, if there is one, and what follows it. -/
def splitSign : List Char → Bool × List Char
  | '-' :: rest => (true, rest)
  | '+' :: rest => (false, rest)
  | cs => (false, cs)

def isAsciiDigit (c : Char) : Bool :=
  (Text.asciiDigit? c).isSome

def digitsValue (cs : List Char) : Nat :=
  cs.foldl (fun n c => 10 * n + (c.toNat - 48)) 0

def naturalText? (cs : List Char) : Option Nat :=
  if !cs.isEmpty && cs.all isAsciiDigit then some (digitsValue cs) else none

/-- The exponent part: nothing, or a mark, a sign and digits. -/
def exponentPart? : List Char → Option Int
  | [] => some 0
  | c :: rest =>
    if c == 'e' || c == 'E' then
      let (negative, digits) := splitSign rest
      (naturalText? digits).map fun n => if negative then -(n : Int) else n
    else none

def lowered (cs : List Char) : String :=
  String.ofList (cs.map Char.toLower)

def NumberText.read? (text : List Char) : Option NumberText :=
  let (negative, body) := splitSign text
  let word := lowered body
  if word == "inf" || word == "infinity" then some (.infinite negative)
  else if word == "nan" then some .undefined
  else
    let whole := body.takeWhile isAsciiDigit
    let afterWhole := body.dropWhile isAsciiDigit
    let (places, rest) := match afterWhole with
      | '.' :: more => (more.takeWhile isAsciiDigit, more.dropWhile isAsciiDigit)
      | _ => ([], afterWhole)
    if whole.isEmpty && places.isEmpty then none
    else (exponentPart? rest).map fun e =>
      .finite negative (digitsValue (whole ++ places)) (e - places.length)

/-- Digits of every script as ASCII digits; other characters stay. -/
def asciiDigits (cs : List Char) : List Char :=
  cs.map fun c => match Text.digit? c with
    | some d => Char.ofNat (48 + d)
    | none => c

/-- Underscores removed, if each stands between two digits. -/
def dropUnderscores? (cs : List Char) : Option (List Char) :=
  let rec go : Bool → List Char → Option (List Char)
    | _, [] => some []
    | afterDigit, '_' :: c :: rest =>
      if afterDigit && isAsciiDigit c then (go true rest).map (c :: ·) else none
    | _, '_' :: [] => none
    | _, c :: rest => (go (isAsciiDigit c) rest).map (c :: ·)
  go false cs

def readFloat? (s : String) : Option Float := do
  let cs ← dropUnderscores? (asciiDigits (Text.trim Text.isWhiteSpace s.toList))
  let number ← NumberText.read? cs
  return number.toFloat

inductive IntReading where
  | value (i : Int)
  | malformed
  /-- More digits than are converted, and how many. -/
  | tooLong (digits : Nat)
deriving Repr, DecidableEq

/-- Texts with more digits are not converted to integers. -/
def digitLimit : Nat := 4300

/-- The liberal reading of an integer. The digits are counted up to the first other character,
so that too many of them are found before anything that is wrong behind them. -/
def readInt (s : String) : IntReading :=
  let (negative, body) := splitSign (asciiDigits (Text.trim Text.isWhiteSpace s.toList))
  let run := body.takeWhile fun c => isAsciiDigit c || c == '_'
  match dropUnderscores? run with
  | none => .malformed
  | some digits =>
    if digits.length > digitLimit then .tooLong digits.length
    else if digits.isEmpty || run.length ≠ body.length then .malformed
    else .value (if negative then -(digitsValue digits : Int) else digitsValue digits)

end BucketStore
