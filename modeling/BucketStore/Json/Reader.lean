import BucketStore.Value
import BucketStore.Number.Reading

namespace BucketStore.Json

def isSpace (c : Char) : Bool :=
  c == ' ' || c == '\n' || c == '\r' || c == '\t'

def skipSpace (cs : List Char) : List Char :=
  cs.dropWhile isSpace

def readUnit? (cs : List Char) : Option (Nat × List Char) := do
  let run := cs.take 4
  if run.length = 4 && run.all (Text.hexDigit? · |>.isSome) then
    some (Text.hexValue run, cs.drop 4)
  else none

/-- The character of a unit; a first surrogate takes the second with it. -/
def joinUnits (high : Nat) (rest : List Char) : Char × List Char :=
  let alone := (if 0xd800 ≤ high ∧ high < 0xe000 then '\ufffd' else Char.ofNat high, rest)
  if 0xd800 ≤ high ∧ high < 0xdc00 then
    match rest with
    | '\\' :: 'u' :: more =>
      match readUnit? more with
      | some (low, after) =>
        if 0xdc00 ≤ low ∧ low < 0xe000 then
          (Char.ofNat (0x10000 + (high - 0xd800) * 0x400 + (low - 0xdc00)), after)
        else alone
      | none => alone
    | _ => alone
  else alone

def shortEscape? (c : Char) : Option Char :=
  match c with
  | '"' => some '"'
  | '\\' => some '\\'
  | '/' => some '/'
  | 'b' => some '\x08'
  | 'f' => some '\x0c'
  | 'n' => some '\n'
  | 'r' => some '\r'
  | 't' => some '\t'
  | _ => none

def readString? (fuel : Nat) (read : List Char) (cs : List Char) : Option (String × List Char) :=
  match fuel, cs with
  | 0, _ => none
  | _, [] => none
  | _, '"' :: rest => some (String.ofList read.reverse, rest)
  | fuel + 1, '\\' :: 'u' :: rest =>
    match readUnit? rest with
    | some (unit, more) =>
      let (c, after) := joinUnits unit more
      readString? fuel (c :: read) after
    | none => none
  | fuel + 1, '\\' :: c :: rest =>
    match shortEscape? c with
    | some d => readString? fuel (d :: read) rest
    | none => none
  | fuel + 1, c :: rest => readString? fuel (c :: read) rest

def isNumberChar (c : Char) : Bool :=
  isAsciiDigit c || c == '-' || c == '+' || c == '.' || c == 'e' || c == 'E'

/-- A number written without a point or exponent is an integer. -/
def readNumber? (run : List Char) : Option Value :=
  if run.any fun c => c == '.' || c == 'e' || c == 'E' then
    (NumberText.read? run).map fun n => .float n.toFloat
  else match run with
    | '-' :: digits => (naturalText? digits).map fun n => .int (-n)
    | digits => (naturalText? digits).map fun n => .int n

def dropWord? (word : String) (cs : List Char) : Option (List Char) :=
  if word.toList.isPrefixOf cs then some (cs.drop word.length) else none

mutual

def readValue? (fuel : Nat) (cs : List Char) : Option (Value × List Char) :=
  match fuel with
  | 0 => none
  | fuel + 1 =>
    match skipSpace cs with
    | '"' :: rest => (readString? fuel [] rest).map fun (s, more) => (.text s, more)
    | '[' :: rest =>
      match skipSpace rest with
      | ']' :: more => some (.list [], more)
      | _ => (readItems? fuel [] rest).map fun (items, more) => (.list items, more)
    | '\x7b' :: rest =>
      match skipSpace rest with
      | '\x7d' :: more => some (.object [], more)
      | _ => (readFields? fuel [] rest).map fun (fields, more) => (.object fields, more)
    | 't' :: rest => (dropWord? "rue" rest).map (.bool true, ·)
    | 'f' :: rest => (dropWord? "alse" rest).map (.bool false, ·)
    | 'n' :: rest => (dropWord? "ull" rest).map (.null, ·)
    | other =>
      (readNumber? (other.takeWhile isNumberChar)).map (·, other.dropWhile isNumberChar)

def readItems? (fuel : Nat) (read : List Value) (cs : List Char) :
    Option (List Value × List Char) :=
  match fuel with
  | 0 => none
  | fuel + 1 =>
    match readValue? fuel cs with
    | none => none
    | some (v, rest) =>
      match skipSpace rest with
      | ',' :: more => readItems? fuel (v :: read) more
      | ']' :: more => some ((v :: read).reverse, more)
      | _ => none

def readFields? (fuel : Nat) (read : List (String × Value)) (cs : List Char) :
    Option (List (String × Value) × List Char) :=
  match fuel with
  | 0 => none
  | fuel + 1 =>
    match skipSpace cs with
    | '"' :: rest =>
      match readString? fuel [] rest with
      | none => none
      | some (key, more) =>
        match skipSpace more with
        | ':' :: after =>
          match readValue? fuel after with
          | none => none
          | some (v, rest) =>
            match skipSpace rest with
            | ',' :: more => readFields? fuel ((key, v) :: read) more
            | '\x7d' :: more => some (((key, v) :: read).reverse, more)
            | _ => none
        | _ => none
    | _ => none

end

/-- Read a whole text as one value. Each character is worth two steps at most. -/
def read? (text : String) : Option Value := do
  let cs := text.toList
  let (v, rest) ← readValue? (2 * cs.length + 2) cs
  if (skipSpace rest).isEmpty then some v else none

end BucketStore.Json
