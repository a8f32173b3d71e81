import BucketStore.Value.Number

/-!
Message templates. A percent sign starts a reference to an argument: a key in parentheses, flags,
a width, a precision and a letter that says how the argument is written. Arguments come one after
the other, or by key from an object; each of them has to be used.
-/

namespace BucketStore.Template

inductive Arguments where
  | many (values : List Value)
  | one (v : Value)

/-- Flags, width and precision of a reference. -/
structure Layout where
  left : Bool := false
  sign : Bool := false
  blank : Bool := false
  alternate : Bool := false
  zero : Bool := false
  width : Option Nat := none
  precision : Option Nat := none

abbrev Filled := Except Problem

def refuse {α : Type} (kind : PlainFault) (text : String) : Filled α :=
  .error (.percent kind text)

structure Supply where
  /-- The arguments from which keys are taken, if keys can be. -/
  keyed : Option Value
  pending : List Value

/-- Objects and lists can be asked for keys. -/
def Supply.start : Arguments → Supply
  | .many values => ⟨none, values⟩
  | .one v =>
    match v with
    | .object _ | .list _ => ⟨some v, [v]⟩
    | _ => ⟨none, [v]⟩

def Supply.next (s : Supply) : Filled (Value × Supply) :=
  match s.pending with
  | v :: rest => .ok (v, { s with pending := rest })
  | [] => refuse .wrongType "not enough arguments for format string"

/-- The value under a key, which becomes the only argument. -/
def Supply.choose (s : Supply) (key : String) : Filled Supply :=
  match s.keyed with
  | some (.object fields) =>
    match Value.lookup fields key with
    | some v => .ok { s with pending := [v] }
    | none => .error (.missingKey key)
  | some _ => refuse .wrongType "list indices must be integers or slices, not str"
  | none => refuse .wrongType "format requires a mapping"

/-- The text of a key up to its closing parenthesis, and the rest. -/
def readKey? (depth : Nat) (read : List Char) : List Char → Option (String × List Char)
  | [] => none
  | c :: rest =>
    if c == ')' then
      if depth = 0 then some (String.ofList read.reverse, rest)
      else readKey? (depth - 1) (c :: read) rest
    else readKey? (if c == '(' then depth + 1 else depth) (c :: read) rest

def readFlags (l : Layout) : List Char → Layout × List Char
  | '-' :: rest => readFlags { l with left := true } rest
  | '+' :: rest => readFlags { l with sign := true } rest
  | ' ' :: rest => readFlags { l with blank := true } rest
  | '#' :: rest => readFlags { l with alternate := true } rest
  | '0' :: rest => readFlags { l with zero := true } rest
  | cs => (l, cs)

/-- A size that a reference may give: how it is called and how far it reaches. -/
structure Size where
  name : String
  /-- The name of the numbers that are large enough for it. -/
  range : String
  /-- The first number beyond it. -/
  beyond : Nat

def Size.width : Size := ⟨"width", "ssize_t", 0x8000000000000000⟩

def Size.precision : Size := ⟨"precision", "int", 0x80000000⟩

/-- A number in the template, or one among the arguments in the place of a star. -/
def readSize (size : Size) (s : Supply) (cs : List Char) :
    Filled (Option Int × Supply × List Char) :=
  match cs with
  | '*' :: rest => do
    let (v, s) ← s.next
    match v with
    | .int i =>
      if -(size.beyond : Int) ≤ i ∧ i < size.beyond then return (some i, s, rest)
      else refuse .overflow ("Python int too large to convert to C " ++ size.range)
    | .bool b => return (some (Value.ofBool b), s, rest)
    | _ => refuse .wrongType "* wants int"
  | _ =>
    let digits := cs.takeWhile isAsciiDigit
    let rest := cs.dropWhile isAsciiDigit
    if digits.isEmpty then return (none, s, cs)
    else if digitsValue digits < size.beyond then return (some (digitsValue digits), s, rest)
    else refuse .value (size.name ++ " too big")

/-- Fill a field up to its width. `marks` is what zeros must stand behind. -/
def pad (l : Layout) (zeroFill : Bool) (marks body : List Char) : List Char :=
  let missing := l.width.getD 0 - (marks.length + body.length)
  if l.left then marks ++ body ++ List.replicate missing ' '
  else if zeroFill then marks ++ List.replicate missing '0' ++ body
  else List.replicate missing ' ' ++ marks ++ body

def signMark (l : Layout) (negative : Bool) : List Char :=
  if negative then ['-'] else if l.sign then ['+'] else if l.blank then [' '] else []

/-- A number laid out; `mark` is the mark of its base. -/
def numeral (l : Layout) (negative : Bool) (mark digits : List Char) : List Char :=
  pad l l.zero (signMark l negative ++ mark) digits

def baseOf (letter : Char) : Nat :=
  if letter == 'o' then 8 else if letter == 'x' || letter == 'X' then 16 else 10

def integerText (l : Layout) (letter : Char) (i : Int) : List Char :=
  let digits := Nat.toDigits (baseOf letter) i.natAbs
  let digits := List.replicate (l.precision.getD 0 - digits.length) '0' ++ digits
  let mark := if l.alternate && baseOf letter ≠ 10 then ['0', letter.toLower] else []
  let upper (cs : List Char) := if letter == 'X' then cs.map Char.toUpper else cs
  numeral l (i < 0) (upper mark) (upper digits)

/-- The integer to write; only decimal notation takes a fraction off. -/
def integerOf (letter : Char) (v : Value) : Filled Int :=
  let wrong (wanted : String) : Filled Int :=
    refuse .wrongType
      ("%" ++ String.singleton letter ++ " format: " ++ wanted ++ " is required, not " ++ v.kind)
  if baseOf letter ≠ 10 then
    match v with
    | .int i => .ok i
    | .bool b => .ok (Value.ofBool b)
    | _ => wrong "an integer"
  else match v with
    | .int _ | .bool _ | .float _ => v.toInt
    | _ => wrong "a real number"

/-- `d.ddd` with an exponent, for a number of places. -/
def exponentialText (alternate : Bool) (places : Nat) (x : Dyadic64) : List Char :=
  let s := x.significant (places + 1)
  let digits := s.digits.take 1 ++ (if places = 0 && alternate then ['.'] else [])
  if places = 0 then digits ++ 'e' :: exponentText s.exponent else s.exponential 'e'

/-- The general notation; the alternate form keeps closing zeros and the point. -/
def generalNotation (alternate : Bool) (count : Nat) (x : Dyadic64) : List Char :=
  if !alternate then generalText count x
  else
    let count := max count 1
    let s := x.significant count
    let withPoint (parts : List Char × List Char) := parts.1 ++ '.' :: parts.2
    if -4 ≤ s.exponent && s.exponent < (count : Int) then withPoint s.positional
    else withPoint (s.digits.splitAt 1) ++ 'e' :: exponentText s.exponent

def magnitudeText (l : Layout) (letter : Char) (x : Dyadic64) : List Char :=
  let places := l.precision.getD 6
  match letter.toLower with
  | 'e' => exponentialText l.alternate places x
  | 'f' => fixedText id places x ++ (if places = 0 && l.alternate then ['.'] else [])
  | _ => generalNotation l.alternate places x

def floatNotation (l : Layout) (letter : Char) (f : Float) : List Char :=
  let (negative, body) := match FloatView.ofFloat f with
    | .finite negative x => (negative, magnitudeText l letter x)
    | .infinite negative => (negative, "inf".toList)
    | .undefined => (false, "nan".toList)
  let body := if letter.isUpper then body.map Char.toUpper else body
  numeral l negative [] body

/-- The float to write; texts are not read as numbers. -/
def floatOf (v : Value) : Filled Float :=
  match v with
  | .int _ | .bool _ | .float _ => v.toFloat
  | _ => refuse .wrongType ("must be real number, not " ++ v.kind)

/-- A single character, given by itself or by its code point. -/
def characterOf (v : Value) : Filled Char :=
  let wrong : Filled Char := refuse .wrongType "%c requires int or char"
  let ofCode (i : Int) : Filled Char :=
    if 0 ≤ i ∧ i < 0x110000 then .ok (Char.ofNat i.toNat)
    else refuse .overflow "%c arg not in range(0x110000)"
  match v with
  | .int i => ofCode i
  | .bool b => ofCode (Value.ofBool b)
  | .text s =>
    match s.toList with
    | [c] => .ok c
    | _ => wrong
  | _ => wrong

def asciiChar (c : Char) : List Char :=
  let n := c.toNat
  if n < 0x80 then [c]
  else if n < 0x100 then '\\' :: 'x' :: Text.hexDigits 2 n
  else if n < 0x10000 then '\\' :: 'u' :: Text.hexDigits 4 n
  else '\\' :: 'U' :: Text.hexDigits 8 n

def textField (l : Layout) (s : String) : List Char :=
  let cs := match l.precision with
    | some n => s.toList.take n
    | none => s.toList
  pad l false [] cs

/-- An argument in the notation of a letter; `position` is the letter's place in the template. -/
def write (l : Layout) (letter : Char) (position : Nat) (v : Value) : Filled (List Char) := do
  match letter with
  | 's' => return textField l v.plain
  | 'r' => return textField l v.shown
  | 'a' => return textField l (String.ofList (v.shown.toList.flatMap asciiChar))
  | 'd' | 'i' | 'u' | 'o' | 'x' | 'X' => return integerText l letter (← integerOf letter v)
  | 'e' | 'E' | 'f' | 'F' | 'g' | 'G' => return floatNotation l letter (← floatOf v)
  | 'c' => return pad { l with precision := none } false [] [← characterOf v]
  | c =>
    let shown := if 31 ≤ c.toNat ∧ c.toNat ≤ 126 then c else '?'
    refuse .value
      ("unsupported format character '" ++ String.singleton shown ++ "' (0x"
        ++ String.ofList (Nat.toDigits 16 c.toNat) ++ ") at index " ++ toString position)

/-- One reference behind its percent sign: its text, what is left of arguments and template. -/
def reference (length : Nat) (s : Supply) (cs : List Char) :
    Filled (List Char × Supply × List Char) := do
  let (s, cs) ← match cs with
    | '(' :: rest =>
      if s.keyed.isNone then refuse .wrongType "format requires a mapping"
      else match readKey? 0 [] rest with
        | some (key, more) => do pure (← s.choose key, more)
        | none => refuse .value "incomplete format key"
    | _ => pure (s, cs)
  let (l, cs) := readFlags {} cs
  let (width, s, cs) ← readSize .width s cs
  let l := match width with
    | some w => { l with width := some w.natAbs, left := l.left || w < 0 }
    | none => l
  let (l, s, cs) ← match cs with
    | '.' :: rest => do
      let (precision, s, cs) ← readSize .precision s rest
      pure ({ l with precision := some (precision.getD 0).toNat }, s, cs)
    | _ => pure (l, s, cs)
  let cs := match cs with
    | 'h' :: rest | 'l' :: rest | 'L' :: rest => rest
    | _ => cs
  match cs with
  | [] => refuse .value "incomplete format"
  | letter :: rest =>
    let (v, s) ← s.next
    let text ← write l letter (length - cs.length) v
    if s.keyed.isSome && !s.pending.isEmpty then
      refuse .wrongType "not all arguments converted during string formatting"
    else return (text, s, rest)

def fillFrom (length : Nat) (fuel : Nat) (s : Supply) (cs : List Char) :
    Filled (List Char) := do
  match fuel, cs with
  | 0, _ | _, [] =>
    if s.keyed.isNone && !s.pending.isEmpty then
      refuse .wrongType "not all arguments converted during string formatting"
    else return []
  | fuel + 1, '%' :: '%' :: rest => return '%' :: (← fillFrom length fuel s rest)
  | fuel + 1, '%' :: rest =>
    let (text, s, rest) ← reference length s rest
    return text ++ (← fillFrom length fuel s rest)
  | fuel + 1, c :: rest => return c :: (← fillFrom length fuel s rest)

def fill (template : String) (arguments : Arguments) : Filled String := do
  let cs := template.toList
  return String.ofList (← fillFrom cs.length cs.length (Supply.start arguments) cs)

end BucketStore.Template
