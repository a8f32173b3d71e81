import BucketStore.Literal.Defect

namespace BucketStore.Literal

/-- Words that may stand directly behind a number. -/
def wordsBehindNumber : List String :=
  ["and", "else", "for", "or", "not"]

/-- Two letters with which a word may begin directly behind a number. -/
def startsBehindNumber : List String :=
  ["if", "in", "is"]

/-- A character of a name, as far as that is known without a look at other scripts. -/
def isNameChar (c : Char) : Bool :=
  c.isAlphanum || c == '_' || c.toNat ≥ 128

/-- Does one of the words that may follow a number begin a text? -/
def mayFollow (cs : List Char) : Bool :=
  startsBehindNumber.any (·.toList.isPrefixOf cs)
    || wordsBehindNumber.contains (String.ofList (cs.takeWhile isNameChar))

/-- No ASCII character of a name stands directly behind a number. -/
def numberEnd (kind : String) (cs : List Char) : Except Defect (List Char) :=
  if mayFollow cs then .ok cs
  else if cs.head?.any fun c => isNameChar c && c.toNat < 128 then .error (.number kind)
  else .ok cs

/-- The rest behind digits; each underscore has to stand between two of them. -/
def decimalRest : List Char → Except Defect (List Char)
  | [] => .ok []
  | c :: rest =>
    if c.isDigit then decimalRest rest
    else if c == '_' then
      if rest.head?.any Char.isDigit then decimalRest rest else .error (.number "decimal")
    else .ok (c :: rest)

structure Radix where
  kind : String
  isDigit : Char → Bool

def Radix.ofLetter? : Char → Option Radix
  | 'x' | 'X' => some ⟨"hexadecimal", fun c => (Text.hexDigit? c.toLower).isSome⟩
  | 'o' | 'O' => some ⟨"octal", fun c => '0' ≤ c && c ≤ '7'⟩
  | 'b' | 'B' => some ⟨"binary", fun c => c == '0' || c == '1'⟩
  | _ => none

/-- What is wrong where a digit of a base should stand. -/
def Radix.defect (r : Radix) (cs : List Char) : Defect :=
  match cs.head? with
  | some c => if c.isDigit then .strayDigit c r.kind else .number r.kind
  | none => .number r.kind

/-- The rest behind the digits of a base. `isDue` says that a digit has to follow, `isFirst` that
none stood before. -/
def Radix.rest (r : Radix) (isFirst isDue : Bool) : List Char → Except Defect (List Char)
  | [] => if isDue then .error (r.defect []) else .ok []
  | c :: rest =>
    if r.isDigit c then r.rest false false rest
    else if c == '_' && (isFirst || !isDue) then r.rest false true rest
    else if isDue || c.isDigit then .error (r.defect (c :: rest))
    else numberEnd r.kind (c :: rest)

/-- The rest behind the sign of an imaginary number, which may be absent. -/
def imaginaryRest : List Char → Except Defect (List Char)
  | 'j' :: rest | 'J' :: rest => numberEnd "imaginary" rest
  | cs => numberEnd "decimal" cs

def exponentRest (cs : List Char) : Except Defect (List Char) :=
  match cs with
  | e :: rest =>
    if e == 'e' || e == 'E' then
      match rest with
      | c :: digits =>
        if c == '+' || c == '-' then
          if digits.head?.any Char.isDigit then decimalRest digits >>= imaginaryRest
          else .error (.number "decimal")
        else if c.isDigit then decimalRest rest >>= imaginaryRest
        else numberEnd "decimal" cs
      | [] => numberEnd "decimal" cs
    else imaginaryRest cs
  | [] => .ok []

/-- The rest behind the digits of a fraction, and what may follow them. -/
def fractionRest (cs : List Char) : Except Defect (List Char) :=
  if cs.head?.any Char.isDigit then decimalRest cs >>= exponentRest else exponentRest cs

def isZeroDigit (c : Char) : Bool :=
  c == '0' || c == '_'

/-- A decimal number other than zero starts with no zero, unless it is a fraction or imaginary. -/
def startsInVain (cs rest : List Char) : Bool :=
  cs.head? == some '0' && !(cs.take (cs.length - rest.length)).all isZeroDigit
    && !rest.head?.any (['e', 'E', 'j', 'J'].contains ·)

def wholeRest (cs : List Char) : Except Defect (List Char) := do
  let rest ← decimalRest cs
  match rest with
  | '.' :: rest => fractionRest rest
  | _ => if startsInVain cs rest then .error .leadingZeros else exponentRest rest

def numberRest (cs : List Char) : Except Defect (List Char) :=
  match cs with
  | '.' :: rest => fractionRest rest
  | '0' :: c :: rest =>
    match Radix.ofLetter? c with
    | some r => r.rest true true rest
    | none => wholeRest cs
  | _ => wholeRest cs

def mostDigits : Nat := 4300

/-- Decimal numbers are limited in length. -/
def lengthDefect? (chars : List Char) : Option Defect :=
  let digits := chars.filter (· != '_')
  if digits.all Char.isDigit && digits.head? != some '0' && digits.length > mostDigits then
    some (.tooManyDigits digits.length)
  else none

end BucketStore.Literal
