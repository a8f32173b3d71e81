import BucketStore.Literal.Token

/-!
Quoted texts of a literal: what their letters say of them, and what is wrong with their escapes.
Places in a text count every character beyond ASCII as the ten characters of its long escape.
-/

namespace BucketStore.Literal

structure Quotation where
  isBinary : Bool
  isRaw : Bool
  isFormatted : Bool
  body : List Char
deriving Repr, DecidableEq

namespace Quotation

def inside (n : Nat) (cs : List Char) : List Char :=
  (cs.drop n).take (cs.length - n - n)

def ofChars (cs : List Char) : Quotation :=
  let letters := (cs.takeWhile (!isQuote ·)).map Char.toLower
  let quoted := cs.dropWhile (!isQuote ·)
  let isLong := match quoted with
    | a :: b :: c :: _ :: _ :: _ :: _ => a == b && b == c
    | _ => false
  ⟨letters.contains 'b', letters.contains 'r', letters.contains 'f',
    inside (if isLong then 3 else 1) quoted⟩

end Quotation

def placesOf (c : Char) : Nat :=
  if c.toNat < 128 then 1 else 10

/-- The number of digits that the letter of an escape calls for. -/
def escapeDigits? : Char → Option Nat
  | 'x' => some 2
  | 'u' => some 4
  | 'U' => some 8
  | _ => none

def isHexDigit (c : Char) : Bool :=
  (Text.hexDigit? c.toLower).isSome

/-- The defect of an escape by number, which begins at a place and whose digits follow. -/
def numberDefect? (place : Nat) (letter : Char) (count : Nat) (rest : List Char) : Option Defect :=
  let digits := (rest.take count).takeWhile isHexDigit
  let last := place + 1 + digits.length
  if digits.length < count then
    some (.escape place last
      ("truncated \\" ++ String.ofList (letter :: List.replicate count 'X') ++ " escape"))
  else if Text.hexValue (digits.map Char.toLower) > 0x10ffff then
    some (.escape place last "illegal Unicode character")
  else none

/-- Names of characters consist of these; all such names are taken to name one. -/
def isNameOfChar (name : List Char) : Bool :=
  name.all fun c => c.isAlphanum || c == ' ' || c == '-'

def nameDefect? (place : Nat) (rest : List Char) : Option Defect :=
  let malformed (last : Nat) := some (Defect.escape place last "malformed \\N character escape")
  match rest with
  | '{' :: rest =>
    let name := rest.takeWhile (· != '}')
    let last := name.foldl (fun n c => n + placesOf c) (place + 2)
    if name.length = rest.length then malformed last
    else if name.isEmpty then malformed (place + 2)
    else if !isNameOfChar name then
      some (.escape place (last + 1) "unknown Unicode character name")
    else none
  | _ => malformed (place + 1)

/-- The first defect among the escapes of a text that begins at a place. -/
def escapeDefect? (place : Nat) : List Char → Option Defect
  | [] => none
  | c :: rest =>
    if c == '\\' then
      match rest with
      | [] => none
      | letter :: rest =>
        if letter.toNat ≥ 128 then escapeDefect? (place + 16) rest
        else (match escapeDigits? letter with
          | some count => numberDefect? place letter count rest
          | none => if letter == 'N' then nameDefect? place rest else none)
            <|> escapeDefect? (place + 2) rest
    else escapeDefect? (place + placesOf c) rest

def byteDefect? (place : Nat) : List Char → Option Defect
  | '\\' :: 'x' :: rest =>
    if ((rest.take 2).takeWhile isHexDigit).length < 2 then some (.byteEscape place)
    else byteDefect? (place + 2) rest
  | '\\' :: _ :: rest => byteDefect? (place + 2) rest
  | _ :: rest => byteDefect? (place + 1) rest
  | [] => none

end BucketStore.Literal
