/-!
UTF-8: the characters that bytes encode, or the place and kind of the first mistake. A lossy
reading puts one replacement character for each mistake.
-/

namespace BucketStore.Text

inductive Utf8Flaw where
  | start
  | continuation
  | ending
deriving Repr, DecidableEq

def Utf8Flaw.reason : Utf8Flaw → String
  | .start => "invalid start byte"
  | .continuation => "invalid continuation byte"
  | .ending => "unexpected end of data"

/-- The first character of some bytes and its length, or a flaw and the length it covers. -/
inductive Utf8Step where
  | char (c : Char) (length : Nat)
  | flaw (kind : Utf8Flaw) (length : Nat)
deriving Repr

/-- The number of bytes a first byte asks for, zero if it is none. -/
def utf8Length (b : Nat) : Nat :=
  if b < 0x80 then 1
  else if b < 0xc2 then 0
  else if b < 0xe0 then 2
  else if b < 0xf0 then 3
  else if b < 0xf5 then 4
  else 0

/-- The range of a second byte: overlong forms, surrogates and code points beyond the last are
left out. -/
def secondRange (first : Nat) : Nat × Nat :=
  if first = 0xe0 then (0xa0, 0xbf)
  else if first = 0xed then (0x80, 0x9f)
  else if first = 0xf0 then (0x90, 0xbf)
  else if first = 0xf4 then (0x80, 0x8f)
  else (0x80, 0xbf)

/-- The value of continuation bytes, or how many were read before the first bad one. -/
def continuations (range : Nat × Nat) (value read : Nat) :
    Nat → List UInt8 → Except (Utf8Flaw × Nat) Nat
  | 0, _ => .ok value
  | _ + 1, [] => .error (.ending, read)
  | n + 1, b :: rest =>
    if range.1 ≤ b.toNat ∧ b.toNat ≤ range.2 then
      continuations (0x80, 0xbf) (value * 64 + b.toNat % 64) (read + 1) n rest
    else .error (.continuation, read)

def utf8Step (b : UInt8) (rest : List UInt8) : Utf8Step :=
  let first := b.toNat
  match utf8Length first with
  | 0 => .flaw .start 1
  | 1 => .char (Char.ofNat first) 1
  | n + 2 =>
    let lead := first % Nat.pow 2 (5 - n)
    match continuations (secondRange first) lead 1 (n + 1) rest with
    | .ok value => .char (Char.ofNat value) (n + 2)
    | .error (kind, length) => .flaw kind length

structure Utf8Error where
  start : Nat
  length : Nat
  first : UInt8
  flaw : Utf8Flaw
deriving Repr

def decodeUtf8 (bytes : List UInt8) : Except Utf8Error String :=
  go bytes.length 0 [] bytes
where
  go : Nat → Nat → List Char → List UInt8 → Except Utf8Error String
    | _, _, read, [] => .ok (String.ofList read.reverse)
    | 0, _, read, _ => .ok (String.ofList read.reverse)
    | fuel + 1, position, read, b :: rest =>
      match utf8Step b rest with
      | .char c n => go fuel (position + n) (c :: read) (rest.drop (n - 1))
      | .flaw kind n => .error ⟨position, n, b, kind⟩

def decodeLossy (bytes : List UInt8) : String :=
  go bytes.length [] bytes
where
  go : Nat → List Char → List UInt8 → String
    | _, read, [] => String.ofList read.reverse
    | 0, read, _ => String.ofList read.reverse
    | fuel + 1, read, b :: rest =>
      match utf8Step b rest with
      | .char c n => go fuel (c :: read) (rest.drop (n - 1))
      | .flaw _ n => go fuel ('\ufffd' :: read) (rest.drop (n - 1))

def encodeChar (c : Char) : List UInt8 :=
  String.utf8EncodeChar c

def encodeUtf8 (text : String) : List UInt8 :=
  text.toList.flatMap encodeChar

end BucketStore.Text
