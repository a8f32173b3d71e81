import BucketStore.Literal.Node

namespace BucketStore.Literal

/-- As much of a value as decides where it may stand. -/
inductive Kind where
  | real
  | imaginary
  | other
  | unhashable (name : String)
deriving Repr, DecidableEq

namespace Kind

/-- A key, or an element of a set. -/
def asKey : Kind → Except Defect Unit
  | .unhashable name => .error (.unhashable name)
  | _ => .ok ()

/-- A tuple is hashable if its elements are. -/
def ofTuple (kinds : List Kind) : Kind :=
  (kinds.find? fun
    | .unhashable _ => true
    | _ => false).getD .other

end Kind

namespace Node

def number? : Node → Option Kind
  | .leaf token =>
    if token.kind == .number then
      some (if token.chars.getLast? == some 'j' || token.chars.getLast? == some 'J'
        then .imaginary else .real)
    else none
  | .node .. => none

def isSign (sign : Node) : Bool :=
  sign.word? == some "+" || sign.word? == some "-"

def signedNumber? : Node → Option Kind
  | .node .unary [sign, number] => if sign.isSign then number? number else none
  | other => number? other

/-- An imaginary number may be added to a real one, which may have a sign. -/
def sum? : List Node → Option Kind
  | [left, sign, right] =>
    if sign.isSign && signedNumber? left == some .real && number? right == some .imaginary
    then some .imaginary else none
  | _ => none

def isEmptySet : List Node → Bool
  | [called, opening, closing] =>
    called.name? == some "set" && isWordLeaf opening && isWordLeaf closing
  | _ => false

mutual

def kind : Node → Except Defect Kind
  | .leaf token =>
    match number? (.leaf token) with
    | some kind => .ok kind
    | none => .error (.noLiteral false)
  | .node shape parts =>
    match shape with
    | .constant => .ok .other
    | .text =>
      if (quotations parts).any (·.isFormatted) then .error (.noLiteral false) else .ok .other
    | .tuple => (kinds parts).map Kind.ofTuple
    | .set => do
      checkElements parts
      return .unhashable "set"
    | .dictionary => do
      checkEntries parts
      return .unhashable "dict"
    | .call => if isEmptySet parts then .ok (.unhashable "set") else .error (.noLiteral false)
    | .unary =>
      match signedNumber? (.node .unary parts) with
      | some kind => .ok kind
      | none => .error (.noLiteral false)
    | .binary =>
      match sum? parts with
      | some kind => .ok kind
      | none => .error (.noLiteral false)
    | _ => .error (.noLiteral false)

def kinds : List Node → Except Defect (List Kind)
  | [] => .ok []
  | part :: rest =>
    if isWordLeaf part then kinds rest
    else do
      let kind ← kind part
      return kind :: (← kinds rest)

def checkElements : List Node → Except Defect Unit
  | [] => .ok ()
  | part :: rest =>
    if isWordLeaf part then checkElements rest
    else do
      (← kind part).asKey
      checkElements rest

/-- Entries are added to a dictionary one after the other, each with its value. -/
def checkEntries : List Node → Except Defect Unit
  | [] => .ok ()
  | part :: rest =>
    match part with
    | .leaf _ => checkEntries rest
    | .node .pair [key, _, value] => do
      let key ← kind key
      let _ ← kind value
      key.asKey
      checkEntries rest
    | .node _ _ => .error (.noLiteral true)

end

end Node

end BucketStore.Literal
