import BucketStore.Value
import BucketStore.Number.Reading
import BucketStore.Fault

namespace BucketStore.Value

def ofBool (b : Bool) : Int :=
  if b then 1 else 0

def intToFloat (i : Int) : Except Problem Float :=
  match floatOfInt? i with
  | some f => .ok f
  | none => .error .tooLargeForFloat

def toFloat : Value → Except Problem Float
  | .float f => .ok f
  | .int i => intToFloat i
  | .bool b => intToFloat (ofBool b)
  | .text s =>
    match readFloat? s with
    | some f => .ok f
    | none => .error (.malformedFloat (Text.quoted s))
  | v => .error (.noFloat v.kind)

def floatToInt (f : Float) : Except Problem Int :=
  match FloatView.ofFloat f with
  | .finite negative x => .ok (if negative then -(x.floor : Int) else x.floor)
  | .infinite _ => .error .infinityAsInt
  | .undefined => .error .nanAsInt

def toInt : Value → Except Problem Int
  | .int i => .ok i
  | .bool b => .ok (ofBool b)
  | .float f => floatToInt f
  | .text s =>
    match readInt s with
    | .value i => .ok i
    | .malformed => .error (.malformedInt (Text.quoted s))
    | .tooLong count => .error (.tooManyDigits count)
  | v => .error (.noInt v.kind)

/-- The two columns of a row. A text has its characters as columns, an object its keys. -/
def pair (row : Value) : Except Problem (Value × Value) :=
  let columns : Option (List Value) := match row with
    | .list items => some items
    | .text s => some (s.toList.map fun c => .text (String.singleton c))
    | .object fields => some (fields.map fun field => .text field.1)
    | _ => none
  match columns with
  | some [a, b] => .ok (a, b)
  | some [] => .error (.tooFewColumns 0)
  | some [_] => .error (.tooFewColumns 1)
  | some _ => .error .tooManyColumns
  | none => .error (.noColumns row.kind)

end BucketStore.Value
