import BucketStore.Number.Show
import BucketStore.Text.Quoted

namespace BucketStore

inductive Value where
  | null
  | bool (b : Bool)
  | int (i : Int)
  | float (f : Float)
  | text (s : String)
  | list (items : List Value)
  | object (fields : List (String × Value))
  /-- Something that only has a text. -/
  | other (text : String)
deriving Inhabited

namespace Value

def kind : Value → String
  | .null => "NoneType"
  | .bool _ => "bool"
  | .int _ => "int"
  | .float _ => "float"
  | .text _ => "str"
  | .list _ => "list"
  | .object _ => "dict"
  | .other _ => "object"

/-- Nothing, false, zero and what is empty count as false. -/
def truth : Value → Bool
  | .null => false
  | .bool b => b
  | .int i => i ≠ 0
  | .float f => f != 0.0
  | .text s => !s.isEmpty
  | .list items => !items.isEmpty
  | .object fields => !fields.isEmpty
  | .other _ => true

def lookup (fields : List (String × Value)) (key : String) : Option Value :=
  (fields.reverse.find? (·.1 == key)).map (·.2)

def field? (v : Value) (key : String) : Option Value :=
  match v with
  | .object fields => lookup fields key
  | _ => none

mutual

/-- The text that shows what a value is: texts stand in quotes. -/
def shown : Value → String
  | .null => "None"
  | .bool true => "True"
  | .bool false => "False"
  | .int i => intText i
  | .float f => floatText f
  | .text s => Text.quoted s
  | .list items => "[" ++ shownItems items ++ "]"
  | .object fields => "\x7b" ++ shownFields fields ++ "\x7d"
  | .other s => s

def shownItems : List Value → String
  | [] => ""
  | [v] => shown v
  | v :: rest => shown v ++ ", " ++ shownItems rest

def shownFields : List (String × Value) → String
  | [] => ""
  | [(k, v)] => Text.quoted k ++ ": " ++ shown v
  | (k, v) :: rest => Text.quoted k ++ ": " ++ shown v ++ ", " ++ shownFields rest

end

/-- The plain text of a value: a text is itself. -/
def plain : Value → String
  | .text s => s
  | v => shown v

end Value

end BucketStore
