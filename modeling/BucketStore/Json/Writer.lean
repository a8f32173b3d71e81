import BucketStore.Value

namespace BucketStore.Json

def unitEscape (n : Nat) : List Char :=
  '\\' :: 'u' :: Text.hexDigits 4 n

def escaped (c : Char) : List Char :=
  if c == '"' then ['\\', '"']
  else if c == '\\' then ['\\', '\\']
  else if c == '\n' then ['\\', 'n']
  else if c == '\r' then ['\\', 'r']
  else if c == '\t' then ['\\', 't']
  else if c == '\x08' then ['\\', 'b']
  else if c == '\x0c' then ['\\', 'f']
  else
    let n := c.toNat
    if 0x20 ≤ n ∧ n < 0x7f then [c]
    else if n < 0x10000 then unitEscape n
    else unitEscape (0xd800 + (n - 0x10000) / 0x400) ++ unitEscape (0xdc00 + (n - 0x10000) % 0x400)

def string (s : String) : String :=
  String.ofList ('"' :: s.toList.flatMap escaped ++ ['"'])

/-- A float; infinities and the undefined number have names. -/
def number (f : Float) : String :=
  match FloatView.ofFloat f with
  | .finite _ _ => floatText f
  | .infinite negative => if negative then "-Infinity" else "Infinity"
  | .undefined => "NaN"

mutual

def write : Value → String
  | .null => "null"
  | .bool true => "true"
  | .bool false => "false"
  | .int i => intText i
  | .float f => number f
  | .text s => string s
  | .list items => "[" ++ writeItems items ++ "]"
  | .object fields => "\x7b" ++ writeFields fields ++ "\x7d"
  | .other s => string s

def writeItems : List Value → String
  | [] => ""
  | [v] => write v
  | v :: rest => write v ++ ", " ++ writeItems rest

def writeFields : List (String × Value) → String
  | [] => ""
  | [(k, v)] => string k ++ ": " ++ write v
  | (k, v) :: rest => string k ++ ": " ++ write v ++ ", " ++ writeFields rest

end

end BucketStore.Json
