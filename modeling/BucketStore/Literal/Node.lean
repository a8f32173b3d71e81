import BucketStore.Literal.Escape
import BucketStore.Literal.Form

namespace BucketStore.Literal

namespace Node

def word? : Node → Option String
  | .leaf token => if token.kind == .mark then some (String.ofList token.chars) else none
  | .node .. => none

def name? : Node → Option String
  | .leaf token => if token.kind == .name then some (String.ofList token.chars) else none
  | .node .. => none

def quotations (parts : List Node) : List Quotation :=
  parts.filterMap fun
    | .leaf token => some (.ofChars token.chars)
    | .node .. => none

def title : Node → String
  | .leaf token => if token.kind == .name then "name" else "literal"
  | .node shape parts =>
    match shape with
    | .constant =>
      match parts.head?.bind word? with
      | some "..." => "ellipsis"
      | some word => word
      | none => "literal"
    | .text => if (quotations parts).any (·.isFormatted) then "f-string expression" else "literal"
    | .tuple => "tuple"
    | .set => "set display"
    | .dictionary => "dict literal"
    | .call => "function call"
    | .attribute => "attribute"
    | .lambda => "lambda"
    | .logical | .binary | .unary => "expression"
    | .comparison => "comparison"
    | .conditional => "conditional expression"
    | .assignment => "named expression"
    | .starred => "starred"
    | .awaited => "await expression"
    | .yielded => "yield expression"
    | .generator => "generator expression"
    | .setGenerator => "set comprehension"
    | .dictionaryGenerator => "dict comprehension"
    | .pair | .unpacking | .arguments | .keyword | .keywords => "expression"

mutual

/-- The title of the first part that a loop cannot assign to. Of a membership test the left side
counts, as a loop has the same form. -/
def badTarget? : Node → Option String
  | .leaf token => if token.kind == .number then some (title (.leaf token)) else none
  | .node shape parts =>
    match shape with
    | .tuple | .starred => badTargetIn? parts
    | .comparison =>
      match parts with
      | left :: operator :: _ => if operator.word? == some "in" then badTarget? left else none
      | _ => none
    | .attribute => none
    | shape => some (title (.node shape parts))

def badTargetIn? : List Node → Option String
  | [] => none
  | part :: rest => badTarget? part <|> badTargetIn? rest

end

def elements (parts : List Node) : List Node :=
  parts.filter (!isWordLeaf ·)

def argumentsOf : Node → List Node
  | .node .arguments parts => elements parts
  | _ => []

def isNamedArgument : Node → Bool
  | .node .keyword _ | .node .keywords _ => true
  | _ => false

def isKeywords : Node → Bool
  | .node .keywords _ => true
  | _ => false

end Node

end BucketStore.Literal
