import BucketStore.Fault
import BucketStore.Literal.Reading
import BucketStore.Text.Blank

namespace BucketStore.Console.Handler

def isNameChar (c : Char) : Bool :=
  Text.isWordChar c || c == '.'

/-- The literal in a handler's text. A mere name is called without parameters. -/
def literal (cs : List Char) : List Char :=
  match cs.dropWhile isNameChar with
  | [] => ['(', ')']
  | '(' :: rest =>
    if rest.getLast? == some ')' && !rest.contains '\n' then '(' :: rest else cs
  | _ => cs

def check (parameters : List Char) : Except Problem Unit :=
  let literal := literal (Text.trim Text.isBlank parameters)
  let shown (cs : List Char) := Text.quoted (String.ofList cs)
  match Literal.read literal with
  | .ok _ => .ok ()
  | .error defect =>
    .error (.malformedParameters (if defect.isOfValue then none else some (shown literal))
      (shown parameters) defect.message)

end BucketStore.Console.Handler
