import BucketStore.Literal.Attempt
import BucketStore.Literal.Formatted
import BucketStore.Literal.Kind
import BucketStore.Text.Lines

namespace BucketStore.Literal

/-- The first defect of texts in a row. The parts of formatted texts are read like the whole, as
often within one another as the fuel lasts; each is shorter than the text it stands in. -/
def textDefect? : Nat → List Quotation → Option Defect
  | 0, _ => none
  | fuel + 1, texts =>
    let grammar := expressionGrammar (textDefect? fuel)
    let partDefect? (part : List Char) :=
      let text := '(' :: part ++ [')', '\n']
      match (Attempt.of grammar .starredExpressions true text).expression with
      | .ok _ => none
      | .error defect => some defect
    Quotation.rowDefect? partDefect? none texts

def expressionOf (cs : List Char) : Except Defect Node :=
  (Attempt.of (expressionGrammar (textDefect? (cs.length + 1))) .whole false cs).expression

def read (cs : List Char) : Except Defect Kind :=
  if cs.contains '\x00' then .error .nul
  else do
    let node ← expressionOf (Text.unifyBreaks cs)
    node.kind

end BucketStore.Literal
