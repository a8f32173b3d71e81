import BucketStore.Literal.Grammar

/-!
Attempts to read a text by the grammar of expressions. The text is tried once as it is; if the
grammar refuses it, the forms that tell why are tried too. A defect of the tokens further on goes
before one of the grammar.
-/

namespace BucketStore.Literal

/-- Defects of single tokens are told wherever they stand. -/
def Defect.isOfToken : Defect → Bool
  | .tooDeep | .unmatched _ | .mismatched .. | .openText _ | .openLongText _ | .number _
  | .strayDigit .. | .leadingZeros | .character _ => true
  | _ => false

/-- Might a further character belong to a token? -/
def Token.isOpenEnded (token : Token) : Bool :=
  match token.kind with
  | .text => token.chars.length < 6 && (Quotation.ofChars token.chars).body.isEmpty
  | .mark => token.chars.any Char.isAlpha || token.chars.length < 3
  | _ => true

/-- What an attempt is made on: a text divided into tokens, and the phrase that it should begin
with. -/
structure Attempt where
  grammar : Grammar Phrase
  phrase : Phrase
  /-- Defects of the grammar are told as ones of a part. -/
  isPart : Bool
  scan : Scan
  /-- The defect behind the last token. -/
  defect? : Option Defect

namespace Attempt

def of (grammar : Grammar Phrase) (phrase : Phrase) (isPart : Bool) (cs : List Char) : Attempt :=
  let (scan, defect?) := scanText cs
  ⟨grammar, phrase, isPart, scan, defect?⟩

def source (a : Attempt) : Source :=
  ⟨a.scan.tokens, a.defect?⟩

def size (a : Attempt) : Nat :=
  a.scan.tokens.size

def lastOf? (a : Attempt) (seen : Nat) : Option Token :=
  a.scan.tokens[seen - 1]?

/-- Do the first tokens include one whose end only the end of the text tells? -/
def hasSeenEnd (a : Attempt) (seen : Nat) : Bool :=
  seen = a.size && a.scan.endsInToken && (a.scan.tokens.back?.any Token.isOpenEnded)

/-- A defect of a part is told as one, unless it is one of a token or of a part within. -/
def asTold (a : Attempt) (defect : Defect) : Defect :=
  match defect with
  | .inPart inner => .inPart inner
  | defect => if a.isPart && !defect.isOfToken then .inPart defect else defect

/-- The defect that counts if the grammar has found one in the first tokens, or none in particular.
A bracket that is never closed counts if a line of its own begins behind it, unless the grammar has
seen the end of the text. -/
def weightier (a : Attempt) (seen : Nat) (defect : Defect) : Defect :=
  if seen > a.size then defect
  else match a.defect? with
    | none => defect
    | some later =>
      if later.isOfToken then later
      else match a.scan.openings with
        | [] => defect
        | (opening, line) :: _ =>
          if (a.lastOf? seen).any (·.line > line) && (defect == .general || !a.hasSeenEnd seen)
          then .neverClosed opening
          else defect

def told (a : Attempt) (seen : Nat) (defect : Defect) : Defect :=
  a.asTold (a.weightier seen defect)

/-- More trials than a text of that many tokens takes within one another. -/
def bound (a : Attempt) : Nat :=
  1000 * (a.size + 2)

def run (a : Attempt) (isHelping : Bool) (seen : Nat) : Except Defect Outcome × Progress Phrase :=
  (a.grammar.attempt a.source a.bound isHelping (.named a.phrase) 0).run.run
    ⟨seen, Array.replicate (a.size + 1) []⟩

/-- The defect of a text that the grammar refuses; `seen` tokens were looked at. -/
def refusal (a : Attempt) (seen : Nat) : Defect :=
  match a.run true seen with
  | (.error defect, progress) => a.told progress.seen defect
  | (.ok _, progress) =>
    if (a.lastOf? seen).any (·.kind == .indent) then a.asTold .indentation
    else a.told progress.seen .general

def expression (a : Attempt) : Except Defect Node :=
  match a.run false 0 with
  | (.ok (.fits (node :: _) _), _) => .ok node
  | (.ok _, progress) => .error (a.refusal progress.seen)
  | (.error defect, progress) => .error (a.told progress.seen defect)

end Attempt

end BucketStore.Literal
