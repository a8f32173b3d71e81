import BucketStore.Literal.Node

/-!
The grammar of expressions in literals. Names that begin with `wrong` stand for forms that are
refused; each tells one way to go wrong.
-/

namespace BucketStore.Literal

inductive Phrase where
  | whole | expressions | expression | plainExpression | yielded
  | starredExpressions | starredExpression | starredItems | starredItem
  | assignment | item | disjunction | conjunction | inversion | comparison
  | bitwiseOr | bitwiseXor | bitwiseAnd | shift | sum | term | factor | power | awaited | primary
  | atom | group | texts | tuple | set | dictionary | entries | entry | pair
  | clauses | clause | generated | generator | setGenerator | dictionaryGenerator
  | arguments | givenArguments | keywords | starred | keywordOrStarred | keywordOrUnpacked
  | targets | target | plainTarget | atomTarget | targetTuple | targetPrimary
  | lambda | parameters | parametersToSlash | defaultsToSlash | parameter | parameterWithDefault
  | anyParameter | defaultValue | restParameters | keywordParameters
  | wrongExpression | wrongCall | wrongItem | wrongGroup | wrongEntries | wrongPair
  | wrongGenerator | wrongDictionaryGenerator | wrongTarget | wrongArguments | wrongKeyword
  | wrongParameters | wrongDefault | wrongRest | wrongKeywords
deriving Repr, DecidableEq

namespace Phrase

open Form

def name : Form Phrase := .kind .name

def leftBrace : Form Phrase := "\x7b"

def rightBrace : Form Phrase := "\x7d"

/-- What all refused forms of one kind are told by. -/
def always (defect : Defect) : List Node → Nat → Option Defect :=
  fun _ _ => some defect

def titled (defect : String → Defect) : List Node → Nat → Option Defect :=
  fun parts _ => parts.head?.map fun part => defect part.title

/-- Names that were once called without brackets. -/
def formerCall? (parts : List Node) : Option String :=
  (parts.head?.bind Node.name?).filter fun name => name == "print" || name == "exec"

/-- Outside brackets there is no comma to forget. -/
def commaDefect? (parts : List Node) (depth : Nat) : Option Defect :=
  if (formerCall? parts).isSome || depth = 0 then none else some .missingComma

def callDefect? (parts : List Node) (_ : Nat) : Option Defect :=
  (formerCall? parts).map .missingCall

def targetDefect? (parts : List Node) (_ : Nat) : Option Defect :=
  (Node.badTargetIn? parts).map .assignmentTo

/-- A generator without brackets is an argument only if it is the only one. -/
def generatorDefect? (parts : List Node) (_ : Nat) : Option Defect :=
  let given := (parts.head?.map Node.argumentsOf).getD []
  if (given.filter (!Node.isNamedArgument ·)).length ≤ 1 then none else some .bareGenerator

def orderDefect? (parts : List Node) (_ : Nat) : Option Defect :=
  let given := (parts.head?.map Node.argumentsOf).getD []
  some (if given.any Node.isKeywords then .positionalBehindUnpacking else .positionalBehindKeyword)

def numberDefect? (parts : List Node) : Option Defect :=
  parts.findSome? fun
    | .leaf token => lengthDefect? token.chars
    | .node .. => none

def constant (word : String) : Form Phrase :=
  .shaped .constant word

/-- Two or more of a form with an operator between them, or just one. -/
def joined (shape : Shape) (operator : String) (phrase : Phrase) : Form Phrase :=
  .any [.shaped shape (.all [phrase, Form.some (.all [operator, phrase])]), phrase]

/-- One or more of a form with some operators between them, from the left. -/
def leftwards (phrase : Phrase) (operators : List String) : Form Phrase :=
  .chain phrase (operators.map fun operator => (.binary, .all [.word operator.toList, phrase]))

/-- Two or more of a form make a tuple, and so does one with a comma. -/
def tupleOf (phrase : Phrase) : Form Phrase :=
  .any [
    .shaped .tuple (.all [phrase, Form.some (.all [",", phrase]), maybe ","]),
    .shaped .tuple (.all [phrase, ","]),
    phrase]

def conditionalOr (others : List (Form Phrase)) : Form Phrase :=
  .any (.shaped .conditional
    (.all [disjunction, "if", disjunction, "else", expression]) :: others)

def comparisonPart : Form Phrase :=
  .any [
    .all ["==", bitwiseOr], .all ["!=", bitwiseOr], .all ["<=", bitwiseOr], .all ["<", bitwiseOr],
    .all [">=", bitwiseOr], .all [">", bitwiseOr], .all ["not", "in", bitwiseOr],
    .all ["in", bitwiseOr], .all ["is", "not", bitwiseOr], .all ["is", bitwiseOr]]

/-- What a loop variable goes through, and the conditions on it. -/
def clauseEnd : Form Phrase :=
  .commit (.all [disjunction, .many (.all ["if", disjunction])])

def isCalledOrMember : Form Phrase :=
  .ahead (.any ["(", "."])

/-- A parameter of a lambda expression is followed by a comma, or by the colon at its end. -/
def parameterOf (form : Form Phrase) : Form Phrase :=
  .any [.all [form, ","], .all [form, .ahead ":"]]

def givenArgument : Form Phrase :=
  .any [starred, .all [generated, .unless "="]]

/-- The form of a phrase. What is wrong with the contents of texts is told by a judge of its own. -/
def form (textDefect? : List Quotation → Option Defect) : Phrase → Form Phrase
  | whole => .all [expressions, .many (.kind .lineEnd), .kind .stop]
  | expressions => tupleOf expression
  | expression => .any [
      .helping wrongExpression, .helping wrongCall, conditionalOr [disjunction, lambda]]
  | plainExpression => .plainly (conditionalOr [disjunction, lambda])
  | yielded => .any [
      .shaped .yielded (.all ["yield", "from", expression]),
      .shaped .yielded (.all ["yield", maybe starredExpressions])]
  | starredExpressions => tupleOf starredExpression
  | starredExpression => .any [.shaped .starred (.all ["*", bitwiseOr]), expression]
  | starredItems => .all [separated starredItem, maybe ","]
  | starredItem => .any [.shaped .starred (.all ["*", bitwiseOr]), item]
  | assignment => .shaped .assignment (.all [name, ":=", .commit expression])
  | item => .any [assignment, .helping wrongItem, .all [expression, .unless ":="]]
  | disjunction => joined .logical "or" conjunction
  | conjunction => joined .logical "and" inversion
  | inversion => .any [.shaped .unary (.all ["not", inversion]), comparison]
  | comparison => .any [
      .shaped .comparison (.all [bitwiseOr, Form.some comparisonPart]), bitwiseOr]
  | bitwiseOr => leftwards bitwiseXor ["|"]
  | bitwiseXor => leftwards bitwiseAnd ["^"]
  | bitwiseAnd => leftwards shift ["&"]
  | shift => leftwards sum ["<<", ">>"]
  | sum => leftwards term ["+", "-"]
  | term => leftwards factor ["*", "/", "//", "%", "@"]
  | factor => .any [
      .shaped .unary (.all ["+", factor]), .shaped .unary (.all ["-", factor]),
      .shaped .unary (.all ["~", factor]), power]
  | power => .any [.shaped .binary (.all [awaited, "**", factor]), awaited]
  | awaited => .any [.shaped .awaited (.all ["await", primary]), primary]
  | primary => .chain atom [
      (.attribute, .all [".", name]), (.call, generator),
      (.call, .all ["(", maybe arguments, ")"])]
  | atom => .any [
      name, constant "True", constant "False", constant "None",
      .all [.ahead (.kind .text), texts],
      .checked numberDefect? (.kind .number),
      .all [.ahead "(", .any [tuple, group, generator]],
      .all [.ahead leftBrace, .any [dictionary, set, dictionaryGenerator, setGenerator]],
      constant "..."]
  | group => .any [.bare (.all ["(", .any [yielded, item], ")"]), .helping wrongGroup]
  | texts => .shaped .text
      (.checked (textDefect? ∘ Node.quotations) (Form.some (.kind .text)))
  | tuple => .shaped .tuple
      (.all ["(", maybe (.all [starredItem, ",", maybe starredItems]), ")"])
  | set => .shaped .set (.all [leftBrace, starredItems, rightBrace])
  | dictionary => .any [
      .shaped .dictionary (.all [leftBrace, maybe entries, rightBrace]),
      .all [leftBrace, wrongEntries, rightBrace]]
  | entries => .all [separated entry, maybe ","]
  | entry => .any [.shaped .unpacking (.all ["**", bitwiseOr]), pair]
  | pair => .shaped .pair (.all [expression, ":", expression])
  | clauses => Form.some clause
  | clause => .any [
      .all ["async", "for", targets, "in", clauseEnd], .all ["for", targets, "in", clauseEnd],
      .helping wrongTarget]
  | generated => .any [assignment, .all [expression, .unless ":="]]
  | generator => .any [
      .shaped .generator (.all ["(", generated, clauses, ")"]), .helping wrongGenerator]
  | setGenerator => .any [
      .shaped .setGenerator (.all [leftBrace, item, clauses, rightBrace]), .helping wrongGenerator]
  | dictionaryGenerator => .any [
      .shaped .dictionaryGenerator (.all [leftBrace, pair, clauses, rightBrace]),
      .helping wrongDictionaryGenerator]
  | arguments => .any [.all [givenArguments, maybe ",", .ahead ")"], .helping wrongArguments]
  | givenArguments => .any [
      .shaped .arguments (.all [separated givenArgument, maybe (.all [",", keywords])]),
      .shaped .arguments keywords]
  | keywords => .any [
      .all [separated keywordOrStarred, ",", separated keywordOrUnpacked],
      separated keywordOrStarred, separated keywordOrUnpacked]
  | starred => .any [
      .shaped .starred (.all ["*", expression]), .refused (always .starredNothing) "*"]
  | keywordOrStarred => .any [
      .helping wrongKeyword, .shaped .keyword (.all [name, "=", expression]), starred]
  | keywordOrUnpacked => .any [
      .helping wrongKeyword, .shaped .keyword (.all [name, "=", expression]),
      .shaped .keywords (.all ["**", expression])]
  | targets => .any [
      .all [target, .unless ","],
      .shaped .tuple (.all [target, .many (.all [",", target]), maybe ","])]
  | target => .any [.shaped .starred (.all ["*", .unless "*", target]), plainTarget]
  | plainTarget => .any [
      .shaped .attribute (.all [targetPrimary, ".", name, .unless (.any ["(", "."])]), atomTarget]
  | atomTarget => .any [
      name, .bare (.all ["(", plainTarget, ")"]),
      .shaped .tuple (.all ["(", maybe targetTuple, ")"])]
  | targetTuple => .any [
      .all [target, Form.some (.all [",", target]), maybe ","], .all [target, ","]]
  | targetPrimary => .chain (.all [atom, isCalledOrMember]) [
      (.attribute, .all [".", name, isCalledOrMember]),
      (.call, .all [generator, isCalledOrMember]),
      (.call, .all ["(", maybe arguments, ")", isCalledOrMember])]
  | lambda => .shaped .lambda (.all ["lambda", maybe parameters, ":", expression])
  | parameters => .any [
      .helping wrongParameters,
      .all [parametersToSlash, .many parameter, .many parameterWithDefault, maybe restParameters],
      .all [defaultsToSlash, .many parameterWithDefault, maybe restParameters],
      .all [Form.some parameter, .many parameterWithDefault, maybe restParameters],
      .all [Form.some parameterWithDefault, maybe restParameters],
      restParameters]
  | parametersToSlash => .all [Form.some parameter, parameterOf "/"]
  | defaultsToSlash => .all [.many parameter, Form.some parameterWithDefault, parameterOf "/"]
  | parameter => parameterOf name
  | parameterWithDefault => parameterOf (.all [name, defaultValue])
  | anyParameter => parameterOf (.all [name, maybe defaultValue])
  | defaultValue => .any [.all ["=", expression], .helping wrongDefault]
  | restParameters => .any [
      .helping wrongRest,
      .all ["*", parameter, .many anyParameter, maybe keywordParameters],
      .all ["*", ",", Form.some anyParameter, maybe keywordParameters],
      keywordParameters]
  | keywordParameters => .any [.helping wrongKeywords, .all ["**", parameter]]
  | wrongExpression => .any [
      .refused commaDefect? (.all [
        .unless (.any [.all [name, .kind .text], .softWord]), disjunction, plainExpression]),
      .refused (always .missingElse)
        (.all [disjunction, "if", disjunction, .unless (.any ["else", ":"])])]
  | wrongCall => .refused callDefect? (.all [name, .unless "(", starredExpressions])
  | wrongItem => .any [
      .refused (titled .assignmentWith) (.all [expression, ":=", expression]),
      .refused (always .assignment)
        (.all [name, "=", bitwiseOr, .unless (.any ["=", ":="])]),
      .refused (titled .assignmentHere) (.all [
        .unless (.any [tuple, generator, "True", "None", "False"]),
        bitwiseOr, "=", bitwiseOr, .unless (.any ["=", ":="])])]
  | wrongGroup => .any [
      .refused (always .starredInGroup) (.all ["(", starred, ")"]),
      .refused (always .doubleStarredInGroup) (.all ["(", "**", expression, ")"])]
  | wrongEntries => .any [
      .all [separated entry, ",", wrongPair],
      .refused (always .starredValue) (.all [expression, ":", "*", bitwiseOr]),
      .refused (always .missingValue) (.all [expression, ":", .ahead (.any [rightBrace, ","])])]
  | wrongPair => .any [
      .refused (always .missingColon) (.all [expression, .unless ":"]),
      .refused (always .starredValue) (.all [expression, ":", "*", bitwiseOr]),
      .refused (always .missingValue) (.all [expression, ":", .ahead (.any [rightBrace, ","])])]
  | wrongGenerator => .any [
      .refused (always .starredGenerator) (.all [.any ["(", leftBrace], starred, clauses]),
      .refused (always .bareTarget) (.all [leftBrace, starredItem, ",", starredItems, clauses]),
      .refused (always .bareTarget) (.all [leftBrace, starredItem, ",", clauses])]
  | wrongDictionaryGenerator =>
      .refused (always .doubleStarredGenerator)
        (.all [leftBrace, "**", bitwiseOr, clauses, rightBrace])
  | wrongTarget => .refused targetDefect? (.all [maybe "async", "for", starredExpressions])
  | wrongArguments => .any [
      .refused (always .starredBehindUnpacking) (.all [
        .any [.all [separated givenArgument, ",", keywords], keywords], ",",
        separated (.all [starred, .unless "="])]),
      .refused (always .bareGenerator) (.all [
        expression, clauses, ",", maybe (.any [givenArguments, .all [expression, clauses]])]),
      .refused (always .assignment) (.all [name, "=", expression, clauses]),
      .refused generatorDefect? (.all [givenArguments, clauses]),
      .refused (always .bareGenerator) (.all [givenArguments, ",", expression, clauses]),
      .refused orderDefect? (.all [givenArguments, ",", givenArguments])]
  | wrongKeyword => .any [
      .refused (titled .assignmentTo)
        (.all [.any [constant "True", constant "False", constant "None"], "="]),
      .refused (always .assignment) (.all [name, "=", expression, clauses]),
      .refused (always .assignmentInCall) (.all [.unless (.all [name, "="]), expression, "="])]
  | wrongParameters => .any [
      .refused (always .missingDefault) (.all [
        .many parameter, .any [defaultsToSlash, Form.some parameterWithDefault], parameter]),
      .refused (always .groupedParameters)
        (.all [.many parameter, "(", separated name, maybe ",", ")"]),
      .refused (always .nothingBeforeSlash) (.all ["/", ","]),
      .refused (always .secondSlash)
        (.all [.any [parametersToSlash, defaultsToSlash], .many anyParameter, "/"]),
      .refused (always .slashBehindStar) (.all [
        maybe (.any [parametersToSlash, defaultsToSlash]), .many anyParameter, "*",
        .any [",", parameter], .many anyParameter, "/"]),
      .refused (always .slashBeforeStar) (.all [Form.some anyParameter, "/", "*"])]
  | wrongDefault => .refused (always .defaultValue) (.all ["=", .ahead (.any [")", ","])])
  | wrongRest => .any [
      .refused (always .bareStar)
        (.all ["*", .any [":", .all [",", .any [":", "**"]]]]),
      .refused (always .defaultOfRest) (.all ["*", name, "="]),
      .refused (always .secondStar) (.all [
        "*", .any [parameter, ","], .many anyParameter, "*", .any [parameter, ","]])]
  | wrongKeywords => .any [
      .refused (always .defaultOfKeywords) (.all ["**", name, "="]),
      .refused (always .behindKeywords) (.all ["**", name, ",", name]),
      .refused (always .behindKeywords) (.all ["**", name, ",", .any ["*", "**", "/"]])]

/-- The phrases whose outcome is found once for each place. -/
def isKept : Phrase → Bool
  | expression | starredExpression | disjunction | conjunction | inversion | factor | awaited
  | texts | arguments | wrongItem | target | plainTarget
  | bitwiseOr | bitwiseXor | bitwiseAnd | shift | sum | term | primary | targetPrimary => true
  | _ => false

end Phrase

def expressionGrammar (textDefect? : List Quotation → Option Defect) : Grammar Phrase :=
  ⟨Phrase.form textDefect?, Phrase.isKept⟩

end BucketStore.Literal
