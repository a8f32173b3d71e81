import BucketStore.Literal.Number
import BucketStore.Text.Identifier

namespace BucketStore.Literal

inductive TokenKind where
  | name | number | text | mark | lineEnd | indent | dedent | stop
deriving Repr, DecidableEq

structure Token where
  kind : TokenKind
  chars : List Char
  /-- The line it begins in. -/
  line : Nat
  /-- How many brackets are open behind it. -/
  depth : Nat
deriving Repr, DecidableEq

def keywords : List String :=
  ["False", "None", "True", "and", "as", "assert", "async", "await", "break", "class", "continue",
    "def", "del", "elif", "else", "except", "finally", "for", "from", "global", "if", "import",
    "in", "is", "lambda", "nonlocal", "not", "or", "pass", "raise", "return", "try", "while",
    "with", "yield"]

/-- Operators of more than one character, the longer ones first. -/
def operators : List String :=
  ["**=", "//=", ">>=", "<<=", "...", "!=", "%=", "&=", "**", "*=", "+=", "-=", "->", "//", "/=",
    ":=", "<<", "<=", "<>", "==", ">=", ">>", "@=", "^=", "|="]

/-- Letters that may stand before a quote: raw, formatted and binary texts. -/
def textMarks : List String :=
  ["b", "u", "r", "f", "br", "rb", "fr", "rf"]

def isQuote (c : Char) : Bool :=
  c == '"' || c == Text.quote

/-- The text that letters before a quote announce, if they do. -/
def announced? (letters : List Char) : Option String :=
  textMarks.find? (· == String.ofList (letters.map Char.toLower))

def closingOf? : Char → Option Char
  | '(' => some ')'
  | '[' => some ']'
  | '{' => some '}'
  | _ => none

def isClosing (c : Char) : Bool :=
  c == ')' || c == ']' || c == '}'

structure Scan where
  tokens : Array Token := #[]
  line : Nat := 1
  /-- The brackets that are open, the innermost first, with their lines. -/
  openings : List (Char × Nat) := []
  /-- The widths of the lines that the current one is indented under, the innermost first. -/
  indents : List Nat := []
  /-- Is the last token the end of the text? -/
  endsInToken : Bool := false

namespace Scan

def push (s : Scan) (kind : TokenKind) (chars : List Char) : Scan :=
  { s with tokens := s.tokens.push ⟨kind, chars, s.line, s.openings.length⟩ }

/-- Behind a text, the lines that it spans are counted. -/
def pushText (s : Scan) (chars : List Char) : Scan :=
  let s := s.push .text chars
  { s with line := s.line + chars.count '\n' }

def nextLine (s : Scan) : Scan :=
  { s with line := s.line + 1 }

/-- The line end counts outside brackets only. -/
def endLine (s : Scan) : Scan :=
  (if s.openings.isEmpty then s.push .lineEnd ['\n'] else s).nextLine

/-- Leave the lines that are indented further than the given width. -/
def dedentTo (width : Nat) (s : Scan) : List Nat → Option Scan
  | [] => if width = 0 then some { s with indents := [] } else none
  | i :: outer =>
    if width < i then (s.push .dedent []).dedentTo width outer
    else if width = i then some { s with indents := i :: outer }
    else none

def indentTo (s : Scan) (width : Nat) : Option Scan :=
  if s.indents.headD 0 < width then
    some { s.push .indent [] with indents := width :: s.indents }
  else s.dedentTo width s.indents

/-- What is wrong with the innermost open bracket at the end. -/
def neverClosed? (s : Scan) : Option Defect :=
  s.openings.head?.map fun opening => .neverClosed opening.1

def mostOpenings : Nat := 200

/-- Add a bracket, or another mark of one character. -/
def pushMark (s : Scan) (c : Char) : Except Defect Scan :=
  if (closingOf? c).isSome then
    if s.openings.length ≥ mostOpenings then .error .tooDeep
    else .ok ({ s with openings := (c, s.line) :: s.openings }.push .mark [c])
  else if isClosing c then
    match s.openings with
    | [] => .error (.unmatched c)
    | (opening, line) :: outer =>
      if closingOf? opening == some c then .ok ({ s with openings := outer }.push .mark [c])
      else .error (.mismatched c opening (if line = s.line then none else some line))
  else if Text.isPrintable c then .ok (s.push .mark [c])
  else .error (.character c)

end Scan

/-- The rest behind the closing quote of a text, or where no closing quote can follow any more.
`seen` counts the quotes just before: three of them end a long text. -/
def textRest (quote : Char) (isLong : Bool) (seen : Nat) :
    List Char → Except (List Char) (List Char)
  | [] => .error []
  | c :: rest =>
    if c == quote then
      if isLong && seen < 2 then textRest quote isLong (seen + 1) rest else .ok rest
    else if c == '\\' then
      match rest with
      | _ :: rest => textRest quote isLong 0 rest
      | [] => .error []
    else if c == '\n' && !isLong then .error (c :: rest)
    else textRest quote isLong 0 rest

def before (cs rest : List Char) : List Char :=
  cs.take (cs.length - rest.length)

/-- The number of the line in which an open text ends. A line end that nothing follows begins no
line. -/
def lastLine (line : Nat) (chars rest : List Char) : Nat :=
  let breaks := chars.count '\n'
  if rest.isEmpty && chars.getLast? == some '\n' then line + breaks - 1 else line + breaks

def readText (line : Nat) (cs : List Char) : Except Defect (List Char) :=
  match cs with
  | a :: b :: c :: rest =>
    if a == b && b == c then
      match textRest a true 0 rest with
      | .ok rest => .ok rest
      | .error rest => .error (.openLongText (lastLine line (before cs rest) rest))
    else short a (b :: c :: rest)
  | a :: rest => short a rest
  | [] => .ok []
where
  short (quote : Char) (body : List Char) : Except Defect (List Char) :=
    match textRest quote false 0 body with
    | .ok rest => .ok rest
    | .error rest => .error (.openText (lastLine line (before cs rest) rest))

def strayChar? : List Char → Option Char
  | [] => none
  | c :: rest =>
    if Text.isIdentifierStart c then rest.find? (!Text.isIdentifierChar ·) else some c

namespace Scan

def readName (s : Scan) (cs : List Char) : Except Defect (Scan × List Char) :=
  let name := cs.takeWhile isNameChar
  let rest := cs.dropWhile isNameChar
  if (announced? name).isSome && rest.head?.any isQuote then do
    let rest ← readText s.line rest
    return (s.pushText (before cs rest), rest)
  else match strayChar? name with
    | some c => .error (.character c)
    | none =>
      let isKeyword := keywords.contains (String.ofList name)
      .ok (s.push (if isKeyword then .mark else .name) name, rest)

def startsNumber : List Char → Bool
  | '.' :: c :: _ => c.isDigit
  | c :: _ => c.isDigit
  | [] => false

def read (s : Scan) (cs : List Char) : Except Defect (Scan × List Char) :=
  match cs with
  | [] => .ok (s, [])
  | c :: rest =>
    if startsNumber cs then do
      let rest ← numberRest cs
      return (s.push .number (before cs rest), rest)
    else if isNameChar c then s.readName cs
    else if isQuote c then do
      let rest ← readText s.line cs
      return (s.pushText (before cs rest), rest)
    else match operators.find? fun o => o.toList.isPrefixOf cs with
      | some o => .ok (s.push .mark o.toList, cs.drop o.length)
      | none => do
        let s ← s.pushMark c
        return (s, rest)

end Scan

def isLineBlank (c : Char) : Bool :=
  c == ' ' || c == '\t' || c.toNat == 12

structure LineStart where
  width : Nat := 0
  /-- The width before the first break that is continued over. -/
  widthBeforeBreak : Nat := 0
  breaks : Nat := 0

namespace LineStart

/-- Tabulators reach to the next multiple of eight, and a form feed starts again. -/
def addBlank (l : LineStart) (c : Char) : LineStart :=
  if c == ' ' then { l with width := l.width + 1 }
  else if c == '\t' then { l with width := (l.width / 8 + 1) * 8 }
  else { l with width := 0 }

def addBreak (l : LineStart) : LineStart :=
  { l with
    widthBeforeBreak := if l.widthBeforeBreak = 0 then l.width else l.widthBeforeBreak
    breaks := l.breaks + 1 }

def indent (l : LineStart) : Nat :=
  if l.widthBeforeBreak = 0 then l.width else l.widthBeforeBreak

/-- How a line begins, and the rest behind its blanks. -/
def read (l : LineStart) : List Char → Except Defect (LineStart × List Char)
  | [] => .ok (l, [])
  | c :: rest =>
    if isLineBlank c then (l.addBlank c).read rest
    else if c == '\\' then
      match rest with
      | ['\n'] => .error .endOfText
      | '\n' :: rest => l.addBreak.read rest
      | _ => .error .afterContinuation
    else .ok (l, c :: rest)

end LineStart

namespace Scan

/-- The defect in which a text ends: an open bracket is one before all others. -/
def endingIn (s : Scan) (defect : Defect) : Scan × Option Defect :=
  (s, some (match defect with
    | .endOfText => s.neverClosed?.getD .endOfText
    | defect => defect))

def endingAt (s : Scan) (rest : List Char) : Scan :=
  { s with endsInToken := rest.isEmpty }

end Scan

/-- All tokens of a text, and the defect that ends them early. `isFresh` says that a line begins;
each step takes a character or ends that state, so twice the length of the text bounds them. -/
def scanFrom : Nat → Bool → Scan → List Char → Scan × Option Defect
  | 0, _, s, _ => (s, none)
  | fuel + 1, true, s, cs =>
    match LineStart.read {} cs with
    | .error defect => s.endingIn defect
    | .ok (start, rest) =>
      let s := { s with line := s.line + start.breaks }
      match rest with
      | '\n' :: rest => scanFrom fuel true s.nextLine rest
      | '#' :: rest =>
        match rest.dropWhile (· != '\n') with
        | _ :: rest => scanFrom fuel true s.nextLine rest
        | [] => scanFrom fuel false s []
      | rest =>
        if s.openings.isEmpty then
          match s.indentTo start.indent with
          | some s => scanFrom fuel false s rest
          | none => s.endingIn .unevenIndentation
        else scanFrom fuel false s rest
  | fuel + 1, false, s, cs =>
    match cs.dropWhile isLineBlank with
    | [] => if s.openings.isEmpty then (s.push .stop [], none) else (s, s.neverClosed?)
    | '#' :: rest => scanFrom fuel false s (rest.dropWhile (· != '\n'))
    | '\n' :: rest => scanFrom fuel true s.endLine rest
    | '\\' :: rest =>
      match rest with
      | ['\n'] => s.endingIn .endOfText
      | '\n' :: rest => scanFrom fuel false s.nextLine rest
      | _ => s.endingIn .afterContinuation
    | cs =>
      match s.read cs with
      | .ok (s, rest) => scanFrom fuel false (s.endingAt rest) rest
      | .error defect => s.endingIn defect

def scanText (cs : List Char) : Scan × Option Defect :=
  scanFrom (2 * cs.length + 2) true {} cs

end BucketStore.Literal
