import BucketStore.Console.Handler
import BucketStore.Console.Marked
import BucketStore.Console.Shortcode
import BucketStore.Console.Style

/-!
Markup: texts with tags such as `[bold]` and `[/bold]`. A tag is escaped by an odd number of
backslashes before it, of which every two stand for one; a bracket that begins no tag is text.
-/

namespace BucketStore.Console

inductive Piece where
  | text (cs : List Char)
  /-- What stands between the brackets, and the place of the first one. -/
  | tag (position : Nat) (body : List Char)
deriving Repr, DecidableEq

/-- A tag begins with a small letter or one of three signs. -/
def startsTag (c : Char) : Bool :=
  (97 ≤ c.toNat && c.toNat ≤ 122) || c == '#' || c == '/' || c == '@'

/-- The text up to the closing bracket, if there is no opening one before it. -/
def untilBracket? : List Char → Option (List Char)
  | [] => none
  | c :: rest =>
    if c == ']' then some []
    else if c == '[' then none
    else (untilBracket? rest).map (c :: ·)

/-- The body of the tag that may follow an opening bracket. -/
def tagBody? : List Char → Option (List Char)
  | [] => none
  | c :: rest => if startsTag c then (untilBracket? rest).map (c :: ·) else none

def textPiece (cs : List Char) : List Piece :=
  if cs.isEmpty then [] else [.text cs]

def backslashes (n : Nat) : List Char :=
  List.replicate n '\\'

/-- The pieces of a text. `skip` characters belong to the tag before; `gathered` is the text since
then, backwards, and `escapes` counts the backslashes behind it. -/
def piecesFrom (position skip escapes : Nat) (gathered : List Char) : List Char → List Piece
  | [] => textPiece (gathered.reverse ++ backslashes escapes)
  | c :: rest =>
    if skip > 0 then piecesFrom (position + 1) (skip - 1) 0 [] rest
    else if c == '\\' then piecesFrom (position + 1) 0 (escapes + 1) gathered rest
    else match if c == '[' then tagBody? rest else none with
      | some body =>
        textPiece gathered.reverse ++ textPiece (backslashes (escapes / 2))
          ++ (if escapes % 2 = 1 then .text ('[' :: body ++ [']']) else .tag position body)
            :: piecesFrom (position + 1) (body.length + 1) 0 [] rest
      | none => piecesFrom (position + 1) 0 0 (c :: (backslashes escapes ++ gathered)) rest

def pieces (cs : List Char) : List Piece :=
  piecesFrom 0 0 0 [] cs

/-- Drop each backslash that stands before an opening bracket. -/
def bareBrackets : List Char → List Char
  | '\\' :: '[' :: rest => '[' :: bareBrackets rest
  | c :: rest => c :: bareBrackets rest
  | [] => []

/-- Characters that would move the cursor are not shown. -/
def isHidden (c : Char) : Bool :=
  c.toNat == 7 || c.toNat == 8 || (11 ≤ c.toNat && c.toNat ≤ 13)

structure OpenTag where
  /-- Where the text in the tag begins. -/
  start : Nat
  /-- The normal form of its name. -/
  name : List Char
  parameters? : Option (List Char)

namespace OpenTag

/-- A handler has no style. -/
def isHandler (tag : OpenTag) : Bool :=
  tag.name.head? == some '@'

def definition (tag : OpenTag) : List Char :=
  match tag.parameters? with
  | some parameters => tag.name ++ ' ' :: parameters
  | none => tag.name

def span (tag : OpenTag) (stop : Nat) : Span :=
  ⟨tag.start, stop, definitionFlaw? tag.definition⟩

/-- The span of a tag that is closed at a place. The parameters of a handler are read. -/
def close (tag : OpenTag) (stop : Nat) : Except Problem Span :=
  if tag.isHandler then do
    match tag.parameters? with
    | some parameters => if !parameters.isEmpty then Handler.check parameters
    | none => pure ()
    return ⟨tag.start, stop, none⟩
  else .ok (tag.span stop)

end OpenTag

/-- A text that is being read. Spans and open tags stand in lists, the latest first. -/
structure Reading where
  chars : List Char := []
  openTags : List OpenTag := []
  spans : List Span := []

namespace Reading

def addText (r : Reading) (cs : List Char) : Reading :=
  let cs := (withEmoji (bareBrackets cs)).filter (!isHidden ·)
  { r with chars := r.chars ++ cs }

def addOpening (r : Reading) (name : List Char) (parameters? : Option (List Char)) :
    Except Problem Reading := do
  let name ← normalForm name
  return { r with openTags := ⟨r.chars.length, name, parameters?⟩ :: r.openTags }

/-- The tag that a closing tag with the given body closes: the latest one of its name, or the
latest of all. -/
def closed (r : Reading) (position : Nat) (body name : List Char) : Except Problem OpenTag :=
  let name := Text.trim Text.isBlank name
  if name.isEmpty then
    match r.openTags with
    | tag :: _ => .ok tag
    | [] => .error (.nothingToClose position)
  else do
    let name ← normalForm name
    match r.openTags.find? (·.name == name) with
    | some tag => return tag
    | none => throw (.unmatchedClosing ("[" ++ String.ofList body ++ "]") position)

def without (name : List Char) (tags : List OpenTag) : List OpenTag :=
  tags.eraseP (·.name == name)

def addClosing (r : Reading) (position : Nat) (body name : List Char) : Except Problem Reading := do
  let tag ← r.closed position body name
  let span ← tag.close r.chars.length
  return { r with openTags := without tag.name r.openTags, spans := span :: r.spans }

/-- Add a tag; what follows an equals sign is a parameter. -/
def addTag (r : Reading) (position : Nat) (body : List Char) : Except Problem Reading :=
  let name := body.takeWhile (· != '=')
  let parameters? := match body.dropWhile (· != '=') with
    | _ :: parameters => some parameters
    | [] => none
  match name with
  | '/' :: name => r.addClosing position body name
  | name => r.addOpening name parameters?

def add (r : Reading) : Piece → Except Problem Reading
  | .text cs => .ok (r.addText cs)
  | .tag position body => r.addTag position body

def text (r : Reading) : Marked :=
  let stop := r.chars.length
  let spans := (r.openTags.map (·.span stop)).reverse ++ r.spans
  ⟨r.chars, spans.mergeSort fun a b => decide (a.first ≤ b.first)⟩

end Reading

def shownText (s : String) : Except Problem Marked :=
  let cs := s.toList
  if cs.contains '[' then do
    let r ← (pieces cs).foldlM Reading.add {}
    return r.text
  else .ok ⟨(withEmoji cs).filter (!isHidden ·), []⟩

end BucketStore.Console
