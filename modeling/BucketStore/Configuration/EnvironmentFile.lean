import BucketStore.Entries
import BucketStore.Text.Blank
import BucketStore.Text.Lines

/-!
Environment files: assignments of names, one a line, some of them exported. Values may be quoted,
then they may run over several lines and have escapes; `${NAME}` and `${NAME:-default}` stand for
values given before or in the environment.
-/

namespace BucketStore.EnvironmentFile

def isInlineBlank (c : Char) : Bool :=
  Text.isBlank c && c != '\n' && c != '\r'

def skipInline (cs : List Char) : List Char :=
  cs.dropWhile isInlineBlank

def isBreak (c : Char) : Bool :=
  c == '\n' || c == '\r'

/-- The text behind a keyword for exporting and the blanks after it. -/
def skipExport (cs : List Char) : List Char :=
  if "export".toList.isPrefixOf cs then
    let rest := cs.drop 6
    if rest.head?.any isInlineBlank then skipInline rest else cs
  else cs

def isKeyChar (c : Char) : Bool :=
  c != '=' && c != '#' && !Text.isBlank c

/-- A reading that goes on with the rest, or that failed where the rest begins. -/
abbrev Step (α : Type) := Except (List Char) (α × List Char)

/-- A key, which may stand in single quotes; a comment has none. -/
def readKey (cs : List Char) : Step (Option String) :=
  match cs with
  | '#' :: _ => .ok (none, cs)
  | '\x27' :: rest =>
    let key := rest.takeWhile (· ≠ '\x27')
    match rest.dropWhile (· ≠ '\x27') with
    | _ :: more => if key.isEmpty then .error cs else .ok (some (String.ofList key), more)
    | [] => .error cs
  | _ =>
    let key := cs.takeWhile isKeyChar
    if key.isEmpty then .error cs else .ok (some (String.ofList key), cs.dropWhile isKeyChar)

/-- The text up to the closing quote, and what follows the quote. A backslash takes the next
character with it. -/
def closeQuote? (delimiter : Char) : List Char → Option (List Char × List Char)
  | [] => none
  | '\\' :: [] => none
  | '\\' :: c :: rest =>
    (closeQuote? delimiter rest).map fun (text, more) => ('\\' :: c :: text, more)
  | c :: rest =>
    if c == delimiter then some ([], rest)
    else (closeQuote? delimiter rest).map fun (text, more) => (c :: text, more)

def singleEscape? (c : Char) : Option Char :=
  if c == '\\' || c == '\x27' then some c else none

def doubleEscape? (c : Char) : Option Char :=
  match c with
  | '\\' | '\x27' | '"' => some c
  | 'a' => some '\x07'
  | 'b' => some '\x08'
  | 'f' => some '\x0c'
  | 'n' => some '\n'
  | 'r' => some '\r'
  | 't' => some '\t'
  | 'v' => some '\x0b'
  | _ => none

def unescape (escape? : Char → Option Char) : List Char → List Char
  | '\\' :: c :: rest =>
    match escape? c with
    | some d => d :: unescape escape? rest
    | none => '\\' :: unescape escape? (c :: rest)
  | c :: rest => c :: unescape escape? rest
  | [] => []

/-- A text up to blanks with a comment behind them. -/
def cutComment (cs : List Char) : List Char :=
  go cs.length cs
where
  go : Nat → List Char → List Char
    | 0, cs => cs
    | _, [] => []
    | fuel + 1, c :: rest =>
      if Text.isBlank c && (rest.dropWhile Text.isBlank).head? == some '#' then []
      else c :: go fuel rest

/-- A value behind the equals sign and the blanks after it, if there are any; a comment may stand
in its place behind such blanks. -/
def readValue (afterBlanks : Bool) (cs : List Char) : Step String :=
  let quotedBy (delimiter : Char) (escape? : Char → Option Char) (rest : List Char) : Step String :=
    match closeQuote? delimiter rest with
    | some (text, more) => .ok (String.ofList (unescape escape? text), more)
    | none => .error cs
  match cs with
  | '\x27' :: rest => quotedBy '\x27' singleEscape? rest
  | '"' :: rest => quotedBy '"' doubleEscape? rest
  | _ =>
    let line := cs.takeWhile (!isBreak ·)
    let value := if afterBlanks && line.head? == some '#' then [] else cutComment line
    .ok (String.ofList (Text.trimEnd Text.isBlank value), cs.dropWhile (!isBreak ·))

/-- Only a comment may stand behind an assignment. -/
def readEnd (cs : List Char) : Step Unit :=
  let afterComment := match skipInline cs with
    | '#' :: rest => rest.dropWhile (!isBreak ·)
    | _ => cs
  match skipInline afterComment with
  | [] => .ok ((), [])
  | c :: rest => if isBreak c then .ok ((), rest) else .error afterComment

/-- One assignment; the name is missing for a comment, the value for a name alone. -/
def readBinding (cs : List Char) :
    Except (List Char) ((Option String × Option String) × List Char) := do
  let (key, rest) ← readKey (skipExport cs)
  let rest := skipInline rest
  let (value, rest) ← match rest with
    | '=' :: more => do
      let (value, rest) ← readValue (more.head?.any isInlineBlank) (skipInline more)
      pure (some value, rest)
    | _ => pure (none, rest)
  let ((), rest) ← readEnd rest
  return ((key, value), rest)

/-- Names and values of all assignments; a line that is none is skipped from where it fails. -/
def readBindings (fuel : Nat) (cs : List Char) : List (String × Option String) :=
  match fuel, cs.dropWhile Text.isBlank with
  | 0, _ => []
  | _, [] => []
  | fuel + 1, cs =>
    match readBinding cs with
    | .ok ((some key, value), rest) => (key, value) :: readBindings fuel rest
    | .ok ((none, _), rest) => readBindings fuel rest
    | .error rest => readBindings fuel ((rest.dropWhile (!isBreak ·)).drop 1)

/-- A reference in braces: its name and its default. -/
def readReference? (cs : List Char) : Option (String × Option String × List Char) := do
  let inside := cs.takeWhile (· ≠ '\x7d')
  match cs.dropWhile (· ≠ '\x7d') with
  | [] => none
  | _ :: rest =>
    let name := inside.takeWhile (· ≠ ':')
    match inside.dropWhile (· ≠ ':') with
    | [] => some (String.ofList name, none, rest)
    | ':' :: '-' :: fallback => some (String.ofList name, some (String.ofList fallback), rest)
    | _ => none

/-- Put values in the place of references. -/
def interpolate (value? : String → Option String) (fuel : Nat) (cs : List Char) : List Char :=
  match fuel, cs with
  | 0, cs => cs
  | _, [] => []
  | fuel + 1, '$' :: '\x7b' :: rest =>
    match readReference? rest with
    | some (name, fallback, more) =>
      ((value? name).getD (fallback.getD "")).toList ++ interpolate value? fuel more
    | none => '$' :: interpolate value? fuel ('\x7b' :: rest)
  | fuel + 1, c :: rest => c :: interpolate value? fuel rest

/-- Values so far, in the order of their names' first places. -/
abbrev Values := List (String × Option String)

/-- What a name stands for: a value of the file counts before the environment, and one without a
value counts as empty. -/
def resolve (environment : List (String × String)) (values : Values) (name : String) :
    Option String :=
  match values.find? (·.1 == name) with
  | some (_, value) => some (value.getD "")
  | none => (environment.find? (·.1 == name)).map (·.2)

def read (environment : List (String × String)) (text : String) : Values :=
  let cs := Text.unifyBreaks text.toList
  (readBindings (cs.length + 1) cs).foldl (fun values (name, value) =>
    let value := value.map fun s =>
      String.ofList (interpolate (resolve environment values) s.length s.toList)
    putEntry values name value) []

end BucketStore.EnvironmentFile
