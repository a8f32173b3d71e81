import BucketStore.Configuration.Path
import BucketStore.Entries
import BucketStore.Text.Blank
import BucketStore.Text.Lines
import BucketStore.Text.Utf8

/-!
Properties files: one entry a line, its key set off by an equals sign, a colon or blanks alone.
Lines starting with `#` or `!` are comments. A bracketed title starts a section; entries before
the first title belong to the section that is read, and a section of defaults adds to it.
-/

namespace BucketStore.Properties

inductive File where
  | missing
  | directory
  /-- The path is longer than paths can be. -/
  | tooLong
  | content (bytes : List UInt8)
deriving Repr

def isSeparatorBlank (c : Char) : Bool :=
  c == ' ' || c == '\t' || c == '\x0c'

def isDelimiter (c : Char) : Bool :=
  c == '=' || c == ':'

def isKeyChar (c : Char) : Bool :=
  !Text.isBlank c && !isDelimiter c

/-- A key cannot start like a comment. -/
def isKeyStart (c : Char) : Bool :=
  isKeyChar c && c != '#' && c != '!'

/-- Blanks that alone stand between a key and its value become an equals sign. -/
def markBlankSeparator (line : List Char) : List Char :=
  match line with
  | c :: rest =>
    if isKeyStart c then
      let key := c :: rest.takeWhile isKeyChar
      let after := rest.dropWhile isKeyChar
      let value := after.dropWhile isSeparatorBlank
      let separates := after.length ≠ value.length
        && !(value.head?.any fun d => isDelimiter d || Text.isBlank d)
      if separates then key ++ '=' :: value else line
    else line
  | [] => []

/-- A line without leading blanks, and with an equals sign between key and value. -/
def normalizeLine (line : List Char) : List Char :=
  markBlankSeparator (line.dropWhile Text.isBlank)

inductive Line where
  | comment
  | section (title : String)
  | entry (key value : String)
  | malformed
deriving Repr, DecidableEq

/-- The title in brackets at the start of a line, up to the last closing bracket. -/
def sectionTitle? (line : List Char) : Option (List Char) :=
  match line with
  | '[' :: rest =>
    let title := ((rest.reverse.dropWhile (· ≠ ']')).drop 1).reverse
    if title.isEmpty then none else some title
  | _ => none

/-- Key and value of an entry; without a delimiter the value is empty. -/
def splitEntry (line : List Char) : List Char × List Char :=
  let key := Text.trimEnd Text.isBlank (line.takeWhile (!isDelimiter ·))
  let value := Text.trim Text.isBlank ((line.dropWhile (!isDelimiter ·)).drop 1)
  (key, value)

/-- Read a line that is not blank. -/
def Line.read (line : List Char) : Line :=
  let line := Text.trim Text.isBlank line
  if line.head?.any fun c => c == '#' || c == '!' then .comment
  else match sectionTitle? line with
    | some title => .section (String.ofList title)
    | none =>
      let (key, value) := splitEntry line
      if key.isEmpty then .malformed else .entry (String.ofList key) (String.ofList value)

inductive Section where
  | main
  | defaults
  | ignored
deriving Repr, DecidableEq

def Section.ofTitle (title : String) : Section :=
  if title == "db" then .main
  else if title == "DEFAULT" then .defaults
  else .ignored

/-- Entries in the order in which their keys came first, with their last values. -/
abbrev Entries := List (String × String)

structure Progress where
  current : Section := .main
  main : Entries := []
  defaults : Entries := []
  failed : Bool := false
deriving Repr

def Progress.take (p : Progress) : Line → Progress
  | .comment => p
  | .section title => { p with current := Section.ofTitle title }
  | .malformed => { p with failed := true }
  | .entry key value =>
    match p.current with
    | .main => { p with main := putEntry p.main key value }
    | .defaults => { p with defaults := putEntry p.defaults key value }
    | .ignored => p

def lines (text : List Char) : List (List Char) :=
  ((Text.splitLines (Text.unifyBreaks text)).map normalizeLine).filter (!·.isEmpty)

/-- The entries of a text, unless a line of it has no key. -/
def parse? (text : List Char) : Option Entries :=
  let p := ((lines text).map Line.read).foldl Progress.take {}
  if p.failed then none
  else some (p.main ++ p.defaults.filter fun entry => !p.main.any (·.1 == entry.1))

inductive Failure where
  | tooLong
  | undecodable
  | malformed
deriving Repr, DecidableEq

def Failure.name : Failure → String
  | .tooLong => "OSError"
  | .undecodable => "UnicodeDecodeError"
  | .malformed => "ParsingError"

/-- The entries of a file; what is no file has none. -/
def load : File → Except Failure Entries
  | .missing | .directory => .ok []
  | .tooLong => .error .tooLong
  | .content bytes =>
    match Text.decodeUtf8 bytes with
    | .error _ => .error .undecodable
    | .ok text =>
      match parse? text.toList with
      | some entries => .ok entries
      | none => .error .malformed

end BucketStore.Properties
