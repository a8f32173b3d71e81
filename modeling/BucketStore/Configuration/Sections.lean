import BucketStore.Configuration.Properties
import BucketStore.Entries

/-!
Sectioned files in general. A line may start a section by a title, or set a key of the current one;
a line that is indented more than the key before it goes on with that key's value, and blank lines
inside a value belong to it. Properties files are read by this grammar once their lines are
normalized, and then none of their lines is indented or blank.
-/

namespace BucketStore.Sections

inductive Halt where
  /-- A key stands before the first title. -/
  | untitled
  /-- A line goes on with the value of a key that has none. -/
  | valueless
deriving Repr, DecidableEq

structure Reader where
  /-- The title of the current section. -/
  title : Option String := none
  /-- The last key of the current section. -/
  key : Option String := none
  /-- How far the last title or key was indented. -/
  indent : Nat := 0
  /-- The lines of each value by title and key. A key without a delimiter has no value. -/
  values : List ((String × String) × Option (List String)) := []
  /-- A line had a delimiter in the place of its key. -/
  failed : Bool := false
  /-- How many lines went on with a value. -/
  continued : Nat := 0
deriving Repr

namespace Reader

/-- The key that a line may go on with. -/
def open? (r : Reader) : Option (String × String) :=
  match r.title, r.key with
  | some title, some key => if key.isEmpty then none else some (title, key)
  | _, _ => none

def extend? (r : Reader) (place : String × String) (line : String) : Option Reader :=
  match r.values.lookup place with
  | some (some lines) => some { r with values := putEntry r.values place (some (lines ++ [line])) }
  | _ => none

/-- A blank line belongs to the value before it. -/
def takeBlank (r : Reader) : Reader :=
  (r.open?.bind fun place => r.extend? place "").getD r

/-- A line goes on with the value of a key. -/
def goOn (r : Reader) (place : String × String) (line : List Char) : Except Halt Reader :=
  match r.extend? place (String.ofList line) with
  | some r => .ok { r with continued := r.continued + 1 }
  | none => .error .valueless

def start (r : Reader) (line : List Char) : Except Halt Reader :=
  match Properties.sectionTitle? line with
  | some title => .ok { r with title := some (String.ofList title), key := none }
  | none =>
    match r.title with
    | none => .error .untitled
    | some title =>
      let (key, value) := Properties.splitEntry line
      let lines := if line.any Properties.isDelimiter then some [String.ofList value] else none
      .ok { r with
        key := some (String.ofList key)
        values := putEntry r.values (title, String.ofList key) lines
        failed := r.failed || key.isEmpty }

def step (r : Reader) (line : List Char) : Except Halt Reader :=
  let text := Text.trim Text.isBlank line
  if text.head?.any fun c => c == '#' || c == '!' then .ok r
  else if text.isEmpty then .ok r.takeBlank
  else
    let indent := (line.takeWhile Text.isBlank).length
    match r.open? with
    | some place =>
      if r.indent < indent then r.goOn place text else { r with indent }.start text
    | none => { r with indent }.start text

def valueText : Option (List String) → String
  | some lines => String.ofList (Text.trimEnd Text.isBlank ("\n".intercalate lines).toList)
  | none => ""

def ofSection (r : Reader) (title : String) : Properties.Entries :=
  r.values.filterMap fun ((other, key), value) =>
    if other = title then some (key, valueText value) else none

/-- The entries of the section that is read, and defaults for other keys. -/
def entries (r : Reader) : Properties.Entries :=
  let main := r.ofSection "db"
  main ++ (r.ofSection "DEFAULT").filter fun entry => !main.any (·.1 == entry.1)

end Reader

def read (text : List Char) : Except Halt Reader :=
  (Text.splitLines text).foldlM Reader.step {}

/-- A properties text as a sectioned one: a title, and the normalized lines behind it. -/
def ofProperties (text : List Char) : List Char :=
  "[db]\n".toList
    ++ ((Text.splitLines (Text.unifyBreaks text)).map Properties.normalizeLine).flatten

end BucketStore.Sections
