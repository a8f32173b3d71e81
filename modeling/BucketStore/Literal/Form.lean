import BucketStore.Literal.Token

/-!
Forms: what a grammar asks of tokens. A choice takes its first form that fits. Some forms fit only
texts that the grammar refuses; they are tried once nothing else fits, and name the defect.
-/

namespace BucketStore.Literal

inductive Shape where
  | constant | text | tuple | set | dictionary | pair | unpacking
  | call | attribute | lambda | logical | binary | unary | comparison | conditional | assignment
  | starred | awaited | yielded | generator | setGenerator | dictionaryGenerator
  | arguments | keyword | keywords
deriving Repr, DecidableEq

inductive Node where
  | leaf (token : Token)
  | node (shape : Shape) (parts : List Node)

/-- Is a name a word at some places, or the beginning of one? -/
def isSoftWord (name : List Char) : Bool :=
  ["_", "case", "match"].any fun word => name.isPrefixOf word.toList

/-- A form, of which named ones come from a grammar. -/
inductive Form (Name : Type) where
  | kind (kind : TokenKind)
  | word (chars : List Char)
  | softWord
  | named (name : Name)
  | all (forms : List (Form Name))
  | any (forms : List (Form Name))
  /-- As often as it fits. -/
  | many (form : Form Name)
  /-- The next tokens fit, but are not taken. -/
  | ahead (form : Form Name)
  /-- The next tokens do not fit. -/
  | unless (form : Form Name)
  /-- What comes before rules all other choices out. -/
  | commit (form : Form Name)
  | shaped (shape : Shape) (form : Form Name)
  /-- Without the words themselves. -/
  | bare (form : Form Name)
  /-- A first form and the forms that may be added to it, one after the other. -/
  | chain (first : Form Name) (more : List (Shape × Form Name))
  /-- Parts of a chain that fit, and the forms left to try before all of them are tried again. -/
  | grown (parts : List Node) (left more : List (Shape × Form Name))
  /-- Fits only while a defect is looked for. -/
  | helping (form : Form Name)
  /-- Fits without a look for defects. -/
  | plainly (form : Form Name)
  /-- Fits unless there is a defect. -/
  | checked (judge : List Node → Option Defect) (form : Form Name)
  /-- Never fits, but may tell a defect by the parts and the number of brackets still open. -/
  | refused (judge : List Node → Nat → Option Defect) (form : Form Name)

namespace Form

variable {Name : Type}

instance : Coe String (Form Name) := ⟨fun s => word s.toList⟩

instance : Coe Name (Form Name) := ⟨named⟩

def maybe (form : Form Name) : Form Name :=
  any [form, all []]

def some (form : Form Name) : Form Name :=
  all [form, many form]

def separated (form : Form Name) : Form Name :=
  all [form, many (all [",", form])]

end Form

structure Grammar (Name : Type) where
  form : Name → Form Name
  /-- What fits such a form is found once for each place. -/
  isKept : Name → Bool

structure Source where
  tokens : Array Token
  /-- What stands behind the last token. -/
  defect? : Option Defect

/-- How a trial ends. A stopped one rules other choices out. -/
inductive Outcome where
  | fits (parts : List Node) (next : Nat)
  | fails
  | stops

/-- A trial of a named form is over where the name is. -/
def Outcome.settled : Outcome → Outcome
  | .stops => .fails
  | outcome => outcome

def Outcome.stopped : Outcome → Outcome
  | .fails => .stops
  | outcome => outcome

/-- What is remembered of all trials. -/
structure Progress (Name : Type) where
  /-- The number of tokens that were looked at. -/
  seen : Nat := 0
  /-- The outcomes that are kept, by place. -/
  kept : Array (List (Name × Outcome))

abbrev Trial (Name : Type) := ExceptT Defect (StateM (Progress Name))

section

variable {Name : Type} [DecidableEq Name]

/-- The token at a place, if it passes a test. -/
def tokenAt (source : Source) (test : Token → Bool) (place : Nat) : Trial Name Outcome := do
  modify fun p => { p with seen := max p.seen (place + 1) }
  match source.tokens[place]? with
  | some token => return if test token then .fits [.leaf token] (place + 1) else .fails
  | none => match source.defect? with
    | some defect => throw defect
    | none => return .fails

def Progress.find? (p : Progress Name) (name : Name) (place : Nat) : Option Outcome :=
  (p.kept[place]?.bind (·.find? (·.1 == name))).map (·.2)

def Progress.keep (p : Progress Name) (name : Name) (place : Nat) (outcome : Outcome) :
    Progress Name :=
  { p with kept := p.kept.modify place ((name, outcome) :: ·) }

def isWordLeaf : Node → Bool
  | .leaf token => token.kind == .mark
  | .node .. => false

/-- Try a form at a place. `isHelping` says that a defect is looked for. -/
def Grammar.attempt (g : Grammar Name) (source : Source) :
    Nat → Bool → Form Name → Nat → Trial Name Outcome
  | 0, _, _, _ => return .fails
  | fuel + 1, isHelping, form, place =>
    let attempt := g.attempt source fuel
    match form with
    | .kind kind => tokenAt source (·.kind == kind) place
    | .word chars => tokenAt source (fun t => t.kind == .mark && t.chars == chars) place
    | .softWord =>
      tokenAt source (fun t => t.kind == .name && isSoftWord t.chars) place
    | .named name => do
      let progress ← get
      match if g.isKept name then progress.find? name place else none with
      | some outcome => return outcome
      | none =>
        let outcome := (← attempt isHelping (g.form name) place).settled
        if g.isKept name then modify (·.keep name place outcome)
        return outcome
    | .all [] => return .fits [] place
    | .all (form :: forms) => do
      match ← attempt isHelping form place with
      | .fits parts next =>
        match ← attempt isHelping (.all forms) next with
        | .fits more next => return .fits (parts ++ more) next
        | outcome => return outcome
      | outcome => return outcome
    | .any [] => return .fails
    | .any (form :: forms) => do
      match ← attempt isHelping form place with
      | .fails => attempt isHelping (.any forms) place
      | outcome => return outcome
    | .many form => do
      match ← attempt isHelping form place with
      | .fits parts next =>
        match ← attempt isHelping (.many form) next with
        | .fits more next => return .fits (parts ++ more) next
        | outcome => return outcome
      | _ => return .fits [] place
    | .ahead form => do
      match ← attempt isHelping form place with
      | .fits _ _ => return .fits [] place
      | _ => return .fails
    | .unless form => do
      match ← attempt isHelping form place with
      | .fits _ _ => return .fails
      | _ => return .fits [] place
    | .commit form => do
      return (← attempt isHelping form place).stopped
    | .shaped shape form => do
      match ← attempt isHelping form place with
      | .fits parts next => return .fits [.node shape parts] next
      | outcome => return outcome
    | .bare form => do
      match ← attempt isHelping form place with
      | .fits parts next => return .fits (parts.filter (!isWordLeaf ·)) next
      | outcome => return outcome
    | .chain first more => do
      match ← attempt isHelping first place with
      | .fits parts next => attempt isHelping (.grown parts more more) next
      | outcome => return outcome
    | .grown parts [] _ => return .fits parts place
    | .grown parts ((shape, form) :: left) more => do
      match ← attempt isHelping form place with
      | .fits added next =>
        attempt isHelping (.grown [.node shape (parts ++ added)] more more) next
      | _ => attempt isHelping (.grown parts left more) place
    | .helping form => if isHelping then attempt isHelping form place else return .fails
    | .plainly form => attempt false form place
    | .checked judge form => do
      match ← attempt isHelping form place with
      | .fits parts next =>
        match judge parts with
        | some defect => throw defect
        | none => return .fits parts next
      | outcome => return outcome
    | .refused judge form => do
      match ← attempt isHelping form place with
      | .fits parts next =>
        let depth := (source.tokens[next - 1]?.map (·.depth)).getD 0
        match judge parts depth with
        | some defect => throw defect
        | none => return .stops
      | outcome => return outcome

end

end BucketStore.Literal
