import BucketStore.Value
import BucketStore.Fault

namespace BucketStore

inductive PinKind where
  | digital
  | analog
  | virtual
deriving Repr, DecidableEq, Inhabited

namespace PinKind

def all : List PinKind := [.digital, .analog, .virtual]

def letter : PinKind → String
  | .digital => "d"
  | .analog => "a"
  | .virtual => "v"

def title : PinKind → String
  | .digital => "DIGITAL"
  | .analog => "ANALOG"
  | .virtual => "VIRTUAL"

def ofLetter? (s : String) : Option PinKind :=
  all.find? (·.letter == s)

theorem ofLetter?_letter (k : PinKind) : ofLetter? k.letter = some k := by
  cases k <;> decide

/-- Select a kind by a value, which has to be its letter. -/
def ofValue (v : Value) : Except Problem PinKind :=
  match v with
  | .text s =>
    match ofLetter? s with
    | some k => .ok k
    | none => .error (.notAPinKind v.shown)
  | _ => .error (.notAPinKind v.shown)

end PinKind

end BucketStore
