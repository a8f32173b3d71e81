/-!
Arguments of a command. Options have a long name and perhaps a letter, and a value that follows
them, behind an equals sign, behind the letter at once, or as the next argument. Of several values
the last one counts. Behind `--` nothing is an option.
-/

namespace BucketStore.CommandLine

inductive Misuse where
  | missingCommand
  | unknownCommand (name : String)
  | unknownOption (name : String)
  | missingValue (option : String)
  | unexpectedValue (option : String)
  | badValue (option value : String)
  | missingArgument (name : String)
  | extraArguments (arguments : List String)
deriving Repr, DecidableEq

def Misuse.message : Misuse → String
  | .missingCommand => "Missing command."
  | .unknownCommand name => "No such command '" ++ name ++ "'."
  | .unknownOption name => "No such option: " ++ name
  | .missingValue option => "Option '" ++ option ++ "' requires an argument."
  | .unexpectedValue option => "Option '" ++ option ++ "' does not take a value."
  | .badValue option value => "Invalid value for '" ++ option ++ "': " ++ value
  | .missingArgument name => "Missing argument '" ++ name ++ "'."
  | .extraArguments arguments =>
    "Got unexpected extra arguments (" ++ " ".intercalate arguments ++ ")"

structure OptionNames where
  /-- The long name, with its dashes. -/
  long : String
  letter? : Option Char := none
deriving Repr, DecidableEq

structure Arguments where
  /-- Options by their long names, the latest first. -/
  options : List (String × String) := []
  /-- Help is asked for. -/
  help : Bool := false
  /-- What belongs to no option. -/
  plain : List String := []
deriving Repr, DecidableEq

namespace Arguments

def put (a : Arguments) (option value : String) : Arguments :=
  { a with options := (option, value) :: a.options }

def value? (a : Arguments) (option : String) : Option String :=
  (a.options.find? (·.1 == option)).map (·.2)

end Arguments

inductive Token where
  | plain
  /-- All that follows is plain. -/
  | separator
  | help
  | valued (option value : String)
  /-- An option whose value is the next argument. -/
  | bare (option : String)
  | refused (misuse : Misuse)
deriving Repr, DecidableEq

def Token.ofLong (names : List OptionNames) (arg : String) : Token :=
  let cs := arg.toList
  let name := String.ofList (cs.takeWhile (· != '='))
  let value? := match cs.dropWhile (· != '=') with
    | [] => none
    | _ :: value => some (String.ofList value)
  if name == "--help" then (if value?.isSome then .refused (.unexpectedValue name) else .help)
  else if names.any (·.long == name) then
    match value? with
    | some value => .valued name value
    | none => .bare name
  else .refused (.unknownOption name)

def Token.ofLetter (names : List OptionNames) (letter : Char) (value : List Char) : Token :=
  match names.find? (·.letter? == some letter) with
  | some option =>
    if value.isEmpty then .bare option.long else .valued option.long (String.ofList value)
  | none => .refused (.unknownOption (String.ofList ['-', letter]))

def Token.of (names : List OptionNames) (arg : String) : Token :=
  match arg.toList with
  | ['-', '-'] => .separator
  | '-' :: '-' :: _ => .ofLong names arg
  | '-' :: letter :: value => .ofLetter names letter value
  | _ => .plain

/-- Read arguments behind those in `a`. Options may stand behind plain arguments if `mixed`. -/
def readArguments (names : List OptionNames) (mixed : Bool) (a : Arguments) :
    List String → Except Misuse Arguments
  | [] => .ok a
  | arg :: rest =>
    match Token.of names arg with
    | .plain =>
      if mixed then readArguments names mixed { a with plain := a.plain ++ [arg] } rest
      else .ok { a with plain := a.plain ++ arg :: rest }
    | .separator => .ok { a with plain := a.plain ++ rest }
    | .help => readArguments names mixed { a with help := true } rest
    | .valued option value => readArguments names mixed (a.put option value) rest
    | .bare option =>
      match rest with
      | value :: rest => readArguments names mixed (a.put option value) rest
      | [] => .error (.missingValue option)
    | .refused misuse => .error misuse

end BucketStore.CommandLine
