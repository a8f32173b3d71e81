import BucketStore.Text.Quoted
import BucketStore.Number.Show

/-!
Faults: what an operation may end with instead of a result. Faults of the driver and of the store
form small class trees; a problem found while converting values says what was wrong with them.
Their wording is in `Fault.message` and nowhere else.
-/

namespace BucketStore

inductive DriverFault where
  | error
  | interface
  | operational
  | programming
  | data
  | uniqueViolation
  | syntaxError
  | poolTimeout
  | poolClosed
deriving Repr, DecidableEq

/-- Faults of a connection that may go away by themselves. -/
def DriverFault.isOperational : DriverFault → Bool
  | .operational | .poolTimeout | .poolClosed => true
  | _ => false

inductive StoreFault where
  | general
  | connectionUnavailable
  | storageDisabled
  | poolExhausted
  | batchFailed
deriving Repr, DecidableEq

inductive PlainFault where
  | runtime
  | value
  | key
  | index
  | zeroDivision
  | os
  | wrongType
  | overflow
  | attribute
  | decoding
  | markup
deriving Repr, DecidableEq

/-- What was wrong with a value that had to be converted, read or shown. -/
inductive Problem where
  | notAGranularity (shown : String)
  | notAPinKind (shown : String)
  | malformedFloat (shown : String)
  | malformedInt (shown : String)
  | tooManyDigits (count : Nat)
  | noFloat (kind : String)
  | noInt (kind : String)
  | nanAsInt
  | infinityAsInt
  | tooLargeForFloat
  | quotientTooLarge
  | operands (operator left right : String)
  | noMember (kind member : String)
  | tooManyColumns
  | tooFewColumns (count : Nat)
  | noColumns (kind : String)
  | instantUndefined
  | yearOutOfRange (year : Int)
  | instantOutOfRange
  | instantTooLarge
  | pathTooLong (shown : String)
  | dateOutOfRange
  | malformedInstant (shown : String)
  | noFormat (kind : String)
  | formatCode (code kind : String)
  | groupingOfText
  | comparison (operator left right : String)
  | missingKey (key : String)
  | missingNumber (key : Nat)
  | noItems (kind : String)
  | beyondEnd (kind : String)
  | undecodable (encoding : String) (byte start : Nat) (reason : String)
  | undecodableRun (encoding : String) (first last : Nat) (reason : String)
  | unmatchedClosing (tag : String) (position : Nat)
  | nothingToClose (position : Nat)
  /-- The part that could not be read is given unless the value itself was wrong. -/
  | malformedParameters (part? : Option String) (shown reason : String)
  | badLevel
  | percent (kind : PlainFault) (text : String)
deriving Repr, DecidableEq

namespace Problem

def kind : Problem → PlainFault
  | .notAGranularity _ | .notAPinKind _ | .malformedFloat _ | .malformedInt _ | .tooManyDigits _
  | .nanAsInt | .tooManyColumns | .tooFewColumns _ | .instantUndefined | .yearOutOfRange _
  | .malformedInstant _ | .formatCode .. | .groupingOfText | .badLevel => .value
  | .noFloat _ | .noInt _ | .operands .. | .noColumns _ | .noFormat _ | .comparison ..
  | .noItems _ => .wrongType
  | .infinityAsInt | .tooLargeForFloat | .quotientTooLarge | .instantOutOfRange
  | .dateOutOfRange => .overflow
  | .noMember .. => .attribute
  | .instantTooLarge | .pathTooLong _ => .os
  | .missingKey _ | .missingNumber _ => .key
  | .beyondEnd _ => .index
  | .undecodable .. | .undecodableRun .. => .decoding
  | .unmatchedClosing .. | .nothingToClose _ | .malformedParameters .. => .markup
  | .percent kind _ => kind

def message : Problem → String
  | .notAGranularity shown => shown ++ " is not a valid GraphType"
  | .notAPinKind shown => shown ++ " is not a valid PinType"
  | .malformedFloat shown => "could not convert string to float: " ++ shown
  | .malformedInt shown =>
    "invalid literal for int() with base 10: " ++ String.ofList (shown.toList.take 200)
  | .tooManyDigits count =>
    "Exceeds the limit (4300 digits) for integer string conversion: value has "
      ++ intText count ++ " digits; use sys.set_int_max_str_digits() to increase the limit"
  | .noFloat kind => "float() argument must be a string or a real number, not '" ++ kind ++ "'"
  | .noInt kind =>
    "int() argument must be a string, a bytes-like object or a real number, not '" ++ kind ++ "'"
  | .nanAsInt => "cannot convert float NaN to integer"
  | .infinityAsInt => "cannot convert float infinity to integer"
  | .tooLargeForFloat => "int too large to convert to float"
  | .quotientTooLarge => "integer division result too large for a float"
  | .operands operator left right =>
    "unsupported operand type(s) for " ++ operator ++ ": '" ++ left ++ "' and '" ++ right ++ "'"
  | .noMember kind member =>
    "'" ++ kind ++ "' object has no attribute '" ++ member ++ "'"
  | .tooManyColumns => "too many values to unpack (expected 2)"
  | .tooFewColumns count =>
    "not enough values to unpack (expected 2, got " ++ intText count ++ ")"
  | .noColumns kind => "cannot unpack non-iterable " ++ kind ++ " object"
  | .instantUndefined => "Invalid value NaN (not a number)"
  | .yearOutOfRange year => "year " ++ intText year ++ " is out of range"
  | .instantOutOfRange => "timestamp out of range for platform time_t"
  | .instantTooLarge => "[Errno 75] Value too large for defined data type"
  | .pathTooLong shown => "[Errno 36] File name too long: " ++ shown
  | .dateOutOfRange => "date value out of range"
  | .malformedInstant shown => "Invalid isoformat string: " ++ shown
  | .noFormat kind => "unsupported format string passed to " ++ kind ++ ".__format__"
  | .formatCode code kind =>
    "Unknown format code '" ++ code ++ "' for object of type '" ++ kind ++ "'"
  | .groupingOfText => "Cannot specify ',' with 's'."
  | .comparison operator left right =>
    "'" ++ operator ++ "' not supported between instances of '" ++ left ++ "' and '" ++ right ++ "'"
  | .missingKey key => Text.quoted key
  | .missingNumber key => intText key
  | .noItems kind => "'" ++ kind ++ "' object is not subscriptable"
  | .beyondEnd kind => kind ++ " index out of range"
  | .undecodable encoding byte start reason =>
    "'" ++ encoding ++ "' codec can't decode byte 0x" ++ String.ofList (Text.hexDigits 2 byte)
      ++ " in position " ++ intText start ++ ": " ++ reason
  | .undecodableRun encoding first last reason =>
    "'" ++ encoding ++ "' codec can't decode bytes in position " ++ intText first ++ "-"
      ++ intText last ++ ": " ++ reason
  | .unmatchedClosing tag position =>
    "closing tag '" ++ tag ++ "' at position " ++ intText position ++ " doesn't match any open tag"
  | .nothingToClose position =>
    "closing tag '[/]' at position " ++ intText position ++ " has nothing to close"
  | .malformedParameters part? shown reason =>
    "error parsing " ++ (match part? with
      | some part => part ++ " in " ++ shown
      | none => shown) ++ "; " ++ reason
  | .badLevel => "Unable to configure handler 'default'"
  | .percent _ text => text

end Problem

structure Issue where
  /-- The rule's code. -/
  code : String
  field : String
  message : String
deriving Repr, DecidableEq

inductive Fault where
  | driver (kind : DriverFault) (message : String)
  | store (kind : StoreFault) (message : String) (cause : Option Fault)
  | plain (kind : PlainFault) (message : String)
  | problem (problem : Problem)
  /-- A record that breaks some of its rules. -/
  | invalid (title : String) (issues : List Issue)
  /-- The user asked to stop. -/
  | interrupt (message : String)
deriving Repr

def DriverFault.name : DriverFault → String
  | .error => "Error"
  | .interface => "InterfaceError"
  | .operational => "OperationalError"
  | .programming => "ProgrammingError"
  | .data => "DataError"
  | .uniqueViolation => "UniqueViolation"
  | .syntaxError => "SyntaxError"
  | .poolTimeout => "PoolTimeout"
  | .poolClosed => "PoolClosed"

def StoreFault.name : StoreFault → String
  | .general => "ReportStoreError"
  | .connectionUnavailable => "ConnectionUnavailableError"
  | .storageDisabled => "StorageDisabledError"
  | .poolExhausted => "PoolExhaustedError"
  | .batchFailed => "BatchExecutionFailedError"

def PlainFault.name : PlainFault → String
  | .runtime => "RuntimeError"
  | .value => "ValueError"
  | .key => "KeyError"
  | .index => "IndexError"
  | .zeroDivision => "ZeroDivisionError"
  | .os => "OSError"
  | .wrongType => "TypeError"
  | .overflow => "OverflowError"
  | .attribute => "AttributeError"
  | .decoding => "UnicodeDecodeError"
  | .markup => "MarkupError"

/-- The classes from a store fault's own up to the root of its tree. -/
def StoreFault.ancestry : StoreFault → List StoreFault
  | .general => [.general]
  | .connectionUnavailable => [.connectionUnavailable, .general]
  | .storageDisabled => [.storageDisabled, .connectionUnavailable, .general]
  | .poolExhausted => [.poolExhausted, .connectionUnavailable, .general]
  | .batchFailed => [.batchFailed, .general]

namespace Fault

def name : Fault → String
  | .driver kind _ => kind.name
  | .store kind _ _ => kind.name
  | .plain kind _ => kind.name
  | .problem p => p.kind.name
  | .invalid _ _ => "ValidationError"
  | .interrupt _ => "KeyboardInterrupt"

/-- The text of a fault. A missing key is shown in quotes. -/
def message : Fault → String
  | .driver _ text => text
  | .store _ text _ => text
  | .plain .key text => Text.quoted text
  | .plain _ text => text
  | .problem p => p.message
  | .invalid title _ => title
  | .interrupt text => text

def cause? : Fault → Option Fault
  | .store _ _ cause => cause
  | _ => none

/-- A request to stop is not an error: it passes every tolerant caller. -/
def isError : Fault → Bool
  | .interrupt _ => false
  | _ => true

def isDriver : Fault → Bool
  | .driver _ _ => true
  | _ => false

def isStore : Fault → Bool
  | .store .. => true
  | _ => false

def isOperational : Fault → Bool
  | .driver kind _ => kind.isOperational
  | _ => false

end Fault

end BucketStore
