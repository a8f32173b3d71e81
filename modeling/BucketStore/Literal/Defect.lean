import BucketStore.Number.Show
import BucketStore.Text.Quoted

namespace BucketStore.Literal

inductive Defect where
  | general
  | nul
  | endOfText
  | indentation
  | unevenIndentation
  | afterContinuation
  | tooDeep
  | unmatched (closing : Char)
  /-- The line of the opening bracket is given if it is another one. -/
  | mismatched (closing opening : Char) (line? : Option Nat)
  | neverClosed (opening : Char)
  | openText (line : Nat)
  | openLongText (line : Nat)
  | number (kind : String)
  | strayDigit (digit : Char) (kind : String)
  | leadingZeros
  | tooManyDigits (count : Nat)
  | character (c : Char)
  | escape (first last : Nat) (reason : String)
  | byteEscape (place : Nat)
  | wideByte
  | mixedTexts
  /-- A brace in a formatted text that closes nothing. -/
  | strayBrace
  /-- The sign behind which an expression should stand is given if it is not the closing brace. -/
  | emptyPart (sign? : Option Char)
  | openPart
  | partsTooDeep
  | backslashInPart
  | commentInPart
  | openTextInPart
  | bracketsTooDeepInPart
  | unmatchedInPart (bracket : Char)
  | mismatchedInPart (closing opening : Char)
  | conversionOfPart
  /-- A defect that the grammar finds in a part of a formatted text. -/
  | inPart (defect : Defect)
  | missingComma
  | missingElse
  | missingCall (name : String)
  | assignment
  | assignmentTo (name : String)
  | assignmentHere (name : String)
  | assignmentWith (name : String)
  | assignmentInCall
  | starredNothing
  | starredInGroup
  | doubleStarredInGroup
  | starredValue
  | missingValue
  | missingColon
  | starredGenerator
  | bareTarget
  | doubleStarredGenerator
  | bareGenerator
  | positionalBehindKeyword
  | positionalBehindUnpacking
  | starredBehindUnpacking
  | bareStar
  | secondStar
  | missingDefault
  | defaultValue
  | defaultOfRest
  | defaultOfKeywords
  | behindKeywords
  | groupedParameters
  | nothingBeforeSlash
  | secondSlash
  | slashBehindStar
  | slashBeforeStar
  | unhashable (kind : String)
  /-- An expression that denotes no value; nothing is left out of a dictionary's keys but by an
  unpacking. -/
  | noLiteral (isUnpacking : Bool)
deriving Repr, DecidableEq

namespace Defect

/-- The number of a character, with four hexadecimal digits at least. -/
def codeOf (c : Char) : String :=
  "U+" ++ String.ofList ((Text.hexDigits 4 c.toNat).map Char.toUpper)

def formattedMark : String := "f-string"

def message : Defect → String
  | .general => "invalid syntax"
  | .nul => "source code string cannot contain null bytes"
  | .endOfText => "unexpected EOF while parsing"
  | .indentation => "unexpected indent"
  | .unevenIndentation => "unindent does not match any outer indentation level"
  | .afterContinuation => "unexpected character after line continuation character"
  | .tooDeep => "too many nested parentheses"
  | .unmatched closing => "unmatched '" ++ String.singleton closing ++ "'"
  | .mismatched closing opening line? =>
    "closing parenthesis '" ++ String.singleton closing ++ "' does not match opening parenthesis '"
      ++ String.singleton opening ++ "'"
      ++ match line? with
        | some line => " on line " ++ intText line
        | none => ""
  | .neverClosed opening => "'" ++ String.singleton opening ++ "' was never closed"
  | .openText line => "unterminated string literal (detected at line " ++ intText line ++ ")"
  | .openLongText line =>
    "unterminated triple-quoted string literal (detected at line " ++ intText line ++ ")"
  | .number kind => "invalid " ++ kind ++ " literal"
  | .strayDigit d kind =>
    "invalid digit '" ++ String.singleton d ++ "' in " ++ kind ++ " literal"
  | .leadingZeros =>
    "leading zeros in decimal integer literals are not permitted; "
      ++ "use an 0o prefix for octal integers"
  | .tooManyDigits count =>
    "Exceeds the limit (4300 digits) for integer string conversion: value has "
      ++ intText count ++ " digits; use sys.set_int_max_str_digits() to increase the limit"
      ++ " - Consider hexadecimal for huge integer literals to avoid decimal conversion limits."
  | .character c =>
    if Text.isPrintable c then
      "invalid character '" ++ String.singleton c ++ "' (" ++ codeOf c ++ ")"
    else "invalid non-printable character " ++ codeOf c
  | .escape first last reason =>
    "(unicode error) 'unicodeescape' codec can't decode bytes in position " ++ intText first ++ "-"
      ++ intText last ++ ": " ++ reason
  | .byteEscape place => "(value error) invalid \\x escape at position " ++ intText place
  | .wideByte => "bytes can only contain ASCII literal characters"
  | .mixedTexts => "cannot mix bytes and nonbytes literals"
  | .strayBrace => formattedMark ++ ": single '\x7d' is not allowed"
  | .emptyPart none => formattedMark ++ ": empty expression not allowed"
  | .emptyPart (some sign) =>
    formattedMark ++ ": expression required before '" ++ String.singleton sign ++ "'"
  | .openPart => formattedMark ++ ": expecting '\x7d'"
  | .partsTooDeep => formattedMark ++ ": expressions nested too deeply"
  | .backslashInPart => formattedMark ++ " expression part cannot include a backslash"
  | .commentInPart => formattedMark ++ " expression part cannot include '#'"
  | .openTextInPart => formattedMark ++ ": unterminated string"
  | .bracketsTooDeepInPart => formattedMark ++ ": too many nested parenthesis"
  | .unmatchedInPart bracket =>
    formattedMark ++ ": unmatched '" ++ String.singleton bracket ++ "'"
  | .mismatchedInPart closing opening =>
    formattedMark ++ ": closing parenthesis '" ++ String.singleton closing
      ++ "' does not match opening parenthesis '" ++ String.singleton opening ++ "'"
  | .conversionOfPart =>
    formattedMark ++ ": invalid conversion character: expected 's', 'r', or 'a'"
  | .inPart defect => formattedMark ++ ": " ++ defect.message
  | .missingComma => "invalid syntax. Perhaps you forgot a comma?"
  | .missingElse => "expected 'else' after 'if' expression"
  | .missingCall name =>
    "Missing parentheses in call to '" ++ name ++ "'. Did you mean " ++ name ++ "(...)?"
  | .assignment => "invalid syntax. Maybe you meant '==' or ':=' instead of '='?"
  | .assignmentTo name => "cannot assign to " ++ name
  | .assignmentHere name =>
    "cannot assign to " ++ name ++ " here. Maybe you meant '==' instead of '='?"
  | .assignmentWith name => "cannot use assignment expressions with " ++ name
  | .assignmentInCall => "expression cannot contain assignment, perhaps you meant \"==\"?"
  | .starredNothing => "Invalid star expression"
  | .starredInGroup => "cannot use starred expression here"
  | .doubleStarredInGroup => "cannot use double starred expression here"
  | .starredValue => "cannot use a starred expression in a dictionary value"
  | .missingValue => "expression expected after dictionary key and ':'"
  | .missingColon => "':' expected after dictionary key"
  | .starredGenerator => "iterable unpacking cannot be used in comprehension"
  | .bareTarget => "did you forget parentheses around the comprehension target?"
  | .doubleStarredGenerator => "dict unpacking cannot be used in dict comprehension"
  | .bareGenerator => "Generator expression must be parenthesized"
  | .positionalBehindKeyword => "positional argument follows keyword argument"
  | .positionalBehindUnpacking => "positional argument follows keyword argument unpacking"
  | .starredBehindUnpacking =>
    "iterable argument unpacking follows keyword argument unpacking"
  | .bareStar => "named arguments must follow bare *"
  | .secondStar => "* argument may appear only once"
  | .missingDefault => "non-default argument follows default argument"
  | .defaultValue => "expected default value expression"
  | .defaultOfRest => "var-positional argument cannot have default value"
  | .defaultOfKeywords => "var-keyword argument cannot have default value"
  | .behindKeywords => "arguments cannot follow var-keyword argument"
  | .groupedParameters => "Lambda expression parameters cannot be parenthesized"
  | .nothingBeforeSlash => "at least one argument must precede /"
  | .secondSlash => "/ may appear only once"
  | .slashBehindStar => "/ must be ahead of *"
  | .slashBeforeStar => "expected comma between / and *"
  | .unhashable kind => "unhashable type: '" ++ kind ++ "'"
  | .noLiteral isUnpacking =>
    "malformed node or string" ++ if isUnpacking then ": None" else ""

/-- Defects of what a well-formed text denotes. -/
def isOfValue : Defect → Bool
  | .unhashable _ | .noLiteral _ => true
  | _ => false

end Defect

end BucketStore.Literal
