import BucketStore.Text.Printable

namespace BucketStore.Text

/-- Lower-case hexadecimal digits, filled up with zeros to a least width. -/
def hexDigits (width n : Nat) : List Char :=
  let digits := Nat.toDigits 16 n
  List.replicate (width - digits.length) '0' ++ digits

def quote : Char := '\x27'

/-- The written form of one character between quotes of the given kind. -/
def quotedChar (delimiter c : Char) : List Char :=
  if c == delimiter || c == '\\' then ['\\', c]
  else if c == '\t' then ['\\', 't']
  else if c == '\n' then ['\\', 'n']
  else if c == '\r' then ['\\', 'r']
  else if isPrintable c then [c]
  else if c.toNat < 0x100 then '\\' :: 'x' :: hexDigits 2 c.toNat
  else if c.toNat < 0x10000 then '\\' :: 'u' :: hexDigits 4 c.toNat
  else '\\' :: 'U' :: hexDigits 8 c.toNat

/-- Double quotes are used only for a text with a single quote and no double quote. -/
def delimiterOf (s : String) : Char :=
  if s.toList.contains quote && !s.toList.contains '"' then '"' else quote

def quoted (s : String) : String :=
  let delimiter := delimiterOf s
  String.ofList (delimiter :: s.toList.flatMap (quotedChar delimiter) ++ [delimiter])

end BucketStore.Text
