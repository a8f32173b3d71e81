/-!
Blank characters and the ways of cutting them off. Three classes occur: the blanks of text fields,
the white space of number texts, and the blanks of connection strings, which are ASCII alone.
-/

namespace BucketStore.Text

/-- White space as Unicode defines the property. -/
def isWhiteSpace (c : Char) : Bool :=
  let n := c.toNat
  (9 ≤ n && n ≤ 13) || n == 32 || n == 0x85 || n == 0xa0 || n == 0x1680
    || (0x2000 ≤ n && n ≤ 0x200a) || n == 0x2028 || n == 0x2029 || n == 0x202f
    || n == 0x205f || n == 0x3000

/-- Blanks of text: white space and the four information separators. -/
def isBlank (c : Char) : Bool :=
  isWhiteSpace c || (0x1c ≤ c.toNat && c.toNat ≤ 0x1f)

/-- Blanks of connection strings: space and the five ASCII layout controls. -/
def isLayout (c : Char) : Bool :=
  c == ' ' || (9 ≤ c.toNat && c.toNat ≤ 13)

def trimEnd (p : Char → Bool) (cs : List Char) : List Char :=
  (cs.reverse.dropWhile p).reverse

def trim (p : Char → Bool) (cs : List Char) : List Char :=
  trimEnd p (cs.dropWhile p)

/-- `trim` over strings. -/
def strip (p : Char → Bool) (s : String) : String :=
  String.ofList (trim p s.toList)

end BucketStore.Text
