/-!
Sets of characters given by ranges of code points, written as hexadecimal numbers:
`30-39 61` is the ten digits and the letter a.
-/

namespace BucketStore.Text

def hexDigit? (c : Char) : Option Nat :=
  let n := c.toNat
  if 48 ≤ n ∧ n ≤ 57 then some (n - 48)
  else if 97 ≤ n ∧ n ≤ 102 then some (n - 87)
  else if 65 ≤ n ∧ n ≤ 70 then some (n - 55)
  else none

/-- The value of a hexadecimal numeral; anything else in it counts as a zero. -/
def hexValue (cs : List Char) : Nat :=
  cs.foldl (fun n c => 16 * n + (hexDigit? c).getD 0) 0

/-- The words of a text, cut at spaces and line breaks. -/
def words (s : String) : List (List Char) :=
  (s.toList.splitOnP fun c => c == ' ' || c == '\n').filter (!·.isEmpty)

structure CharRange where
  first : Nat
  last : Nat
deriving Repr, DecidableEq

def CharRange.contains (r : CharRange) (n : Nat) : Bool :=
  r.first ≤ n && n ≤ r.last

/-- Read `a-b`, or `a` alone, as a range. -/
def CharRange.read (word : List Char) : CharRange :=
  match word.splitOn '-' with
  | [a, b] => ⟨hexValue a, hexValue b⟩
  | _ => ⟨hexValue word, hexValue word⟩

structure CharSet where
  ranges : Array CharRange

def CharSet.ofText (s : String) : CharSet :=
  ⟨((words s).map CharRange.read).toArray⟩

def CharSet.contains (set : CharSet) (c : Char) : Bool :=
  set.ranges.any (·.contains c.toNat)

end BucketStore.Text
