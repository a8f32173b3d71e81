import BucketStore.Console.Cluster
import BucketStore.Text.Blank
import BucketStore.Fault

/-!
Marked texts: characters, and stretches of them that bear a style. Output shows no styles, but a
stretch ends a segment, and segments are measured one by one; a style that cannot be judged is a
problem once the text is shown.
-/

namespace BucketStore.Console

/-- A stretch of a text, from a place up to another one. -/
structure Span where
  first : Nat
  last : Nat
  /-- What is wrong with its style. -/
  flaw? : Option Problem := none
deriving Repr

structure Marked where
  chars : List Char
  spans : List Span := []

namespace Marked

/-- The part of a text between two places. Spans that have nothing in it are left out. -/
def slice (t : Marked) (start stop : Nat) : Marked :=
  { chars := (t.chars.take stop).drop start
    spans := t.spans.filterMap fun s =>
      let first := s.first - start
      let last := min s.last stop - start
      if first < last then some { s with first, last } else none }

def divide (t : Marked) (places : List Nat) : List Marked :=
  if places.isEmpty then [t]
  else List.zipWith t.slice (0 :: places) (places ++ [t.chars.length])

/-- The places of a character, the first of which is `place`. -/
def placesOf (c : Char) (place : Nat) : List Char → List Nat
  | [] => []
  | d :: rest => (if d == c then [place] else []) ++ placesOf c (place + 1) rest

def lines (t : Marked) : List Marked :=
  let breaks := placesOf '\n' 0 t.chars
  if breaks.isEmpty then [t]
  else List.zipWith t.slice (0 :: breaks.map (· + 1)) (breaks ++ [t.chars.length])

/-- Spans of a text that ends at a place. -/
def endAt (place : Nat) (spans : List Span) : List Span :=
  (spans.filter (·.first < place)).map fun s => { s with last := min s.last place }

/-- Put other characters in the place of a text's. Spans end where the text is shorter now. -/
def withChars (t : Marked) (chars : List Char) : Marked :=
  ⟨chars, if chars.length < t.chars.length then endAt chars.length t.spans else t.spans⟩

def trimEnd (t : Marked) : Marked :=
  t.withChars (Text.trimEnd Text.isBlank t.chars)

def indent (n : Nat) (t : Marked) : Marked :=
  ⟨spaces n ++ t.chars, t.spans.map fun s => { s with first := s.first + n, last := s.last + n }⟩

def extend (n : Nat) (t : Marked) : Marked :=
  { t with chars := t.chars ++ spaces n }

def append (t u : Marked) : Marked :=
  let shift := t.chars.length
  ⟨t.chars ++ u.chars,
    t.spans ++ u.spans.map fun s => { s with first := s.first + shift, last := s.last + shift }⟩

/-- A part of a line, the last character of which is a tab, up to the next multiple of eight
cells. What reaches the end of the part is extended. -/
def expandPart (used : Nat) (part : Marked) : Marked × Nat :=
  if part.chars.getLast? == some '\t' then
    let shown := part.chars.dropLast ++ [' ']
    let used := used + width shown
    let more := (8 - used % 8) % 8
    let spans := part.spans.map fun s =>
      if s.last ≥ shown.length then { s with last := s.last + more } else s
    (⟨shown ++ spaces more, spans⟩, used + more)
  else (part, used + width part.chars)

def expandTabs (t : Marked) : Marked :=
  let parts := t.divide ((placesOf '\t' 0 t.chars).map (· + 1))
  (parts.foldl (fun (line, used) part =>
    let (part, used) := expandPart used part
    (append line part, used)) (⟨[], []⟩, 0)).1

/-- The segments of a text, cut at the given places; `gathered` is the one that has begun,
backwards. -/
def segmentsFrom (places : List Nat) (place : Nat) (gathered : List Char) :
    List Char → List (List Char)
  | [] => if gathered.isEmpty then [] else [gathered.reverse]
  | c :: rest =>
    if places.contains place && !gathered.isEmpty then
      gathered.reverse :: segmentsFrom places (place + 1) [c] rest
    else segmentsFrom places (place + 1) (c :: gathered) rest

/-- The segments that a text is shown in, unless there is something wrong with a style. -/
def segments (t : Marked) : Except Problem (List (List Char)) :=
  match t.spans.findSome? (·.flaw?) with
  | some p => .error p
  | none => .ok (segmentsFrom (t.spans.flatMap fun s => [s.first, s.last]) 0 [] t.chars)

end Marked

def lineWidth (line : List (List Char)) : Nat :=
  totalWidth (line.map width)

/-- The segments that take `total` cells; the last one is cut off or filled up. -/
def cropLine (total : Nat) : List (List Char) → List (List Char)
  | [] => []
  | segment :: rest =>
    let size := width segment
    if size < total then segment :: cropLine (total - size) rest else [fit total segment]

/-- A line that takes at most `total` cells. -/
def limitLine (total : Nat) (line : List (List Char)) : List (List Char) :=
  if lineWidth line > total then cropLine total line else line

/-- A line that takes `total` cells. -/
def fitLine (total : Nat) (line : List (List Char)) : List (List Char) :=
  if lineWidth line < total then line ++ [spaces (total - lineWidth line)] else limitLine total line

end BucketStore.Console
