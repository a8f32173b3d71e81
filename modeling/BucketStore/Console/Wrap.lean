import BucketStore.Console.Marked

namespace BucketStore.Console

inductive Alignment where
  /-- As it comes, without filling up. -/
  | ragged
  | left
  | centre
  | right
deriving Repr, DecidableEq

inductive Overflow where
  | fold
  | ellipsis
deriving Repr, DecidableEq

/-- The number of characters up to the end of the first word and the blanks behind it; nothing if
there is no word. -/
def wordLength? (cs : List Char) : Option Nat :=
  let body := cs.dropWhile Text.isBlank
  let tail := body.dropWhile (!Text.isBlank ·)
  if body.isEmpty then none else some (cs.length - (tail.dropWhile Text.isBlank).length)

/-- Words with the blanks around them; blanks between two words belong to the first one. -/
def wordsFrom : Nat → List Char → List (List Char)
  | 0, _ => []
  | fuel + 1, cs =>
    match wordLength? cs with
    | some n => cs.take n :: wordsFrom fuel (cs.drop n)
    | none => []

def textWords (cs : List Char) : List (List Char) :=
  wordsFrom cs.length cs

/-- The breaks that folding a word puts before its pieces, if the word starts at `start`, and the
cells of the last piece. There is no break at the start of a line. -/
def foldBreaks (start : Nat) : List (List Char) → List Nat × Nat
  | [] => ([], 0)
  | [piece] => (if start > 0 then [start] else [], width piece)
  | piece :: rest =>
    let (breaks, used) := foldBreaks (start + piece.length) rest
    ((if start > 0 then [start] else []) ++ breaks, used)

/-- The places at which to break a line of words, `used` cells of which are taken. -/
def breaksFrom (overflow : Overflow) (total start used : Nat) : List (List Char) → List Nat
  | [] => []
  | word :: rest =>
    let next := start + word.length
    let size := width (Text.trimEnd Text.isBlank word)
    if used + size ≤ total then breaksFrom overflow total next (used + width word) rest
    else if size > total then
      match overflow with
      | .fold =>
        let (breaks, used) := foldBreaks start (chop total word)
        breaks ++ breaksFrom overflow total next used rest
      | .ellipsis =>
        (if start > 0 then [start] else []) ++ breaksFrom overflow total next (width word) rest
    else if used > 0 ∧ start > 0 then start :: breaksFrom overflow total next (width word) rest
    else breaksFrom overflow total next used rest

/-- Drop blanks at the end of a line that has more than `total` characters. -/
def dropExcess (total : Nat) (t : Marked) : Marked :=
  let blanks := t.chars.length - (Text.trimEnd Text.isBlank t.chars).length
  t.withChars (t.chars.take (t.chars.length - min blanks (t.chars.length - total)))

def truncate (overflow : Overflow) (total : Nat) (t : Marked) : Marked :=
  if width t.chars ≤ total then t
  else match overflow with
    | .fold => t.withChars (fit total t.chars)
    | .ellipsis => t.withChars (fit (total - 1) t.chars ++ ['…'])

def align (alignment : Alignment) (overflow : Overflow) (total : Nat) (t : Marked) : Marked :=
  match alignment with
  | .ragged => t
  | .left => (truncate overflow total t).extend (total - width t.chars)
  | .centre =>
    let t := truncate overflow total t.trimEnd
    let t := t.indent ((total - width t.chars) / 2)
    t.extend (total - width t.chars)
  | .right =>
    let t := truncate overflow total t.trimEnd
    t.indent (total - width t.chars)

structure Layout where
  alignment : Alignment := .ragged
  overflow : Overflow := .fold
  /-- Whether lines break between words. -/
  wraps : Bool := true

/-- Break a line between words; no more blanks stand at an end than fit. -/
def Layout.break (layout : Layout) (total : Nat) (t : Marked) : List Marked :=
  let places := breaksFrom layout.overflow total 0 0 (textWords t.chars)
  (t.divide places).map (dropExcess total)

def Layout.line (layout : Layout) (total : Nat) (t : Marked) : List Marked :=
  let t := if t.chars.contains '\t' then t.expandTabs else t
  let lines := if layout.wraps then layout.break total t else [t]
  lines.map fun line =>
    truncate layout.overflow total (align layout.alignment layout.overflow total line)

def Layout.lines (layout : Layout) (total : Nat) (t : Marked) :
    Except Problem (List (List (List Char))) :=
  (t.lines.flatMap (layout.line total)).mapM Marked.segments

/-- Line breaks, when the width of a text is measured. -/
def isLineBreak (c : Char) : Bool :=
  c == '\n' || c == '\r' || (0x1c ≤ c.toNat && c.toNat ≤ 0x1e) || c.toNat == 0x85
    || c.toNat == 0x2028 || c.toNat == 0x2029

def widest (cs : List Char) : Nat :=
  ((cs.splitOnP isLineBreak).map width).foldl max 0

end BucketStore.Console
