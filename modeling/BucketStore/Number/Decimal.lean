import BucketStore.Number.Binary64

namespace BucketStore

/-- Decimal digits `d₁d₂…dₖ` and the exponent of the first: `d₁.d₂…dₖ · Nat.pow 10 exponent`. -/
structure Scientific where
  digits : List Char
  exponent : Int
deriving Repr, DecidableEq

def decimalDigits (n : Nat) : List Char :=
  Nat.toDigits 10 n

/-- `n / d < Nat.pow 10 p`. -/
def belowPower (n d : Nat) (p : Int) : Bool :=
  n * Nat.pow 10 (-p).toNat < d * Nat.pow 10 p.toNat

/-- The greatest `p` with `Nat.pow 10 p ≤ n / d`, for positive `n` and `d`. -/
def floorLog10 (n d : Nat) : Int :=
  let guess := Dyadic64.floorLog2 n d * 30103 / 100000
  if belowPower n d guess then guess - 1
  else if belowPower n d (guess + 1) then guess
  else guess + 1

namespace Dyadic64

/-- The reals that round to the number: the ends as numerators over one denominator, and whether
the ends themselves do. -/
structure Interval where
  low : Nat
  value : Nat
  high : Nat
  denominator : Nat
  closed : Bool

def interval (x : Dyadic64) : Interval :=
  let (n, d) := x.ratio
  let step := 1 <<< x.exponent.toNat
  let below := if x.mantissa = 0x10000000000000 && x.exponent > -1074 then step else 2 * step
  ⟨4 * n - below, 4 * n, 4 * n + 2 * step, 4 * d, x.mantissa % 2 = 0⟩

def Interval.contains (i : Interval) (n d : Nat) : Bool :=
  let p := n * i.denominator
  if i.closed then i.low * d ≤ p && p ≤ i.high * d else i.low * d < p && p < i.high * d

/-- The digits on the grid `Nat.pow 10 g` nearest to the number among those that read back as it. -/
def onGrid? (i : Interval) (g : Int) : Option Nat :=
  let up := Nat.pow 10 g.toNat
  let down := Nat.pow 10 (-g).toNat
  let q := i.value * down / (i.denominator * up)
  let near := roundHalfEven (i.value * down) (i.denominator * up)
  let far := if near = q then q + 1 else q
  if i.contains (near * up) down then some near
  else if i.contains (far * up) down then some far
  else none

/-- The first count of digits that has a decimal reading back, tried from `count` upwards. -/
def shortestFrom (i : Interval) (p : Int) (count : Nat) : Nat → Nat × Int
  | 0 => (i.value, 0)
  | fuel + 1 =>
    let g := p - ((count : Int) - 1)
    match onGrid? i g with
    | some digits => (digits, g)
    | none => shortestFrom i p (count + 1) fuel

def dropZeros (cs : List Char) : List Char :=
  (cs.reverse.dropWhile (· == '0')).reverse

/-- The fewest digits that read back as the number, the nearest such decimal. -/
def shortest (x : Dyadic64) : Scientific :=
  if x.mantissa = 0 then ⟨['0'], 0⟩
  else
    let (n, d) := x.ratio
    let (digits, g) := shortestFrom x.interval (floorLog10 n d) 1 17
    let cs := decimalDigits digits
    ⟨dropZeros cs, g + cs.length - 1⟩

/-- The number on the grid of `10 ^ -places`, a half going to the even neighbour. -/
def fixed (x : Dyadic64) (places : Nat) : Nat :=
  let (n, d) := x.ratio
  roundHalfEven (n * Nat.pow 10 places) d

/-- Exactly `count` significant digits, for a positive count. -/
def significant (x : Dyadic64) (count : Nat) : Scientific :=
  if x.mantissa = 0 then ⟨List.replicate count '0', 0⟩
  else
    let (n, d) := x.ratio
    let p := floorLog10 n d
    let g := p - ((count : Int) - 1)
    let digits := roundHalfEven (n * Nat.pow 10 (-g).toNat) (d * Nat.pow 10 g.toNat)
    if digits = Nat.pow 10 count then ⟨decimalDigits (Nat.pow 10 (count - 1)), p + 1⟩
    else ⟨decimalDigits digits, p⟩

end Dyadic64

/-- Digits in front of and behind the point of a number given on the grid `10 ^ -places`. -/
def splitPlaces (value places : Nat) : List Char × List Char :=
  let cs := decimalDigits value
  let padded := List.replicate (places + 1 - cs.length) '0' ++ cs
  padded.splitAt (padded.length - places)

def groupThousands (separator : Char) (cs : List Char) : List Char :=
  let rec go : Nat → List Char → List Char
    | _, [] => []
    | 0, rest => rest
    | n + 1, c :: rest =>
      if n % 3 = 0 && n ≠ 0 then c :: separator :: go n rest else c :: go n rest
  go cs.length cs

/-- The digits laid out around the point: those in front, those behind. -/
def Scientific.positional (s : Scientific) : List Char × List Char :=
  if s.exponent < 0 then (['0'], List.replicate ((-s.exponent).toNat - 1) '0' ++ s.digits)
  else
    let n := s.exponent.toNat + 1
    (s.digits.take n ++ List.replicate (n - s.digits.length) '0', s.digits.drop n)

/-- Sign and at least two digits of an exponent. -/
def exponentText (e : Int) : List Char :=
  let cs := decimalDigits e.natAbs
  (if e < 0 then '-' else '+') :: (if cs.length < 2 then '0' :: cs else cs)

end BucketStore
