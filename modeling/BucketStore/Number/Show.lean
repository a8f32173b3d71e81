import BucketStore.Number.Decimal

namespace BucketStore

def withSign (negative : Bool) (cs : List Char) : List Char :=
  if negative then '-' :: cs else cs

/-- Whole digits, and a point before the others if there are any. -/
def joinPoint (parts : List Char × List Char) : List Char :=
  if parts.2.isEmpty then parts.1 else parts.1 ++ '.' :: parts.2

/-- `d.ddd`, an exponent mark and the exponent. -/
def Scientific.exponential (mark : Char) (s : Scientific) : List Char :=
  joinPoint (s.digits.splitAt 1) ++ mark :: exponentText s.exponent

/-- Exponents whose numbers are written positionally. -/
def isPositional (e : Int) : Bool :=
  -4 ≤ e && e < 16

/-- The fewest digits; `group` is applied to the digits before the point. -/
def shortestText (group : List Char → List Char) (x : Dyadic64) : List Char :=
  let s := x.shortest
  if isPositional s.exponent then
    let (whole, places) := s.positional
    group whole ++ '.' :: (if places.isEmpty then ['0'] else places)
  else s.exponential 'e'

/-- Apply a layout of magnitudes to a float; the others are `inf` and `nan`. -/
def layoutFloat (layout : Dyadic64 → List Char) (f : Float) : List Char :=
  match FloatView.ofFloat f with
  | .finite negative x => withSign negative (layout x)
  | .infinite negative => withSign negative "inf".toList
  | .undefined => "nan".toList

def floatText (f : Float) : String :=
  String.ofList (layoutFloat (shortestText id) f)

/-- A number of places behind the point, thousands grouped on demand. -/
def fixedText (group : List Char → List Char) (places : Nat) (x : Dyadic64) : List Char :=
  let (whole, rest) := splitPlaces (x.fixed places) places
  joinPoint (group whole, rest)

/-- `count` significant digits without closing zeros, scientific from 10^count on and below 10⁻⁴. -/
def generalText (count : Nat) (x : Dyadic64) : List Char :=
  let s := x.significant (max count 1)
  let cut : Scientific := ⟨s.digits.take 1 ++ Dyadic64.dropZeros (s.digits.drop 1), s.exponent⟩
  if -4 ≤ s.exponent && s.exponent < (max count 1 : Nat) then joinPoint cut.positional
  else cut.exponential 'e'

/-- Six significant digits, as periods of time are shown. -/
def conciseText (f : Float) : String :=
  String.ofList (layoutFloat (generalText 6) f)

def commas : List Char → List Char :=
  groupThousands ','

def placesText (places : Nat) (f : Float) : String :=
  String.ofList (layoutFloat (fixedText id places) f)

def groupedPlacesText (places : Nat) (f : Float) : String :=
  String.ofList (layoutFloat (fixedText commas places) f)

def groupedFloatText (f : Float) : String :=
  String.ofList (layoutFloat (shortestText commas) f)

def intText (i : Int) : String :=
  String.ofList (withSign (i < 0) (decimalDigits i.natAbs))

def groupedIntText (i : Int) : String :=
  String.ofList (withSign (i < 0) (commas (decimalDigits i.natAbs)))

end BucketStore
