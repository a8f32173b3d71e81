/-!
Binary64 arithmetic over exact integers: the number nearest to a quotient (a half goes to the
even neighbour), and the way between such numbers and the machine's floats.
-/

namespace BucketStore

/-- The integer nearest to `n / d`; a half goes to the even neighbour. -/
def roundHalfEven (n d : Nat) : Nat :=
  let q := n / d
  let r := n % d
  if 2 * r < d then q
  else if 2 * r > d then q + 1
  else q + q % 2

/-- The number `mantissa · 2 ^ exponent`. -/
structure Dyadic64 where
  mantissa : Nat
  exponent : Int
deriving Repr, DecidableEq, Inhabited

namespace Dyadic64

def ratio (x : Dyadic64) : Nat × Nat :=
  (x.mantissa <<< x.exponent.toNat, 1 <<< (-x.exponent).toNat)

/-- The greatest `k` with `2 ^ k ≤ n / d`, for positive `n` and `d`. -/
def floorLog2 (n d : Nat) : Int :=
  let k : Int := (n.log2 : Int) - d.log2
  if d <<< k.toNat ≤ n <<< (-k).toNat then k else k - 1

/-- The exponent of the grid on which numbers of the size of `n / d` lie. -/
def gridExponent (n d : Nat) : Int :=
  max (floorLog2 n d - 52) (-1074)

/-- The number with 53 significant bits nearest to `n / d`, without a bound above. -/
def nearest (n d : Nat) : Dyadic64 :=
  if n = 0 then ⟨0, -1074⟩
  else
    let e := gridExponent n d
    ⟨roundHalfEven (n <<< (-e).toNat) (d <<< e.toNat), e⟩

def overflows (x : Dyadic64) : Bool :=
  let (n, d) := x.ratio
  d <<< 1024 ≤ n

/-- The bits of the float; the overflowing numbers become infinite. -/
def bits (x : Dyadic64) : UInt64 :=
  if x.mantissa = 0 then 0
  else if x.overflows then 0x7ff0000000000000
  else UInt64.ofNat ((x.exponent + 1074).toNat * 0x10000000000000 + x.mantissa)

def toFloat (x : Dyadic64) : Float :=
  Float.ofBits x.bits

def floor (x : Dyadic64) : Nat :=
  let (n, d) := x.ratio
  n / d

end Dyadic64

inductive FloatView where
  | finite (negative : Bool) (magnitude : Dyadic64)
  | infinite (negative : Bool)
  | undefined
deriving Repr, DecidableEq

def FloatView.ofFloat (f : Float) : FloatView :=
  let b := f.toBits.toNat
  let negative := b ≥ 0x8000000000000000
  let e : Nat := b / 0x10000000000000 % 2048
  let m : Nat := b % 0x10000000000000
  if e = 2047 then (if m = 0 then .infinite negative else .undefined)
  else if e = 0 then .finite negative ⟨m, -1074⟩
  else .finite negative ⟨m + 0x10000000000000, (e : Int) - 1075⟩

def signedFloat (negative : Bool) (x : Dyadic64) : Float :=
  if negative then -x.toFloat else x.toFloat

/-- The float nearest to an integer, if there is one. -/
def floatOfInt? (i : Int) : Option Float :=
  let x := Dyadic64.nearest i.natAbs 1
  if x.overflows then none else some (signedFloat (i < 0) x)

/-- The float nearest to `digits · 10 ^ exponent`. Beyond 400 places on either side the answer is
infinite or zero whatever the digits are. -/
def floatOfDecimal (digits : Nat) (exponent : Int) : Float :=
  if digits = 0 then 0.0
  else
    let scale : Int := exponent + digits.log2 * 30103 / 100000
    if scale > 400 then Float.ofBits 0x7ff0000000000000
    else if scale < -400 then 0.0
    else
      let scaled := digits * Nat.pow 10 exponent.toNat
      (Dyadic64.nearest scaled (Nat.pow 10 (-exponent).toNat)).toFloat

/-- A whole number in a float, if it holds one. -/
def wholeOfFloat? (f : Float) : Option Int :=
  match FloatView.ofFloat f with
  | .finite negative x =>
    let (n, d) := x.ratio
    let whole : Int := (n / d : Nat)
    if n % d = 0 then some (if negative then -whole else whole) else none
  | _ => none

end BucketStore
