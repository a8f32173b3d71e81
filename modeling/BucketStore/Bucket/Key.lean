import BucketStore.Validation
import BucketStore.Granularity
import BucketStore.Pin
import BucketStore.Value.Number

/-!
Keys of time buckets: whose metric, on which pin, and the index of the bucket since the epoch.
The bucket of an instant is the floor of its quotient by the granularity's period.
-/

namespace BucketStore

/-- The identity of one metric's bucket. `bucket` counts buckets since the epoch. -/
structure BucketKey where
  username : String
  dashboard : Int
  pin : Fin 256
  pinKind : PinKind
  bucket : Int
deriving Repr, DecidableEq

namespace BucketKey

/-- Pins are numbered from 0 to 255. -/
def pinRule : Rule (Fin 256) := fun v => do
  let i ← Rule.int v
  if i < 0 then .error (.below 0)
  else if h : i.toNat < 256 then .ok ⟨i.toNat, h⟩
  else .error (.above 255)

def pinKindRule : Rule PinKind
  | .text s =>
    match PinKind.ofLetter? s with
    | some k => .ok k
    | none => .error .noPinKind
  | _ => .error .noPinKind

def usernameField : Field String := { key := "username", rule := Rule.text }

def dashboardField : Field Int := { key := "dash_id", rule := Rule.int }

def pinField : Field (Fin 256) := { key := "pin", rule := pinRule }

def pinKindField : Field PinKind := { key := "pin_type", rule := pinKindRule }

def bucketField : Field Int := { key := "ts", rule := Rule.int }

def title : String := "AggregationKey"

def ofFields (fields : List (String × Value)) : Except Fault BucketKey :=
  let checked := (usernameField.check fields).both <|
    (dashboardField.check fields).both <|
    (pinField.check fields).both <|
    (pinKindField.check fields).both <|
    bucketField.check fields
  (checked.map fun (username, dashboard, pin, kind, bucket) =>
    ⟨username, dashboard, pin, kind, bucket⟩).run title

def bucketOf (g : Granularity) (millis : Int) : Int :=
  Int.fdiv millis g.period

theorem le_bucketOf_iff (g : Granularity) (n millis : Int) :
    n ≤ bucketOf g millis ↔ n * g.period ≤ millis := by
  rw [bucketOf, Int.fdiv_eq_ediv_of_nonneg _ (by omega)]
  exact Int.le_ediv_iff_mul_le (by have := g.period_pos; omega)

theorem bucketOf_mul_le (g : Granularity) (millis : Int) :
    bucketOf g millis * g.period ≤ millis :=
  (le_bucketOf_iff g _ millis).mp (Int.le_refl _)

theorem lt_bucketOf_add_one_mul (g : Granularity) (millis : Int) :
    millis < (bucketOf g millis + 1) * g.period := by
  rw [← Int.not_le, ← le_bucketOf_iff]
  omega

/-- The remainder of a float by a positive integer, with the float's sign; exact. -/
def floatRemainder (f : Float) (d : Nat) : Float :=
  match FloatView.ofFloat f with
  | .finite negative x =>
    let (n, scale) := x.ratio
    signedFloat negative (Dyadic64.nearest (n % (d * scale)) scale)
  | _ => 0.0 / 0.0

/-- The floor of a quotient of floats, taken after the quotient was rounded. -/
def floatFloorDiv (f : Float) (d : Nat) : Float :=
  let divisor := Float.ofNat d
  let remainder := floatRemainder f d
  let quotient := (f - remainder) / divisor
  let quotient := if remainder < 0.0 then quotient - 1.0 else quotient
  if quotient == 0.0 then 0.0
  else
    let whole := quotient.floor
    if quotient - whole > 0.5 then whole + 1.0 else whole

def bucketOfValue (g : Granularity) : Value → Except Problem Value
  | .int i => .ok (.int (bucketOf g i))
  | .bool b => .ok (.int (bucketOf g (Value.ofBool b)))
  | .float f => .ok (.float (floatFloorDiv f g.period))
  | v => .error (.operands "//" v.kind "int")

/-- The key of the bucket that holds an instant given in milliseconds. -/
def forInstant (g : Granularity) (username dashboard pin pinKind instant : Value) :
    Except Fault BucketKey :=
  match bucketOfValue g instant with
  | .error p => .error (.problem p)
  | .ok bucket => ofFields
    [("username", username), ("dash_id", dashboard), ("pin", pin), ("pin_type", pinKind),
      ("ts", bucket)]

/-- The start of the key's bucket in milliseconds since the epoch. -/
def timestamp (g : Granularity) (key : BucketKey) : Int :=
  key.bucket * g.period

end BucketKey

/-- Positions of equal items, grouped in order of first appearance. -/
def groupPositions {α : Type} [DecidableEq α] (items : List α) : List (List Nat) :=
  let numbered := items.zipIdx
  let firsts := items.eraseDups
  firsts.map fun a => (numbered.filter (·.1 = a)).map (·.2)

end BucketStore
