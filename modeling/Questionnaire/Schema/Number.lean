import Questionnaire.Value.Compare
/-!
# Numbers in schemas

Schema keywords compare numbers exactly: an integer and a float are compared as the rational
numbers they denote, and a comparison with NaN is false in every direction. Booleans are not
numbers here. `multipleOf` follows the reference validator: with an integer divisor the remainder
is exact; with a float divisor the quotient is computed in floating point and must be integral,
and only when it overflows is the exact quotient used instead.
-/

namespace Questionnaire.Schema

/-- A float's exact value as `m * 2^e`, for a finite float. -/
def exactFloat? (x : Float) : Option (Int × Int) :=
  match Decimal.classify x with
  | .finite b => some (if b.neg then -(b.m : Int) else b.m, b.e)
  | _ => none

/-- Compares `a * 2^i` with `b * 2^j` exactly. -/
def compareDyadic (a i b j : Int) : Ordering :=
  let k := min i j
  compare (a * Nat.pow 2 (i - k).toNat) (b * Nat.pow 2 (j - k).toNat)

/-- Compares an integer with a float exactly; `none` when the float is NaN. -/
def compareIntFloat (n : Int) (x : Float) : Option Ordering :=
  match Decimal.classify x with
  | .finite _ =>
    match exactFloat? x with
    | some (m, e) => some (compareDyadic n 0 m e)
    | none => none
  | .infinite neg => some (if neg then .gt else .lt)
  | .nan => none

/-- Compares two floats; `none` when one is NaN. -/
def compareFloats (x y : Float) : Option Ordering :=
  if x.isNaN || y.isNaN then none
  else if x < y then some .lt
  else if x == y then some .eq
  else some .gt

/-- Compares two numbers exactly; `none` for a NaN or a value that is not a number. -/
def compareNumbers : Value → Value → Option Ordering
  | .int a, .int b => some (compare a b)
  | .int a, .float y => compareIntFloat a y
  | .float x, .int b => (compareIntFloat b x).map Ordering.swap
  | .float x, .float y => compareFloats x y
  | _, _ => none

/-- Whether a value is a number: an integer or a float. -/
def isNumeric : Value → Bool
  | .int _ | .float _ => true
  | _ => false

/-- Whether a value is an integer, or a float with an integral value. -/
def isIntegral : Value → Bool
  | .int _ => true
  | .float x => !x.isNaN && !x.isInf && x.floor == x
  | _ => false

/-- Whether `a < b` for two numbers. -/
def numLt (a b : Value) : Bool := compareNumbers a b == some .lt

/-- Whether `a ≤ b` for two numbers. -/
def numLe (a b : Value) : Bool := compareNumbers a b == some .lt || compareNumbers a b == some .eq

/-- Whether two numbers are equal. -/
def numEq (a b : Value) : Bool := compareNumbers a b == some .eq

/-- The float nearest to an integer. -/
def intToFloat (n : Int) : Float :=
  if n < 0 then -(Float.ofScientific n.natAbs false 0) else Float.ofScientific n.natAbs false 0

/-- Whether `a * 2^i` divided by `b * 2^j` is an integer (`b ≠ 0`). -/
def dyadicDivides (a i b j : Int) : Bool :=
  let k := min i j
  let num := a * Nat.pow 2 (i - k).toNat
  let den := b * Nat.pow 2 (j - k).toNat
  den != 0 && num % den == 0

/-- The exact value of a number as `m * 2^e`. -/
def exactValue? : Value → Option (Int × Int)
  | .int n => some (n, 0)
  | .float x => exactFloat? x
  | _ => none

/-- Whether a number fails `multipleOf` with the given divisor. -/
def failsMultipleOf (inst divisor : Value) : Bool :=
  match divisor with
  | .float d =>
    let x := match inst with
      | .int n => intToFloat n
      | .float x => x
      | _ => 0.0
    let q := x / d
    if q.isInf then
      match exactValue? inst, exactValue? divisor with
      | some (a, i), some (b, j) => !dyadicDivides a i b j
      | _, _ => true
    else q.isNaN || q.floor != q
  | .int d =>
    match inst with
    | .int n => d == 0 || n % d != 0
    | .float x =>
      match exactFloat? x with
      | some (m, e) => !dyadicDivides m e d 0
      | none => true
    | _ => false
  | _ => false

end Questionnaire.Schema
