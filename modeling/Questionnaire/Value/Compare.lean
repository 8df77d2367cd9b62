import Questionnaire.Value.Basic
import Questionnaire.Decimal.Shortest
/-!
# Strict equality of answer values

Conditions compare an answer with a literal without crossing kinds: a boolean equals only a
boolean, a number only a number and a text only a text. Integers and floats are compared as the
exact numbers they denote (so `9007199254740993` differs from the float `9007199254740992.0`),
floats among themselves as floats (a NaN equals nothing). Null equals null. Arrays and objects
are never equal to anything: a comparison only ever sees separately built composite values.
-/

namespace Questionnaire

namespace Value

/-- Whether the integer `n` is exactly the float `x`. -/
def intEqFloat (n : Int) (x : Float) : Bool :=
  match Decimal.classify x with
  | .finite b =>
    let m : Int := if b.neg then -(b.m : Int) else b.m
    if b.e ≥ 0 then n == m * Nat.pow 2 b.e.toNat
    else n * Nat.pow 2 (-b.e).toNat == m
  | _ => false

/-- Equality without crossing kinds. -/
def strictEq : Value → Value → Bool
  | .bool a, .bool b => a == b
  | .int a, .int b => a == b
  | .int a, .float b => intEqFloat a b
  | .float a, .int b => intEqFloat b a
  | .float a, .float b => a == b
  | .str a, .str b => a == b
  | .null, .null => true
  | _, _ => false

/-- Whether a value is the text `s`. -/
def isText (v : Value) (s : String) : Bool :=
  match v with
  | .str t => t == s
  | _ => false

/-- Whether a value is a number: an integer, a float or a boolean. -/
def isNumber : Value → Bool
  | .int _ | .float _ | .bool _ => true
  | _ => false

end Value

end Questionnaire
