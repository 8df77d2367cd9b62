/-!
# Shortest decimal digits of a binary64 value

A finite double is `(-1)^neg · m · 2^e` with a natural significand `m`. Every real number in the
rounding interval of the double reads back as that double; the interval's ends are the midpoints
to the two neighbouring doubles and belong to it exactly when `m` is even, since a tie is read
to the even significand.

`Binary.shortest` returns the decimal `c · 10^t` with the fewest significant digits inside that
interval, and of two such candidates the nearer one (an exact tie goes to the even digit string).
It tries 1, 2, … 17 significant digits; on each grid only the two grid points around the value
can be the nearest member of the interval, so testing those two suffices. All arithmetic is exact
on natural numbers.
-/

namespace Questionnaire.Decimal

/-- A finite nonzero-or-zero binary64 value: `(-1)^neg · m · 2^e`. -/
structure Binary where
  neg : Bool
  m : Nat
  e : Int
deriving Inhabited

/-- The three kinds of binary64 value. -/
inductive FloatKind where
  | finite (b : Binary)
  | infinite (neg : Bool)
  | nan

/-- Splits a double into sign, significand and exponent from its bit pattern. -/
def classify (x : Float) : FloatKind :=
  let bits : Nat := x.toBits.toNat
  let neg := bits / Nat.pow 2 63 % 2 == 1
  let ex : Nat := bits / Nat.pow 2 52 % Nat.pow 2 11
  let frac : Nat := bits % Nat.pow 2 52
  if ex == 2047 then
    if frac == 0 then .infinite neg else .nan
  else if ex == 0 then .finite ⟨neg, frac, -1074⟩
  else .finite ⟨neg, frac + Nat.pow 2 52, (ex : Int) - 1075⟩

/-- `a · 2^i · 10^j` compared with `b · 2^k · 10^l`, all exponents integers: the sign of the
difference as an ordering. -/
def compareScaled (a : Nat) (i j : Int) (b : Nat) (k l : Int) : Ordering :=
  let two := i - k
  let ten := j - l
  let lhs := a * Nat.pow 2 two.toNat * Nat.pow 10 ten.toNat
  let rhs := b * Nat.pow 2 (-two).toNat * Nat.pow 10 (-ten).toNat
  compare lhs rhs

namespace Binary

/-- The rounding interval in units of `2^(e-2)`: its lower end, the value itself and its upper
end. The lower gap is half as wide at the bottom of a binade above the subnormals. -/
def interval (b : Binary) : Nat × Nat × Nat :=
  let lowGap := if b.m == Nat.pow 2 52 && b.e > -1074 then 1 else 2
  (4 * b.m - lowGap, 4 * b.m, 4 * b.m + 2)

/-- Whether `c · 10^t` lies in the rounding interval of `b`. -/
def admits (b : Binary) (c : Nat) (t : Int) : Bool :=
  let (lo, _, hi) := b.interval
  let cmpLo := compareScaled c 0 t lo (b.e - 2) 0
  let cmpHi := compareScaled c 0 t hi (b.e - 2) 0
  let even := b.m % 2 == 0
  let aboveLo := cmpLo == .gt || (even && cmpLo == .eq)
  let belowHi := cmpHi == .lt || (even && cmpHi == .eq)
  aboveLo && belowHi

/-- `⌊m · 2^e / 10^t⌋`. -/
def floorDiv (b : Binary) (t : Int) : Nat :=
  (b.m * Nat.pow 2 b.e.toNat * Nat.pow 10 (-t).toNat) /
    (Nat.pow 2 (-b.e).toNat * Nat.pow 10 t.toNat)

/-- Whether `m · 2^e < 10^k`. -/
def below (b : Binary) (k : Int) : Bool :=
  compareScaled b.m b.e 0 1 0 k == .lt

/-- Number of binary digits of `n`. -/
def bitLength (n : Nat) : Nat :=
  (Nat.toDigits 2 n).length

/-- Moves an estimate `k` of the decimal magnitude up or down until `10^(k-1) ≤ value < 10^k`;
the estimate from the bit length is off by at most one, so a little fuel suffices. -/
def settleMagnitude (b : Binary) : Nat → Int → Int
  | 0, k => k
  | fuel + 1, k =>
    if !b.below k then settleMagnitude b fuel (k + 1)
    else if b.below (k - 1) then settleMagnitude b fuel (k - 1)
    else k

/-- The decimal magnitude of a nonzero value: the `k` with `10^(k-1) ≤ value < 10^k`. -/
def magnitude (b : Binary) : Int :=
  let guess : Int := ((bitLength b.m : Int) + b.e) * 30103 / 100000
  settleMagnitude b 8 guess

/-- The candidate with `n` significant digits, if one of the two grid points around the value is
in the interval; of two, the nearer, and on an exact tie the even one. -/
def candidate (b : Binary) (k : Int) (n : Nat) : Option (Nat × Int) :=
  let t := k - n
  let lo := b.floorDiv t
  let hi := lo + 1
  match b.admits lo t, b.admits hi t with
  | false, false => none
  | true, false => some (lo, t)
  | false, true => some (hi, t)
  | true, true =>
    -- compare the value with the midpoint (2·lo + 1) · 10^t / 2
    match compareScaled b.m (b.e + 1) 0 (2 * lo + 1) 0 t with
    | .lt => some (lo, t)
    | .gt => some (hi, t)
    | .eq => if lo % 2 == 0 then some (lo, t) else some (hi, t)

/-- Drops trailing zero digits of `c · 10^t` without changing its value. -/
def trimZeros : Nat → Nat × Int → Nat × Int
  | 0, p => p
  | fuel + 1, (c, t) => if c != 0 && c % 10 == 0 then trimZeros fuel (c / 10, t + 1) else (c, t)

/-- Tries 1 to `limit` significant digits, in order. -/
def search (b : Binary) (k : Int) : Nat → Nat → Option (Nat × Int)
  | 0, _ => none
  | fuel + 1, n =>
    match b.candidate k n with
    | some p => some p
    | none => search b k fuel (n + 1)

/-- The shortest decimal `c · 10^t` that reads back as the value, with no trailing zero in `c`;
zero gives `(0, 0)`. -/
def shortest (b : Binary) : Nat × Int :=
  if b.m == 0 then (0, 0)
  else
    let k := b.magnitude
    match search b k 17 1 with
    | some p => trimZeros 20 p
    -- seventeen significant digits always suffice
    | none => trimZeros 20 (b.floorDiv (k - 17), k - 17)

end Binary

end Questionnaire.Decimal
