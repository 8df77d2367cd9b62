import Questionnaire.Decimal.Shortest
/-!
# Writing a binary64 value as text

The digits come from `Binary.shortest`; a `FloatStyle` record holds every decision of the written
form: which decimal exponents are written positionally, whether an integral value keeps a `.0`,
the exponent mark and sign, the least number of exponent digits, and the words for the
non-finite values.
-/

namespace Questionnaire.Decimal

/-- The decisions of a float notation. With `d` digits and the decimal point after position
`p` (the value is `0.d × 10^p`), the value is written positionally when `positionalLo < p` and
`p ≤ positionalHi`. -/
structure FloatStyle where
  positionalLo : Int
  positionalHi : Int
  keepPointZero : Bool
  expMark : String
  expPlus : Bool
  expDigits : Nat
  nanText : String
  infText : String
  negInfText : String

/-- Writes the natural number `n` with at least `width` digits. -/
def padDigits (n width : Nat) : String :=
  let s := toString n
  String.ofList (List.replicate (width - s.length) '0') ++ s

/-- The text of digits `ds` with the point after position `p`, written positionally. -/
def positional (style : FloatStyle) (ds : String) (p : Int) : String :=
  let nd : Int := ds.length
  if p ≤ 0 then
    "0." ++ String.ofList (List.replicate (-p).toNat '0') ++ ds
  else if p < nd then
    String.ofList (ds.toList.take p.toNat) ++ "." ++ String.ofList (ds.toList.drop p.toNat)
  else
    ds ++ String.ofList (List.replicate (p - nd).toNat '0') ++ (if style.keepPointZero then ".0" else "")

/-- The text of digits `ds` with the point after position `p`, written with an exponent. -/
def scientific (style : FloatStyle) (ds : String) (p : Int) : String :=
  let x := p - 1
  let mant := match ds.toList with
    | [] => "0"
    | [d] => String.singleton d
    | d :: rest => String.singleton d ++ "." ++ String.ofList rest
  let sign := if x < 0 then "-" else if style.expPlus then "+" else ""
  mant ++ style.expMark ++ sign ++ padDigits x.natAbs style.expDigits

/-- The text of a finite value in a style. -/
def Binary.render (style : FloatStyle) (b : Binary) : String :=
  let sign := if b.neg then "-" else ""
  let (c, t) := b.shortest
  if c == 0 then
    sign ++ positional style "0" 1
  else
    let ds := toString c
    let p := t + ds.length
    if style.positionalLo < p && p ≤ style.positionalHi then sign ++ positional style ds p
    else sign ++ scientific style ds p

/-- The text of a double in a style. -/
def renderFloat (style : FloatStyle) (x : Float) : String :=
  match classify x with
  | .finite b => b.render style
  | .infinite false => style.infText
  | .infinite true => style.negInfText
  | .nan => style.nanText

end Questionnaire.Decimal
