import ExplicitImports.Json.Basic

/-!
Decimal numerals and binary floating-point numbers: the nearest binary number of a numeral, and the shortest
numeral that leads back to a binary number. Both are computed with exact fractions.
-/
namespace ExplicitImports

structure Decimal where
  digits : Nat
  exponent : Int
  deriving DecidableEq, Repr

/-- A fraction that is not negative; the denominator is positive wherever one is built. -/
structure Fraction where
  num : Nat
  den : Nat
  deriving DecidableEq, Repr

namespace Fraction

def scale (a : Fraction) (base : Nat) : Int → Fraction
  | .ofNat n => ⟨a.num * base.pow n, a.den⟩
  | .negSucc n => ⟨a.num, a.den * base.pow (n + 1)⟩

def floor (a : Fraction) : Nat := a.num / a.den

/-- The nearest natural number; a half goes to the even neighbour. -/
def round (a : Fraction) : Nat :=
  let q := a.num / a.den
  let r := 2 * (a.num % a.den)
  if r < a.den then q
  else if a.den < r then q + 1
  else if q % 2 = 0 then q else q + 1

def lt (a b : Fraction) : Bool := a.num * b.den < b.num * a.den

def le (a b : Fraction) : Bool := a.num * b.den ≤ b.num * a.den

def dist (a b : Fraction) : Fraction :=
  let x := a.num * b.den
  let y := b.num * a.den
  ⟨(x - y) + (y - x), a.den * b.den⟩

end Fraction

namespace Binary

def maxExponent : Int := 971
def minExponent : Int := -1074

def hiddenBit : Nat := 1 <<< 52

def ofFraction? (negative : Bool) (a : Fraction) : Option Binary :=
  if a.num = 0 then some ⟨negative, 0, minExponent⟩
  else
    let guess : Int := (a.num.log2 : Int) - (a.den.log2 : Int) - 52
    let step := if (a.scale 2 (-guess)).floor < hiddenBit then guess - 1 else guess
    let exponent := max step minExponent
    let mantissa := (a.scale 2 (-exponent)).round
    let (mantissa, exponent) :=
      if mantissa = 2 * hiddenBit then (hiddenBit, exponent + 1) else (mantissa, exponent)
    if maxExponent < exponent then none else some ⟨negative, mantissa, exponent⟩

/-- The nearest number to a numeral. Numerals far beyond the range on either side are settled without computing
their powers of ten. -/
def ofDecimal? (negative : Bool) (d : Decimal) : Option Binary :=
  let height : Int := (Text.ofNat d.digits).length + d.exponent
  if d.digits = 0 ∨ height < -400 then some ⟨negative, 0, minExponent⟩
  else if 400 < height then none
  else ofFraction? negative ((⟨d.digits, 1⟩ : Fraction).scale 10 d.exponent)

def magnitude (b : Binary) : Fraction := (⟨b.mantissa, 1⟩ : Fraction).scale 2 b.exponent

/-- Whether a fraction rounds to the number: it lies between the middles to both neighbours, and a middle itself
counts for an even mantissa. -/
def attracts (b : Binary) (a : Fraction) : Bool :=
  let lowStep : Nat := if b.mantissa = hiddenBit ∧ minExponent < b.exponent then 1 else 2
  let low := (⟨4 * b.mantissa - lowStep, 4⟩ : Fraction).scale 2 b.exponent
  let high := (⟨4 * b.mantissa + 2, 4⟩ : Fraction).scale 2 b.exponent
  if b.mantissa % 2 = 0 then low.le a && a.le high else low.lt a && a.lt high

def onGrid? (b : Binary) (place : Int) : Option Decimal :=
  let v := b.magnitude
  let below := (v.scale 10 (-place)).floor
  let at_ (n : Nat) : Fraction := (⟨n, 1⟩ : Fraction).scale 10 place
  match b.attracts (at_ below), b.attracts (at_ (below + 1)) with
  | true, true =>
    if (v.dist (at_ (below + 1))).lt (v.dist (at_ below)) then some ⟨below + 1, place⟩
    else some ⟨below, place⟩
  | true, false => some ⟨below, place⟩
  | false, true => some ⟨below + 1, place⟩
  | false, false => none

def shortestFrom (b : Binary) : Nat → Int → Decimal
  | 0, _ => ⟨b.mantissa, 0⟩
  | n + 1, place =>
    match b.onGrid? place with
    | some d => d
    | none => shortestFrom b n (place - 1)

/-- The numeral with the fewest digits that leads back to the number. The first grid is coarser than the number
itself, and seventeen digits always suffice. -/
def shortest (b : Binary) : Decimal :=
  if b.mantissa = 0 then ⟨0, 0⟩
  else
    let bits : Int := (b.mantissa.log2 : Int) + b.exponent
    shortestFrom b 22 (bits * 30103 / 100000 + 1)

def positional (b : Binary) : Text :=
  let d := b.shortest
  let digits := Text.ofNat d.digits
  let whole := match d.exponent with
    | .ofNat n => digits ++ List.replicate n '0' ++ ['.', '0']
    | .negSucc n =>
      let places := n + 1
      let padded := List.replicate (places + 1 - digits.length) '0' ++ digits
      padded.take (padded.length - places) ++ '.' :: padded.drop (padded.length - places)
  if b.negative then '-' :: whole else whole

end Binary

end ExplicitImports
