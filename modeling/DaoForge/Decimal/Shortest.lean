import DaoForge.Decimal.Double

/-!
# DaoForge.Decimal.Shortest

The decimal text of a double: the fewest digits that read back as the same double, the nearest of
those to its value, written without an exponent.

A decimal grid of `n` digits has a point that reads back iff one of the two points next to the value
does, so the search tries those two on the grids of 1, 2, … 17 digits. A tie goes upwards.
-/

namespace DaoForge

/-- Decimal digits and a power of ten: `digits * 10 ^ exponent`. -/
structure DecimalDigits where
  digits : Nat
  exponent : Int
  deriving DecidableEq, Repr

namespace Double

/-- The reals that read back as a double, in common units: the value itself and the ends of the
interval, over one denominator, and whether the ends belong to it. -/
structure Rounding where
  low : Nat
  value : Nat
  high : Nat
  denominator : Nat
  closed : Bool
  deriving DecidableEq, Repr

/-- The interval around a finite positive double. Below a power of two the gap is half as wide. -/
def rounding (x : Double) : Rounding :=
  let b := x.parts
  let below := if b.significand = Nat.pow 2 52 ∧ 1 < x.biased then 1 else 2
  let (unit, denominator) := (Binary.mk 1 (b.exponent - 2)).ratio
  { low := (4 * b.significand - below) * unit
    value := 4 * b.significand * unit
    high := (4 * b.significand + 2) * unit
    denominator
    closed := b.significand % 2 == 0 }

/-- `digits * 10 ^ exponent` reads back as the double. -/
def Rounding.admits (r : Rounding) (digits : Nat) (exponent : Int) : Bool :=
  let (num, den) := if 0 ≤ exponent then (digits * Nat.pow 10 exponent.toNat, 1)
    else (digits, Nat.pow 10 (-exponent).toNat)
  let point := num * r.denominator
  if r.closed then r.low * den ≤ point && point ≤ r.high * den
  else r.low * den < point && point < r.high * den

/-- The exponent `e` with `10 ^ e ≤ num / den < 10 ^ (e + 1)`. -/
def decimalExponent (num den : Nat) : Int :=
  let atLeast (e : Int) : Bool :=
    if 0 ≤ e then den * Nat.pow 10 e.toNat ≤ num else den ≤ num * Nat.pow 10 (-e).toNat
  let guess : Int := ((Nat.log2 num : Int) - (Nat.log2 den : Int) - 1) * 1233 / 4096 - 1
  [1, 2, 3].foldl (fun e step => if atLeast (guess + step) then guess + step else e) guess

/-- The point of the grid of `n` digits that reads back and is nearest to the value. -/
def onGrid (r : Rounding) (leading : Int) (n : Nat) : Option DecimalDigits :=
  let exponent := leading - ((n : Int) - 1)
  let (num, den) :=
    if 0 ≤ exponent then (r.value, r.denominator * Nat.pow 10 exponent.toNat)
    else (r.value * Nat.pow 10 (-exponent).toNat, r.denominator)
  let below := num / den
  let twice := 2 * (num % den)
  match r.admits below exponent, r.admits (below + 1) exponent with
  | true, true => some ⟨if twice < den then below else below + 1, exponent⟩
  | true, false => some ⟨below, exponent⟩
  | false, true => some ⟨below + 1, exponent⟩
  | false, false => none

/-- The shortest digits of a finite positive double. -/
def shortest (x : Double) : DecimalDigits :=
  let r := x.rounding
  let leading := decimalExponent r.value r.denominator
  match (List.range 17).findSome? fun n => onGrid r leading (n + 1) with
  | some found => found
  | none => ⟨0, 0⟩

/-- Digits with the point set by the exponent: never an exponent, and no point in a whole number. -/
def positional (d : DecimalDigits) : List Char :=
  let digits := Nat.toDigits 10 d.digits
  if 0 ≤ d.exponent then digits ++ List.replicate d.exponent.toNat '0'
  else
    let places := (-d.exponent).toNat
    if places < digits.length then
      digits.take (digits.length - places) ++ '.' :: digits.drop (digits.length - places)
    else
      ['0', '.'] ++ List.replicate (places - digits.length) '0' ++ digits

/-- Trailing zeros moved from the digits into the exponent, at most `fuel` of them. -/
def stripZeros : Nat → DecimalDigits → DecimalDigits
  | 0, d => d
  | fuel + 1, d =>
    if d.digits % 10 = 0 ∧ d.digits ≠ 0 then stripZeros fuel ⟨d.digits / 10, d.exponent + 1⟩ else d

/-- Text of a double: `1.5`, `100`, `0.0000001`, `-0`, `inf`, `NaN`. -/
def text (x : Double) : String :=
  let magnitude : List Char :=
    if x.isNaN then "NaN".toList
    else if !x.isFinite then "inf".toList
    else if x.parts.significand = 0 then ['0']
    else positional (stripZeros 20 x.shortest)
  String.ofList (if x.isNegative && !x.isNaN then '-' :: magnitude else magnitude)

/-- Text of a double that shows that it is none of the integers: `1.5`, `100.0`. -/
def pointText (x : Double) : String :=
  let shown := x.text
  if x.isFinite && !shown.toList.contains '.' then shown ++ ".0" else shown

end Double

end DaoForge
