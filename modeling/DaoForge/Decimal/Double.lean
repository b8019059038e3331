/-!
# DaoForge.Decimal.Double

Binary floating-point numbers of double width, held as their 64 bits. Every operation is exact
arithmetic on natural numbers followed by one rounding:

* `ofRatio` is the double nearest to a ratio of naturals, a tie going to the even significand;
* `parts` is the inverse view: a finite double is `significand * 2 ^ exponent`;
* `toSingle` rounds to single width and back.
-/

namespace DaoForge

/-- A double, by its bits. -/
structure Double where
  bits : UInt64
  deriving DecidableEq, Repr, Inhabited

/-- Significand and exponent of a binary number, `significand * 2 ^ exponent`. -/
structure Binary where
  significand : Nat
  exponent : Int
  deriving DecidableEq, Repr

namespace Binary

/-- `numerator / denominator` of the number. -/
def ratio (b : Binary) : Nat × Nat :=
  if 0 ≤ b.exponent then (b.significand * Nat.pow 2 b.exponent.toNat, 1)
  else (b.significand, Nat.pow 2 (-b.exponent).toNat)

/-- `num / den` in units of `2 ^ exponent`, as a ratio. -/
def scaled (num den : Nat) (exponent : Int) : Nat × Nat :=
  if 0 ≤ exponent then (num, den * Nat.pow 2 exponent.toNat)
  else (num * Nat.pow 2 (-exponent).toNat, den)

/-- The nearest natural to `num / den`, a tie going to the even one. -/
def roundHalfEven (num den : Nat) : Nat :=
  let quotient := num / den
  let twice := 2 * (num % den)
  if twice < den then quotient
  else if den < twice then quotient + 1
  else if quotient % 2 = 0 then quotient else quotient + 1

/-- The least exponent, not below `least`, at which `num / den` has at most `width` binary digits
before the point. -/
def exponentFor (width : Nat) (least : Int) (num den : Nat) : Int :=
  let guess := (Nat.log2 num : Int) - (Nat.log2 den : Int) - (width - 1)
  let (n, d) := scaled num den guess
  max least (if n / d < Nat.pow 2 (width - 1) then guess - 1 else guess)

/-- `num / den` rounded to `width` binary digits and to no exponent below `least`. -/
def ofRatio (width : Nat) (least : Int) (num den : Nat) : Binary :=
  if num = 0 then ⟨0, least⟩
  else
    let exponent := exponentFor width least num den
    let (n, d) := scaled num den exponent
    ⟨roundHalfEven n d, exponent⟩

end Binary

namespace Double

/-- The sign bit is set. -/
def isNegative (x : Double) : Bool := x.bits >>> 63 == 1

/-- The biased exponent: zero below the normal range, 2047 outside the finite numbers. -/
def biased (x : Double) : Nat := ((x.bits >>> 52) &&& 0x7FF).toNat

/-- The stored digits of the significand. -/
def fraction (x : Double) : Nat := (x.bits &&& 0xFFFFFFFFFFFFF).toNat

def isFinite (x : Double) : Bool := x.biased != 2047

def isNaN (x : Double) : Bool := x.biased == 2047 && x.fraction != 0

/-- Magnitude of a finite double. -/
def parts (x : Double) : Binary :=
  if x.biased = 0 then ⟨x.fraction, -1074⟩ else ⟨Nat.pow 2 52 + x.fraction, (x.biased : Int) - 1075⟩

/-- Bits of a magnitude below `2 ^ 63`, with a sign. -/
def ofMagnitudeBits (negative : Bool) (magnitude : Nat) : Double :=
  ⟨UInt64.ofNat (if negative then Nat.pow 2 63 + magnitude else magnitude)⟩

def infinity (negative : Bool) : Double := ofMagnitudeBits negative (2047 * Nat.pow 2 52)

/-- The quiet number that is none. -/
def notANumber : Double := ⟨0x7FF8000000000000⟩

/-- The double nearest to `num / den`; magnitudes past the range become infinite. -/
def ofRatio (negative : Bool) (num den : Nat) : Double :=
  let rounded := Binary.ofRatio 53 (-1074) num den
  let magnitude := (rounded.exponent + 1074).toNat * Nat.pow 2 52 + rounded.significand
  if 2047 * Nat.pow 2 52 ≤ magnitude then infinity negative else ofMagnitudeBits negative magnitude

/-- The double nearest to an integer. -/
def ofInt (n : Int) : Double := ofRatio (n < 0) n.natAbs 1

/-- The double nearest to `digits * 10 ^ exponent`. Exponents far outside the range are not raised to
a power. -/
def ofDecimal (negative : Bool) (digits : Nat) (exponent : Int) : Double :=
  if digits = 0 then ofRatio negative 0 1
  else if exponent > 400 then infinity negative
  else if exponent < -400 - (Nat.log2 digits : Int) then ofRatio negative 0 1
  else if 0 ≤ exponent then ofRatio negative (digits * Nat.pow 10 exponent.toNat) 1
  else ofRatio negative digits (Nat.pow 10 (-exponent).toNat)

/-- Product of two finite magnitudes, rounded once. -/
def mulMagnitude (x y : Double) : Double :=
  let (a, b) := x.parts.ratio
  let (c, d) := y.parts.ratio
  ofRatio false (a * c) (b * d)

/-- Quotient of two finite magnitudes, rounded once. -/
def divMagnitude (x y : Double) : Double :=
  let (a, b) := x.parts.ratio
  let (c, d) := y.parts.ratio
  ofRatio false (a * d) (b * c)

/-- The number with the other sign. -/
def negate (x : Double) : Double := ⟨x.bits ^^^ 0x8000000000000000⟩

/-- Rounded to single width and widened again. What is no number becomes quiet, and keeps the digits
that fit. -/
def toSingle (x : Double) : Double :=
  if x.isNaN then ⟨(x.bits &&& 0xFFFFFFFFE0000000) ||| 0x0008000000000000⟩
  else if x.isFinite then
    let (num, den) := x.parts.ratio
    let rounded := Binary.ofRatio 24 (-149) num den
    let (n, d) := rounded.ratio
    if d * Nat.pow 2 128 ≤ n then infinity x.isNegative else ofRatio x.isNegative n d
  else
    x

/-- Sixteen hexadecimal digits of the bits. -/
def hex (x : Double) : String :=
  let digits := Nat.toDigits 16 x.bits.toNat
  String.ofList (List.replicate (16 - digits.length) '0' ++ digits)

end Double

end DaoForge
