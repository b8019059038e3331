import DaoForge.Decimal.Double
import DaoForge.Text.CharClass

/-!
# DaoForge.Yaml.Plain

What a plain scalar stands for where anything may stand: null, a boolean, an integer or a float if it
is written like one, and a text otherwise.

1. Integers are decimal without leading zeros, or hexadecimal, octal or binary behind a mark. They have
   up to 128 bits; longer ones are floats.
2. A zero that only digits follow is a text.
3. A float must be finite, unless it is one of the words for what is not.
-/

namespace DaoForge.Yaml

/-- The value of a plain scalar. -/
inductive PlainValue where
  | null
  | bool (value : Bool)
  /-- Zero with a minus counts as negative. -/
  | integer (value : Int) (isNegative : Bool)
  | float (value : Double)
  | text
  deriving DecidableEq, Repr

/-- The text after a sign, and whether the sign is a minus. -/
def splitSign : List Char → Bool × List Char
  | '-' :: rest => (true, rest)
  | '+' :: rest => (false, rest)
  | cs => (false, cs)

/-- The value of a digit of base 16 or less. -/
def digitOf (c : Char) : Option Nat :=
  if '0' ≤ c ∧ c ≤ '9' then some (c.toNat - 48)
  else if 'a' ≤ c ∧ c ≤ 'f' then some (c.toNat - 87)
  else if 'A' ≤ c ∧ c ≤ 'F' then some (c.toNat - 55)
  else none

/-- The number that digits of a base write. -/
def readDigits (base : Nat) (cs : List Char) : Option Nat :=
  if cs.isEmpty then none
  else
    cs.foldlM (fun value c => do
      let digit ← digitOf c
      if digit < base then some (base * value + digit) else none) 0

/-- The magnitude of an integer: decimal without leading zeros, or with a mark for base 16, 8 or 2. -/
def readMagnitude : List Char → Option Nat
  | '0' :: 'x' :: rest => readDigits 16 rest
  | '0' :: 'o' :: rest => readDigits 8 rest
  | '0' :: 'b' :: rest => readDigits 2 rest
  | ['0'] => some 0
  | '0' :: _ => none
  | cs => readDigits 10 cs

/-- An integer of at most 128 bits, and whether it has a minus. -/
def readInteger (cs : List Char) : Option (Int × Bool) := do
  let (isNegative, digits) := splitSign cs
  let magnitude ← readMagnitude digits
  if isNegative then if magnitude ≤ Nat.pow 2 127 then some (-magnitude, true) else none
  else if magnitude < Nat.pow 2 128 then some (magnitude, false)
  else none

/-- A zero that only digits follow. -/
def isPadded (cs : List Char) : Bool :=
  match (splitSign cs).2 with
  | '0' :: rest => !rest.isEmpty && rest.all CharClass.isAsciiDigit
  | _ => false

/-- The value of digits after an exponent mark. -/
def readExponent (cs : List Char) : Option Int :=
  let (isNegative, digits) := splitSign cs
  (readDigits 10 digits).map fun n => if isNegative then -(n : Int) else n

/-- A decimal fraction with an optional exponent. At least one digit stands before or after the
point. -/
def readDecimal (isNegative : Bool) (cs : List Char) : Option Double := do
  let whole := cs.takeWhile CharClass.isAsciiDigit
  let rest := cs.dropWhile CharClass.isAsciiDigit
  let (fraction, rest) :=
    match rest with
    | '.' :: rest => (rest.takeWhile CharClass.isAsciiDigit, rest.dropWhile CharClass.isAsciiDigit)
    | _ => ([], rest)
  let digits ← readDigits 10 (whole ++ fraction)
  let exponent ←
    match rest with
    | [] => some 0
    | 'e' :: rest | 'E' :: rest => readExponent rest
    | _ => none
  let x := Double.ofDecimal isNegative digits (exponent - fraction.length)
  if x.isFinite then some x else none

/-- A float: a decimal, or one of the words for what is not finite. -/
def readFloat (text : String) : Option Double :=
  if [".inf", ".Inf", ".INF", "+.inf", "+.Inf", "+.INF"].contains text then
    some (.infinity false)
  else if ["-.inf", "-.Inf", "-.INF"].contains text then some (.infinity true)
  else if [".nan", ".NaN", ".NAN"].contains text then some .notANumber
  else if isPadded text.toList then none
  else
    let (isNegative, magnitude) := splitSign text.toList
    readDecimal isNegative magnitude

/-- The boolean that a word stands for. -/
def readBool (text : String) : Option Bool :=
  if ["true", "True", "TRUE"].contains text then some true
  else if ["false", "False", "FALSE"].contains text then some false
  else none

def isNull (text : String) : Bool := ["", "~", "null", "Null", "NULL"].contains text

/-- The value of a plain scalar. -/
def PlainValue.ofText (text : String) : PlainValue :=
  if isNull text then .null
  else
    match readBool text, readInteger text.toList, readFloat text with
    | some value, _, _ => .bool value
    | none, some (value, isNegative), _ => .integer value isNegative
    | none, none, some value => .float value
    | none, none, none => .text

end DaoForge.Yaml
