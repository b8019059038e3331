import DaoForge.Text.CharClass.Letters
import DaoForge.Text.CharClass.Identifier
import DaoForge.Text.CharClass.Case
import DaoForge.Text.CharClass.Printable

/-!
# DaoForge.Text.CharClass

Properties of characters. Each one decides ASCII by its own short rule and looks every other
character up in a table of Unicode 17, so that reading plain names never touches a table.

* `isBlank`: the white space that trimming removes and that a query scanner skips;
* `isAlphabetic`, `isAlphanumeric`: what a member name may consist of, and what word splitting keeps;
* `isUpper`, `isLower`, `toLower`: case, for word splitting;
* `isIdentifierStart`, `isIdentifierContinue`: what an identifier in a type path may consist of;
* `isShownAsIs`: what a string literal writes without an escape.
-/

namespace DaoForge.CharClass

/-- White space: the 25 characters with the property White_Space. -/
def isBlank (c : Char) : Bool :=
  let n := c.toNat
  (9 ≤ n && n ≤ 13) || n == 32 || n == 0x85 || n == 0xA0 || n == 0x1680 ||
    (0x2000 ≤ n && n ≤ 0x200A) || n == 0x2028 || n == 0x2029 || n == 0x202F || n == 0x205F ||
    n == 0x3000

/-- A decimal digit of ASCII. -/
def isAsciiDigit (c : Char) : Bool := '0' ≤ c && c ≤ '9'

/-- Value of a hexadecimal digit. -/
def hexDigitValue? (c : Char) : Option Nat :=
  if isAsciiDigit c then some (c.toNat - 48)
  else if 'a' ≤ c && c ≤ 'f' then some (c.toNat - 87)
  else if 'A' ≤ c && c ≤ 'F' then some (c.toNat - 55)
  else none

/-- A letter of ASCII. -/
def isAsciiLetter (c : Char) : Bool := ('a' ≤ c && c ≤ 'z') || ('A' ≤ c && c ≤ 'Z')

/-- The ASCII characters that may open a name: letters and the underscore. -/
def isNameStart (c : Char) : Bool := isAsciiLetter c || c == '_'

/-- The ASCII characters that may continue a name: letters, digits and the underscore. -/
def isNameContinue (c : Char) : Bool := isAsciiLetter c || isAsciiDigit c || c == '_'

theorem isNameContinue_of_isNameStart {c : Char} (h : isNameStart c = true) :
    isNameContinue c = true := by
  simp only [isNameStart, isNameContinue, Bool.or_eq_true] at *
  rcases h with h | h <;> simp [h]

/-- A letter of any script. -/
def isAlphabetic (c : Char) : Bool :=
  if c.toNat < 128 then isAsciiLetter c else alphabeticRanges.contains c.toNat

/-- A letter or a numeral of any script. -/
def isAlphanumeric (c : Char) : Bool :=
  if c.toNat < 128 then isAsciiLetter c || isAsciiDigit c
  else alphabeticRanges.contains c.toNat || numericRanges.contains c.toNat

/-- An upper-case character. -/
def isUpper (c : Char) : Bool :=
  if c.toNat < 128 then 'A' ≤ c && c ≤ 'Z' else uppercaseRanges.contains c.toNat

/-- A lower-case character. -/
def isLower (c : Char) : Bool :=
  if c.toNat < 128 then 'a' ≤ c && c ≤ 'z' else lowercaseRanges.contains c.toNat

/-- The code point a run of `lowerRuns` sends `code` to, if the run covers it. -/
private def lowerByRun (code : Nat) : Nat × Nat × Nat × Bool × Nat → Option Nat
  | (first, last, step, up, amount) =>
    if first ≤ code && code ≤ last && (code - first) % step == 0 then
      some (if up then code + amount else code - amount)
    else
      none

/-- Lower case of one character. Only the dotted capital I becomes two characters. -/
def toLower (c : Char) : List Char :=
  if c.toNat < 128 then
    [if 'A' ≤ c && c ≤ 'Z' then Char.ofNat (c.toNat + 32) else c]
  else if c.toNat == 0x130 then
    ['i', Char.ofNat 0x307]
  else
    match lowerRuns.findSome? (lowerByRun c.toNat) with
    | some code => [Char.ofNat code]
    | none => [c]

/-- May open an identifier: a letter, or the underscore. -/
def isIdentifierStart (c : Char) : Bool :=
  if c.toNat < 128 then isNameStart c else identifierStartRanges.contains c.toNat

/-- May continue an identifier. -/
def isIdentifierContinue (c : Char) : Bool :=
  if c.toNat < 128 then isNameContinue c else identifierContinueRanges.contains c.toNat

/-- Has a form of its own, so that a literal can show it without an escape. -/
def isShownAsIs (c : Char) : Bool :=
  if c.toNat < 128 then 32 ≤ c.toNat && c.toNat < 127
  else !extenderRanges.contains c.toNat && !unprintableRanges.contains c.toNat

end DaoForge.CharClass
