import DaoForge.Text.CharClass
import DaoForge.Tree.Basic

/-!
# DaoForge.Tree.JsonReader

Reading JSON. The grammar is strict: no comments, no trailing commas, no leading zeros, no bare
control characters, no lone surrogates, and at most 127 lists and records inside one another.

1. A number without point and exponent is an integer if it fits 64 bits, unsigned or signed;
   `-0` and every other number is a double.
2. A double is its first 64 bits' worth of digits, taken as a double and multiplied or divided once by
   a power of ten (twice or more only far below the range), so the last bit can differ from the
   nearest double.
3. A fault is reported at the line and byte column of the last byte looked at. Of a character that
   does not belong somewhere only the first byte is looked at, and of an escape by number the next
   four bytes are.
4. Who wants only some fields of a record says so by a `JsonUse`. Of a value that is not wanted only
   the form is checked: its numbers may be of any size, its escapes may be halves of a surrogate pair,
   and it may be of any depth.
-/

namespace DaoForge

/-- What is wrong with a JSON text. -/
inductive JsonFault where
  | endInValue
  | endInList
  | endInRecord
  | endInString
  | expectedColon
  | expectedListCommaOrEnd
  | expectedRecordCommaOrEnd
  | expectedIdent
  | expectedValue
  | invalidEscape
  | invalidNumber
  | numberOutOfRange
  | controlCharacter
  | keyMustBeString
  | loneSurrogate
  | trailingComma
  | trailingCharacters
  | unexpectedEndOfHexEscape
  | tooDeep
  deriving DecidableEq, Repr

/-- Wording of a fault. -/
def JsonFault.message : JsonFault → String
  | .endInValue => "EOF while parsing a value"
  | .endInList => "EOF while parsing a list"
  | .endInRecord => "EOF while parsing an object"
  | .endInString => "EOF while parsing a string"
  | .expectedColon => "expected \x60:\x60"
  | .expectedListCommaOrEnd => "expected \x60,\x60 or \x60]\x60"
  | .expectedRecordCommaOrEnd => "expected \x60,\x60 or \x60\x7d\x60"
  | .expectedIdent => "expected ident"
  | .expectedValue => "expected value"
  | .invalidEscape => "invalid escape"
  | .invalidNumber => "invalid number"
  | .numberOutOfRange => "number out of range"
  | .controlCharacter =>
    "control character (\\u0000-\\u001F) found while parsing a string"
  | .keyMustBeString => "key must be a string"
  | .loneSurrogate => "lone leading surrogate in hex escape"
  | .trailingComma => "trailing comma"
  | .trailingCharacters => "trailing characters"
  | .unexpectedEndOfHexEscape => "unexpected end of hex escape"
  | .tooDeep => "recursion limit exceeded"

/-- A fault and the number of bytes behind the last one looked at. -/
structure JsonFailure where
  fault : JsonFault
  unread : Nat
  deriving DecidableEq, Repr

/-- What a value is wanted for. -/
inductive JsonUse where
  /-- All of it. -/
  | whole
  /-- A record of which only these fields are wanted, or the list of them. -/
  | record (fields : List (String × JsonUse))
  /-- A record with any field names. -/
  | entries (value : JsonUse)
  /-- Nothing. -/
  | skipped

/-- The use of a record's field. -/
def JsonUse.field (use : JsonUse) (name : String) : JsonUse :=
  match use with
  | .whole => .whole
  | .record fields => (fields.lookup name).getD .skipped
  | .entries value => value
  | .skipped => .skipped

/-- The use of a list's item. -/
def JsonUse.item (use : JsonUse) (index : Nat) : JsonUse :=
  match use with
  | .record fields => (fields[index]?.map (·.2)).getD .whole
  | .skipped => .skipped
  | _ => .whole

def JsonUse.isSkipped : JsonUse → Bool
  | .skipped => true
  | _ => false

namespace JsonReader

/-- A value read from the front of a text, and the rest of the text. -/
abbrev Step (α : Type) := Except JsonFailure (α × List Char)

/-- The number of bytes of a text. -/
def byteCount (cs : List Char) : Nat := cs.foldl (fun count c => count + c.utf8Size) 0

/-- Refuses at the next character, whose first byte has been looked at. -/
def refuseNext {α : Type} (fault : JsonFault) (cs : List Char) : Except JsonFailure α :=
  .error ⟨fault, byteCount cs - 1⟩

/-- Refuses at the last character that was taken. -/
def refuse {α : Type} (fault : JsonFault) (cs : List Char) : Except JsonFailure α :=
  .error ⟨fault, byteCount cs⟩

/-- White space between tokens. -/
def isSpace (c : Char) : Bool := c == ' ' || c == '\n' || c == '\t' || c == '\r'

def skipSpace (cs : List Char) : List Char := cs.dropWhile isSpace

/-- Value of a decimal digit. -/
def digitValue (c : Char) : Nat := c.toNat - 48

/-- Largest significand that is collected digit by digit. -/
def maxSignificand : Nat := Nat.pow 2 64 - 1

/-- A power of ten as a double. -/
def powerOfTen (n : Nat) : Double := Double.ofRatio false (Nat.pow 10 n) 1

/-- `f * 10 ^ exponent`: one multiplication or division inside the table of powers up to `10 ^ 308`;
below it, divisions by `10 ^ 308` first. `fuel` bounds their number. -/
def scale : Nat → Double → Int → Option Double
  | 0, f, _ => some f
  | fuel + 1, f, exponent =>
    if exponent.natAbs ≤ 308 then
      if 0 ≤ exponent then
        let product := f.mulMagnitude (powerOfTen exponent.toNat)
        if product.isFinite then some product else none
      else some (f.divMagnitude (powerOfTen exponent.natAbs))
    else if f.parts.significand = 0 then some f
    else if 0 ≤ exponent then none
    else scale fuel (f.divMagnitude (powerOfTen 308)) (exponent + 308)

/-- The double for collected digits and an exponent. -/
def finishFloat (positive : Bool) (significand : Nat) (exponent : Int) (cs : List Char) :
    Step Tree :=
  match scale 8 (Double.ofRatio false significand 1) exponent with
  | some f => .ok (.float (if positive then f else f.negate), cs)
  | none => refuseNext .numberOutOfRange cs

/-- Digits of an exponent after the first; `none` at the digit with which the exponent passes 32
bits. -/
def exponentDigits (value : Nat) : List Char → Option Nat × List Char
  | [] => (some value, [])
  | c :: rest =>
    if CharClass.isAsciiDigit c then
      let next := value * 10 + digitValue c
      if Nat.pow 2 31 ≤ next then (none, rest) else exponentDigits next rest
    else (some value, c :: rest)

/-- What follows `e` or `E`. -/
def readExponent (positive : Bool) (significand : Nat) (start : Int) (cs : List Char) :
    Step Tree :=
  let (raises, cs) :=
    match cs with
    | '+' :: rest => (true, rest)
    | '-' :: rest => (false, rest)
    | _ => (true, cs)
  match cs with
  | [] => refuse .endInValue []
  | c :: rest =>
    if CharClass.isAsciiDigit c then
      match exponentDigits (digitValue c) rest with
      | (some value, rest) =>
        finishFloat positive significand (if raises then start + value else start - value) rest
      | (none, rest) =>
        if significand ≠ 0 ∧ raises then refuse .numberOutOfRange rest
        else
          .ok (.float (Double.ofRatio (!positive) 0 1), rest.dropWhile CharClass.isAsciiDigit)
    else refuseNext .invalidNumber (c :: rest)

/-- An exponent if one follows, else the end of the number. -/
def readExponentOrEnd (positive : Bool) (significand : Nat) (exponent : Int) (cs : List Char) :
    Step Tree :=
  match cs with
  | 'e' :: rest | 'E' :: rest => readExponent positive significand exponent rest
  | _ => finishFloat positive significand exponent cs

/-- Digits after the point: the significand, how many were taken, and the rest. Digits past the
largest significand are dropped. -/
def fractionDigits (significand taken : Nat) : List Char → Nat × Nat × List Char
  | [] => (significand, taken, [])
  | c :: rest =>
    if CharClass.isAsciiDigit c then
      let next := significand * 10 + digitValue c
      if maxSignificand < next then (significand, taken, rest.dropWhile CharClass.isAsciiDigit)
      else fractionDigits next (taken + 1) rest
    else (significand, taken, c :: rest)

/-- What follows the point. -/
def readFraction (positive : Bool) (significand : Nat) (exponent : Int) (cs : List Char) :
    Step Tree :=
  match cs with
  | [] => refuse .endInValue []
  | c :: _ =>
    if CharClass.isAsciiDigit c then
      let (significand, taken, rest) := fractionDigits significand 0 cs
      readExponentOrEnd positive significand (exponent - taken) rest
    else refuseNext .invalidNumber cs

/-- Digits of a whole number: the significand, the number of digits dropped past the largest one, and
the rest. -/
def wholeDigits (significand : Nat) : List Char → Nat × Nat × List Char
  | [] => (significand, 0, [])
  | c :: rest =>
    if CharClass.isAsciiDigit c then
      let next := significand * 10 + digitValue c
      if maxSignificand < next then
        (significand, 1 + (rest.takeWhile CharClass.isAsciiDigit).length,
          rest.dropWhile CharClass.isAsciiDigit)
      else wholeDigits next rest
    else (significand, 0, c :: rest)

/-- An integer without point and exponent: `-0` and what 64 bits cannot hold are doubles. -/
def wholeNumber (positive : Bool) (significand : Nat) : Tree :=
  if positive then .int significand
  else if significand = 0 ∨ Nat.pow 2 63 < significand then
    .float (Double.ofRatio true significand 1)
  else .int (-(significand : Int))

/-- A number, after its sign. -/
def readNumber (positive : Bool) (cs : List Char) : Step Tree :=
  match cs with
  | [] => refuse .endInValue []
  | c :: rest =>
    if !CharClass.isAsciiDigit c then refuseNext .invalidNumber (c :: rest)
    else
      let (significand, dropped, rest) :=
        if c = '0' then (0, 0, rest) else wholeDigits (digitValue c) rest
      match rest with
      | '.' :: tail => readFraction positive significand dropped tail
      | 'e' :: tail | 'E' :: tail => readExponent positive significand dropped tail
      | d :: _ =>
        if c = '0' ∧ CharClass.isAsciiDigit d then refuseNext .invalidNumber rest
        else if dropped = 0 then .ok (wholeNumber positive significand, rest)
        else finishFloat positive significand dropped rest
      | [] =>
        if dropped = 0 then .ok (wholeNumber positive significand, rest)
        else finishFloat positive significand dropped rest

/-- Skips the exponent of a number, if there is one. -/
def skipExponent : List Char → Except JsonFailure (List Char)
  | 'e' :: rest | 'E' :: rest =>
    let digits :=
      match rest with
      | '+' :: digits | '-' :: digits => digits
      | _ => rest
    if digits.head?.any CharClass.isAsciiDigit then .ok (digits.dropWhile CharClass.isAsciiDigit)
    else refuseNext .invalidNumber digits
  | cs => .ok cs

/-- Skips a number, after its sign. -/
def skipNumber (cs : List Char) : Except JsonFailure (List Char) :=
  if !cs.head?.any CharClass.isAsciiDigit then refuseNext .invalidNumber cs
  else
    let rest := cs.dropWhile CharClass.isAsciiDigit
    if cs.head? == some '0' && rest.length + 1 < cs.length then
      refuseNext .invalidNumber (cs.drop 1)
    else
      match rest with
      | '.' :: digits =>
        if digits.head?.any CharClass.isAsciiDigit then
          skipExponent (digits.dropWhile CharClass.isAsciiDigit)
        else refuseNext .invalidNumber digits
      | _ => skipExponent rest

/-- A number, after its sign. -/
def takeNumber (use : JsonUse) (positive : Bool) (cs : List Char) : Step Tree :=
  if use.isSkipped then (skipNumber cs).map fun rest => (.null, rest) else readNumber positive cs

/-- Four hexadecimal digits; four bytes are looked at. -/
def readHex (cs : List Char) : Step Nat :=
  let refused : Step Nat :=
    if byteCount cs < 4 then refuse .endInString [] else .error ⟨.invalidEscape, byteCount cs - 4⟩
  match cs with
  | a :: b :: c :: d :: rest =>
    match CharClass.hexDigitValue? a, CharClass.hexDigitValue? b, CharClass.hexDigitValue? c,
        CharClass.hexDigitValue? d with
    | some a, some b, some c, some d => .ok (((a * 16 + b) * 16 + c) * 16 + d, rest)
    | _, _, _, _ => refused
  | _ => refused

/-- The second half of a surrogate pair, after its `u`. -/
def readLowSurrogate (high : Nat) (cs : List Char) : Step Char :=
  match readHex cs with
  | .error failure => .error failure
  | .ok (low, rest) =>
    if 0xDC00 ≤ low ∧ low ≤ 0xDFFF then
      .ok (Char.ofNat (0x10000 + (high - 0xD800) * 0x400 + (low - 0xDC00)), rest)
    else refuse .loneSurrogate rest

/-- The character of an escape, after the `u`. -/
def readUnicodeEscape (cs : List Char) : Step Char :=
  match readHex cs with
  | .error failure => .error failure
  | .ok (code, rest) =>
    if 0xDC00 ≤ code ∧ code ≤ 0xDFFF then refuse .loneSurrogate rest
    else if 0xD800 ≤ code ∧ code ≤ 0xDBFF then
      match rest with
      | [] => refuse .endInString []
      | ['\\'] => refuse .endInString []
      | '\\' :: 'u' :: tail => readLowSurrogate code tail
      | '\\' :: next => refuseNext .unexpectedEndOfHexEscape next
      | next => refuseNext .unexpectedEndOfHexEscape next
    else .ok (Char.ofNat code, rest)

/-- The character of an escape, after the backslash. -/
def readEscape (cs : List Char) : Step Char :=
  match cs with
  | [] => refuse .endInString []
  | 'u' :: rest => readUnicodeEscape rest
  | '"' :: rest => .ok ('"', rest)
  | '\\' :: rest => .ok ('\\', rest)
  | '/' :: rest => .ok ('/', rest)
  | 'b' :: rest => .ok (Char.ofNat 8, rest)
  | 'f' :: rest => .ok (Char.ofNat 12, rest)
  | 'n' :: rest => .ok ('\n', rest)
  | 'r' :: rest => .ok ('\r', rest)
  | 't' :: rest => .ok ('\t', rest)
  | _ => refuseNext .invalidEscape cs

/-- Skips an escape, after the backslash. -/
def skipEscape : List Char → Except JsonFailure (List Char)
  | 'u' :: rest => (readHex rest).map (·.2)
  | cs => (readEscape cs).map (·.2)

/-- A string, after its opening quote; `taken` holds its characters so far, reversed. -/
def readString : Nat → List Char → List Char → Step String
  | 0, _, cs => refuse .endInString cs
  | fuel + 1, taken, cs =>
    match cs with
    | [] => refuse .endInString []
    | '"' :: rest => .ok (String.ofList taken.reverse, rest)
    | '\\' :: rest =>
      match readEscape rest with
      | .ok (c, rest) => readString fuel (c :: taken) rest
      | .error failure => .error failure
    | c :: rest =>
      if c.toNat < 32 then refuse .controlCharacter rest else readString fuel (c :: taken) rest

/-- Skips a string, after its opening quote. -/
def skipString : Nat → List Char → Except JsonFailure (List Char)
  | 0, cs => refuse .endInString cs
  | fuel + 1, cs =>
    match cs with
    | [] => refuse .endInString []
    | '"' :: rest => .ok rest
    | '\\' :: rest => (skipEscape rest).bind (skipString fuel)
    | c :: rest => if c.toNat < 32 then refuse .controlCharacter rest else skipString fuel rest

/-- A string, after its opening quote. -/
def takeString (use : JsonUse) (cs : List Char) : Step String :=
  if use.isSkipped then (skipString (cs.length + 1) cs).map fun rest => ("", rest)
  else readString (cs.length + 1) [] cs

/-- A literal name, after its first character. -/
def readIdent (expected : List Char) (value : Tree) (cs : List Char) : Step Tree :=
  match expected, cs with
  | [], _ => .ok (value, cs)
  | _ :: _, [] => refuse .endInValue []
  | e :: expected, c :: rest =>
    if c = e then readIdent expected value rest else refuseNext .expectedIdent (c :: rest)

/-- What is left of a depth inside of one more list or record. A value that is skipped may have any
depth. -/
def JsonUse.inner (use : JsonUse) (depth : Nat) : Option Nat :=
  if use.isSkipped then some depth
  else
    match depth with
    | 0 => none
    | depth + 1 => some depth

mutual

/-- A value, at most `depth` lists and records deep. `fuel` bounds the characters left. -/
def readValue (use : JsonUse) (fuel depth : Nat) (cs : List Char) : Step Tree :=
  match fuel with
  | 0 => refuse .endInValue []
  | fuel + 1 =>
    match skipSpace cs with
    | [] => refuse .endInValue []
    | 'n' :: rest => readIdent ['u', 'l', 'l'] .null rest
    | 't' :: rest => readIdent ['r', 'u', 'e'] (.bool true) rest
    | 'f' :: rest => readIdent ['a', 'l', 's', 'e'] (.bool false) rest
    | '-' :: rest => takeNumber use false rest
    | '"' :: rest =>
      match takeString use rest with
      | .ok (text, rest) => .ok (.text text, rest)
      | .error failure => .error failure
    | '[' :: rest =>
      match JsonUse.inner use depth with
      | none => refuse .tooDeep rest
      | some depth =>
        match readItems use fuel depth [] rest with
        | .ok (items, rest) => .ok (.list items, rest)
        | .error failure => .error failure
    | '\x7b' :: rest =>
      match JsonUse.inner use depth with
      | none => refuse .tooDeep rest
      | some depth =>
        match readFields use fuel depth true [] rest with
        | .ok (entries, rest) => .ok (.mapping entries, rest)
        | .error failure => .error failure
    | c :: rest =>
      if CharClass.isAsciiDigit c then takeNumber use true (c :: rest)
      else refuseNext .expectedValue (c :: rest)

/-- The items of a list, up to its closing bracket; `taken` holds them so far, reversed. -/
def readItems (use : JsonUse) (fuel depth : Nat) (taken : List Tree) (cs : List Char) :
    Step (List Tree) :=
  match fuel with
  | 0 => refuse .endInList []
  | fuel + 1 =>
    let use' := use.item taken.length
    match skipSpace cs with
    | [] => refuse .endInList []
    | ']' :: rest => .ok (taken.reverse, rest)
    | c :: rest =>
      if taken.isEmpty then
        match readValue use' fuel depth (c :: rest) with
        | .ok (item, rest) => readItems use fuel depth (item :: taken) rest
        | .error failure => .error failure
      else if c = ',' then
        match skipSpace rest with
        | [] => refuse .endInValue []
        | ']' :: rest => refuse .trailingComma rest
        | next =>
          match readValue use' fuel depth next with
          | .ok (item, rest) => readItems use fuel depth (item :: taken) rest
          | .error failure => .error failure
      else refuseNext .expectedListCommaOrEnd (c :: rest)

/-- The fields of a record, up to its closing brace; `taken` holds them so far, reversed. -/
def readFields (use : JsonUse) (fuel depth : Nat) (first : Bool) (taken : List (Key × Tree))
    (cs : List Char) : Step (List (Key × Tree)) :=
  match fuel with
  | 0 => refuse .endInRecord []
  | fuel + 1 =>
    match skipSpace cs with
    | [] => refuse .endInRecord []
    | '\x7d' :: rest => .ok (taken.reverse, rest)
    | c :: rest =>
      if first then
        if c = '"' then readField use fuel depth taken rest
        else refuseNext .keyMustBeString (c :: rest)
      else if c = ',' then
        match skipSpace rest with
        | [] => refuse .endInValue []
        | '"' :: rest => readField use fuel depth taken rest
        | '\x7d' :: rest => refuse .trailingComma rest
        | next => refuseNext .keyMustBeString next
      else refuseNext .expectedRecordCommaOrEnd (c :: rest)

/-- A field after the opening quote of its name, and the fields after it. -/
def readField (use : JsonUse) (fuel depth : Nat) (taken : List (Key × Tree)) (cs : List Char) :
    Step (List (Key × Tree)) :=
  match fuel with
  | 0 => refuse .endInRecord []
  | fuel + 1 =>
    match takeString use cs with
    | .error failure => .error failure
    | .ok (name, rest) =>
      match skipSpace rest with
      | [] => refuse .endInRecord []
      | ':' :: rest =>
        match readValue (use.field name) fuel depth rest with
        | .ok (value, rest) => readFields use fuel depth false ((.name name, value) :: taken) rest
        | .error failure => .error failure
      | next => refuseNext .expectedColon next

end

/-- The value at the front of a text. -/
def readFront (use : JsonUse) (cs : List Char) : Step Tree := readValue use (3 * cs.length + 3) 127 cs

/-- Only white space may stand behind the value. -/
def checkEnd (rest : List Char) : Except JsonFailure Unit :=
  match skipSpace rest with
  | [] => .ok ()
  | next => refuseNext .trailingCharacters next

/-- Line and column of a failure: lines count from one, columns count the bytes looked at. -/
def position (text : String) (failure : JsonFailure) : Nat × Nat :=
  let bytes := text.toUTF8.toList
  let seen := bytes.take (bytes.length - failure.unread)
  (1 + seen.countP (· == 10), (seen.reverse.takeWhile (· != 10)).length)

end JsonReader

/-- A JSON text that cannot be read: what is wrong, and where. -/
structure JsonError where
  fault : JsonFault
  line : Nat
  column : Nat
  deriving DecidableEq, Repr

/-- Wording of the error: `trailing comma at line 1 column 9`. -/
def JsonError.message (error : JsonError) : String :=
  error.fault.message ++ s!" at line {error.line} column {error.column}"

/-- The failure in its text. -/
def JsonError.ofFailure (text : String) (failure : JsonFailure) : JsonError :=
  let (line, column) := JsonReader.position text failure
  ⟨failure.fault, line, column⟩

/-- The value that a JSON text begins with, and what is wrong behind it. -/
def Tree.ofJsonFront (use : JsonUse) (text : String) :
    Except JsonError (Tree × Except JsonError Unit) :=
  match JsonReader.readFront use text.toList with
  | .ok (tree, rest) => .ok (tree, (JsonReader.checkEnd rest).mapError (JsonError.ofFailure text))
  | .error failure => .error (.ofFailure text failure)

/-- Reads a JSON text, of which `use` is wanted. -/
def Tree.ofJsonFor (use : JsonUse) (text : String) : Except JsonError Tree := do
  let (tree, finish) ← ofJsonFront use text
  finish
  return tree

/-- Reads a JSON text. -/
def Tree.ofJson (text : String) : Except JsonError Tree := ofJsonFor .whole text

end DaoForge
