import DaoForge.Text.CharClass

/-!
# DaoForge.Code.Literal

Literals of code that a declaration spells out: texts, single characters and numbers. Code keeps them as
they are written, so that only their extent matters: `rest?` tells what stands behind a literal.

A literal may end with a name, as `5u8` does.
-/

namespace DaoForge.Code.Literal

open CharClass

/-- What may stand inside of quotes. -/
inductive Content where
  /-- Any character. -/
  | characters
  /-- Characters of ASCII; an escape stands for a byte. -/
  | bytes
  /-- Any character but NUL. -/
  | terminated
  deriving DecidableEq, Repr

/-- The character may stand for itself. -/
def Content.allows (content : Content) (c : Char) : Bool :=
  match content with
  | .characters => true
  | .bytes => c.toNat < 128
  | .terminated => c != '\x00'

/-- The value of an escape may be written. -/
def Content.allowsValue (content : Content) (value : Nat) : Bool :=
  match content with
  | .characters => value < 128
  | .bytes => true
  | .terminated => value != 0

/-! ## names at the end -/

/-- A name at the front, with what follows it. -/
def takeName (cs : List Char) : Option (List Char × List Char) :=
  match cs with
  | c :: rest =>
    if isIdentifierStart c then
      some (c :: rest.takeWhile isIdentifierContinue, rest.dropWhile isIdentifierContinue)
    else none
  | [] => none

/-- Skips a name, if there is one. -/
def skipName (cs : List Char) : List Char := ((takeName cs).map Prod.snd).getD cs

/-! ## escapes -/

/-- A character by number, its opening brace taken: up to six digits, with underscores between them.
`count` digits were read, and they give `value`. -/
def readUnicode : Nat → Nat → List Char → Option (Nat × List Char)
  | _, _, [] => none
  | count, value, c :: rest =>
    if c == '\x7d' then
      if 0 < count && value.isValidChar then some (value, rest) else none
    else if c == '_' && 0 < count then readUnicode count value rest
    else
      match hexDigitValue? c with
      | some digit => if count < 6 then readUnicode (count + 1) (16 * value + digit) rest else none
      | none => none

/-- What stands behind an escape, its backslash taken. -/
def skipEscape (content : Content) : List Char → Option (List Char)
  | 'x' :: a :: b :: rest =>
    match hexDigitValue? a, hexDigitValue? b with
    | some a, some b => if content.allowsValue (16 * a + b) then some rest else none
    | _, _ => none
  | 'u' :: '\x7b' :: rest =>
    match readUnicode 0 0 rest with
    | some (value, rest) =>
      if content == .bytes || (content == .terminated && value == 0) then none else some rest
    | none => none
  | '0' :: rest => if content == .terminated then none else some rest
  | c :: rest => if ['n', 'r', 't', '\\', '\'', '"'].contains c then some rest else none
  | [] => none

/-- What stands behind a line break that a backslash hides, and the blanks after it. -/
def skipHiddenBreak : List Char → Option (List Char)
  | '\r' :: '\n' :: rest => skipHiddenBreak rest
  | '\r' :: _ => none
  | '\n' :: rest | ' ' :: rest | '\t' :: rest => skipHiddenBreak rest
  | [] => none
  | cs => some cs

/-! ## quotes -/

/-- What stands behind the closing quote of a text. -/
def afterText (content : Content) (cs : List Char) : Option (List Char) :=
  match cs with
  | [] => none
  | '"' :: rest => some (skipName rest)
  | '\r' :: '\n' :: rest => afterText content rest
  | '\r' :: _ => none
  | '\\' :: rest =>
    let next :=
      match rest with
      | '\n' :: _ | '\r' :: _ => skipHiddenBreak rest
      | _ => skipEscape content rest
    match next with
    | some next => if next.length ≤ rest.length then afterText content next else none
    | none => none
  | c :: rest => if content.allows c then afterText content rest else none
termination_by cs.length
decreasing_by all_goals simp_all; try omega

/-- What stands behind a raw text that ends with a quote and `marks` number signs. -/
def afterRaw (content : Content) (marks : Nat) : List Char → Option (List Char)
  | [] => none
  | '"' :: rest =>
    if rest.take marks = List.replicate marks '#' then some (skipName (rest.drop marks))
    else afterRaw content marks rest
  | '\r' :: '\n' :: rest => afterRaw content marks rest
  | '\r' :: _ => none
  | c :: rest => if content.allows c then afterRaw content marks rest else none

/-- What stands behind a raw text, its letters taken. There are at most 255 number signs. -/
def raw (content : Content) (cs : List Char) : Option (List Char) :=
  let marks := (cs.takeWhile (· == '#')).length
  match cs.drop marks with
  | '"' :: rest => if marks ≤ 255 then afterRaw content marks rest else none
  | _ => none

/-- What stands behind a single character, its opening quote taken. -/
def afterCharacter (content : Content) (cs : List Char) : Option (List Char) :=
  let closed : List Char → Option (List Char)
    | '\'' :: rest => some (skipName rest)
    | _ => none
  match cs with
  | '\\' :: rest => (skipEscape content rest).bind closed
  | c :: rest => if content.allows c then closed rest else none
  | [] => none

/-- What stands behind a literal in quotes. -/
def quoted : List Char → Option (List Char)
  | '"' :: rest => afterText .characters rest
  | '\'' :: rest => afterCharacter .characters rest
  | 'r' :: rest => raw .characters rest
  | 'b' :: '"' :: rest => afterText .bytes rest
  | 'b' :: '\'' :: rest => afterCharacter .bytes rest
  | 'b' :: 'r' :: rest => raw .bytes rest
  | 'c' :: '"' :: rest => afterText .terminated rest
  | 'c' :: 'r' :: rest => raw .terminated rest
  | _ => none

/-! ## numbers -/

def isDigit (c : Char) : Bool := isAsciiDigit c || c == '_'

/-- What stands behind an exponent, its letter taken: an optional sign, then a digit at least. -/
def skipExponent (signed valued : Bool) : List Char → Option (List Char)
  | [] => if valued then some [] else none
  | c :: rest =>
    if c == '+' || c == '-' then
      if valued then some (c :: rest) else if signed then none else skipExponent true false rest
    else if isAsciiDigit c then skipExponent signed true rest
    else if c == '_' then skipExponent signed valued rest
    else if valued then some (c :: rest)
    else none

/-- What stands behind a number with a point or an exponent. After the point comes neither a second one
nor a name. Without a value, the letter of an exponent begins the name at the end instead. -/
def fractional (cs : List Char) : Option (List Char) :=
  match cs.dropWhile isDigit with
  | '.' :: rest =>
    if rest.head?.any fun c => c == '.' || isIdentifierStart c then none
    else
      match rest.dropWhile isDigit with
      | 'e' :: power | 'E' :: power =>
        some ((skipExponent false false power).getD (rest.dropWhile isDigit))
      | rest => some rest
  | 'e' :: power | 'E' :: power => skipExponent false false power
  | _ => none

/-- What stands behind the digits of an integer. -/
def skipDigits (base : Nat) (isEmpty : Bool) : List Char → Option (List Char)
  | [] => if isEmpty then none else some []
  | c :: rest =>
    if c == '_' then if isEmpty && base == 10 then none else skipDigits base isEmpty rest
    else
      match hexDigitValue? c with
      | some digit =>
        if digit < base then skipDigits base false rest
        else if isEmpty || isAsciiDigit c then none
        else some (c :: rest)
      | none => if isEmpty then none else some (c :: rest)

/-- What stands behind an integer. -/
def integral : List Char → Option (List Char)
  | '0' :: 'x' :: rest => skipDigits 16 true rest
  | '0' :: 'o' :: rest => skipDigits 8 true rest
  | '0' :: 'b' :: rest => skipDigits 2 true rest
  | cs => skipDigits 10 true cs

/-- Skips the name at the end of a number. No other part of a name may follow. -/
def endNumber (cs : List Char) : Option (List Char) :=
  let rest := skipName cs
  if rest.head?.any isIdentifierContinue then none else some rest

/-- What stands behind a number. -/
def number (cs : List Char) : Option (List Char) :=
  if cs.head?.any isAsciiDigit then
    ((fractional cs).bind endNumber).or ((integral cs).bind endNumber)
  else none

/-- What stands behind the literal at the front, if there is one. -/
def rest? (cs : List Char) : Option (List Char) :=
  match (quoted cs).or (number cs) with
  | some rest => if rest.length < cs.length then some rest else none
  | none => none

end DaoForge.Code.Literal
