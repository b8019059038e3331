import DaoForge.Text.Quoted

/-!
# DaoForge.Code.Token

Code before layout: a list of words and bracketed groups. A word is anything that is printed without a
blank inside: an identifier, a literal or an operator.

Printed code has one blank between any two tokens. Round and square brackets stand close to what they
hold; braces keep a blank on both sides, and one blank if they are empty.
-/

namespace DaoForge

/-- Brackets of a group. -/
inductive Delimiter where
  | parenthesis
  | bracket
  | brace
  deriving DecidableEq, Repr

/-- A piece of code. -/
inductive Token where
  | word (text : String)
  | group (delimiter : Delimiter) (tokens : List Token)
  deriving Repr

/-- Code before layout. -/
abbrev Code := List Token

namespace Delimiter

/-- Text of a group with the given texts inside. -/
def enclose (inner : List String) : Delimiter → String
  | .parenthesis => "(" ++ " ".intercalate inner ++ ")"
  | .bracket => "[" ++ " ".intercalate inner ++ "]"
  | .brace => " ".intercalate ("\x7b" :: inner ++ ["\x7d"])

end Delimiter

namespace Token

mutual

def text : Token → String
  | .word text => text
  | .group delimiter tokens => delimiter.enclose (texts tokens)

def texts : List Token → List String
  | [] => []
  | token :: rest => text token :: texts rest

end

end Token

namespace Code

/-- Printed code. -/
def render (code : Code) : String := " ".intercalate (Token.texts code)

/-! ## composition -/

/-- The texts between blanks. `current` are the characters of the first one so far, the last one first. -/
def wordsFrom (current : List Char) : List Char → List String
  | [] => [String.ofList current.reverse]
  | c :: rest =>
    if c = ' ' then String.ofList current.reverse :: wordsFrom [] rest
    else wordsFrom (c :: current) rest

/-- Words, written with blanks between them. -/
def words (text : String) : Code := (wordsFrom [] text.toList).map .word

def word (text : String) : Code := [.word text]

def parens (inner : Code) : Code := [.group .parenthesis inner]

def brackets (inner : Code) : Code := [.group .bracket inner]

def braces (inner : Code) : Code := [.group .brace inner]

/-- Items with commas between them. -/
def commas : List Code → Code
  | [] => []
  | [item] => item
  | item :: rest => item ++ word "," ++ commas rest

/-- Items with a comma after each. -/
def commasAfter (items : List Code) : Code := items.flatMap fun item => item ++ word ","

end Code

/-! ## literals -/

namespace Code

/-- The text begins with a digit that an octal escape could take in. -/
def opensWithOctal : List Char → Bool
  | [] => false
  | c :: _ => '0' ≤ c && c ≤ '7'

/-- One character of a string literal; `rest` are the characters after it. -/
def escapeChar (c : Char) (rest : List Char) : List Char :=
  if c = '\x00' ∧ opensWithOctal rest then "\\x00".toList else quotedChar c

/-- The characters of a text as a string literal writes them. -/
def escapeChars : List Char → List Char
  | [] => []
  | c :: rest => escapeChar c rest ++ escapeChars rest

/-- A string literal. -/
def string (text : String) : Code :=
  word ("\"" ++ String.ofList (escapeChars text.toList) ++ "\"")

/-- An integer constant of 64 bits. -/
def int64 (n : Int64) : Code := word (toString n.toInt ++ "i64")

/-- A plain number. -/
def nat (n : Nat) : Code := word (toString n)

end Code

/-! ## comments that the generated code keeps -/

namespace Code

/-- A comment on the item that follows. -/
def comment (text : String) : Code := word "#" ++ brackets (words "doc =" ++ string text)

/-- A comment that every unit of a kind has; its text is written raw. -/
def fixedComment (text : String) : Code :=
  word "#" ++ brackets (words "doc =" ++ word ("r\"" ++ text ++ "\""))

end Code

end DaoForge
