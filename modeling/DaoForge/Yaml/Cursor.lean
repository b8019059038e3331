import DaoForge.Yaml.Fault

/-!
# DaoForge.Yaml.Cursor

What is left of a text while its tokens are read, and the characters that matter between them: blanks,
line breaks, and the indicators. Line breaks are the line feed and the separators of lines and
paragraphs; other ways to end a line are replaced by line feeds before (`normalizeBreaks`).

A `Gap` is a run of blanks and line breaks inside of a scalar. On one line its blanks are kept. Of
several lines blanks are dropped, the first line feed is a blank, and with more of them it is left out.
-/

namespace DaoForge.Yaml

/-- What is left of a text, and where it begins. -/
structure Cursor where
  rest : List Char
  position : Position

namespace Cursor

/-- The cursor behind some characters, none of which is a line break. -/
def skip (c : Cursor) (count : Nat) : Cursor :=
  ⟨c.rest.drop count, (c.rest.take count).foldl Position.right c.position⟩

end Cursor

def isBlank (c : Char) : Bool := c == ' ' || c == '\t'

def isBreak (c : Char) : Bool := c == '\n' || c == '\u2028' || c == '\u2029'

/-- The mark of byte order. -/
def byteOrderMark : Char := '\ufeff'

/-- The text begins with a blank or a line break, or is at its end. -/
def startsBlank : List Char → Bool
  | [] => true
  | c :: _ => isBlank c || isBreak c

/-- The text begins with three times the mark of a document's start or end. -/
def startsMark (mark : Char) : List Char → Bool
  | a :: b :: c :: rest => a == mark && b == mark && c == mark && startsBlank rest
  | _ => false

/-- The text begins with the mark of a document's start or end. -/
def startsDocumentMark (cs : List Char) : Bool := startsMark '-' cs || startsMark '.' cs

/-- Characters that cannot open a plain scalar, and three that can if another character follows. -/
def isIndicator (c : Char) : Bool := "-?:,[]\x7b\x7d#&*!|>'\"%@\x60".toList.contains c

/-- Characters with a meaning inside of flow collections. -/
def isFlowIndicator (c : Char) : Bool := ",[]\x7b\x7d".toList.contains c

/-- The position behind a character. -/
def Position.past (p : Position) (c : Char) : Position := if isBreak c then p.below c else p.right c

/-- The text with line feeds in place of carriage returns and of next-line characters. -/
def normalizeBreaks : List Char → List Char
  | '\r' :: '\n' :: rest => '\n' :: normalizeBreaks rest
  | '\r' :: rest | '\u0085' :: rest => '\n' :: normalizeBreaks rest
  | c :: rest => c :: normalizeBreaks rest
  | [] => []

/-! ## gaps -/

/-- A run of blanks and line breaks inside of a scalar. -/
inductive Gap where
  /-- Blanks on one line, reversed. -/
  | blanks (reversed : List Char)
  /-- The first line break, unless it is escaped, and the others, reversed. -/
  | lines (first : Option Char) (others : List Char)

namespace Gap

/-- The gap of no characters. -/
def empty : Gap := .blanks []

def isEmpty : Gap → Bool
  | .blanks [] => true
  | _ => false

/-- There are line breaks. -/
def hasLines : Gap → Bool
  | .blanks _ => false
  | .lines .. => true

/-- The gap with one more blank or line break. -/
def add (g : Gap) (c : Char) : Gap :=
  match g with
  | .blanks cs => if isBreak c then .lines (some c) [] else .blanks (c :: cs)
  | .lines first others => if isBreak c then .lines first (c :: others) else g

/-- The text of the gap, reversed. -/
def folded : Gap → List Char
  | .blanks cs => cs
  | .lines (some '\n') [] => [' ']
  | .lines (some '\n') others => others
  | .lines first others => others ++ first.toList

end Gap

/-! ## between tokens -/

/-- Skips blanks, comments and line breaks; outside of flow collections a line break allows a key
again. Where a key may come outside of flow collections there must be no tab. A mark of byte order may
open a line. -/
def skipGap (inFlow : Bool) (keyAllowed : Bool) (p : Position) : List Char → Bool × Cursor
  | [] => (keyAllowed, ⟨[], p⟩)
  | c :: rest =>
    if c == ' ' || (c == '\t' && (inFlow || !keyAllowed)) || (c == byteOrderMark && p.column == 0) then
      skipGap inFlow keyAllowed (p.right c) rest
    else if c == '#' then comment (p.right c) rest
    else if isBreak c then skipGap inFlow (keyAllowed || !inFlow) (p.below c) rest
    else (keyAllowed, ⟨c :: rest, p⟩)
where
  comment (p : Position) : List Char → Bool × Cursor
    | [] => (keyAllowed, ⟨[], p⟩)
    | c :: rest =>
      if isBreak c then skipGap inFlow (keyAllowed || !inFlow) (p.below c) rest
      else comment (p.right c) rest

end DaoForge.Yaml
