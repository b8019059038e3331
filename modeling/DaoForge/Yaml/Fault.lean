/-!
# DaoForge.Yaml.Fault

Positions in a YAML text, and what can be wrong with one. A fault of form names the problem and where
it was found, and often also what was being read and where that began.

A position is left out of a message if it is the start of the text, and that of the context also if it
is on the same line and column as the problem.
-/

namespace DaoForge.Yaml

/-- A position in a text. -/
structure Position where
  /-- Bytes before it. -/
  index : Nat := 0
  /-- Lines before it. -/
  line : Nat := 0
  /-- Characters before it on its line. -/
  column : Nat := 0
  deriving DecidableEq, Repr

namespace Position

/-- The position behind a character on the same line. -/
def right (p : Position) (c : Char) : Position :=
  { p with index := p.index + c.utf8Size, column := p.column + 1 }

/-- The position behind a character that breaks the line. -/
def below (p : Position) (c : Char) : Position := ⟨p.index + c.utf8Size, p.line + 1, 0⟩

/-- Same line and column. -/
def coincides (p q : Position) : Bool := p.line == q.line && p.column == q.column

/-- Lines and columns count from one: ` at line 2 column 7`. The start of a text is not named. -/
def clause (p : Position) : String :=
  if p.coincides {} then ""
  else " at line " ++ toString (p.line + 1) ++ " column " ++ toString (p.column + 1)

end Position

/-- What is wrong with the form of a text. -/
inductive Problem where
  | noTokenStart
  | missingColon
  | noItemAllowed
  | noKeyAllowed
  | noValueAllowed
  | tabInIndentation
  | unexpectedColon
  | documentMark
  | endOfText
  | unknownEscape
  | missingHexDigit
  | invalidEscapeCode
  | missingNode
  | missingItemMark
  | missingKey
  | missingSequenceCommaOrEnd
  | missingMappingCommaOrEnd
  /-- Anchors, aliases, tags, block scalars and directives are not read. -/
  | unreadNotation
  deriving DecidableEq, Repr

/-- Wording of the problem. -/
def Problem.message : Problem → String
  | .noTokenStart => "found character that cannot start any token"
  | .missingColon => "could not find expected ':'"
  | .noItemAllowed => "block sequence entries are not allowed in this context"
  | .noKeyAllowed => "mapping keys are not allowed in this context"
  | .noValueAllowed => "mapping values are not allowed in this context"
  | .tabInIndentation => "found a tab character that violates indentation"
  | .unexpectedColon => "found unexpected ':'"
  | .documentMark => "found unexpected document indicator"
  | .endOfText => "found unexpected end of stream"
  | .unknownEscape => "found unknown escape character"
  | .missingHexDigit => "did not find expected hexdecimal number"
  | .invalidEscapeCode => "found invalid Unicode character escape code"
  | .missingNode => "did not find expected node content"
  | .missingItemMark => "did not find expected '-' indicator"
  | .missingKey => "did not find expected key"
  | .missingSequenceCommaOrEnd => "did not find expected ',' or ']'"
  | .missingMappingCommaOrEnd => "did not find expected ',' or '\x7d'"
  | .unreadNotation => "anchors, tags, block scalars and directives are not read"

/-- What was being read. -/
inductive Activity where
  | nextToken
  | simpleKey
  | plainScalar
  | quotedScalar
  | quotedEscape
  | blockNode
  | flowNode
  | blockSequence
  | blockMapping
  | flowSequence
  | flowMapping
  deriving DecidableEq, Repr

/-- Wording of the activity. -/
def Activity.message : Activity → String
  | .nextToken => "while scanning for the next token"
  | .simpleKey => "while scanning a simple key"
  | .plainScalar => "while scanning a plain scalar"
  | .quotedScalar => "while scanning a quoted scalar"
  | .quotedEscape => "while parsing a quoted scalar"
  | .blockNode => "while parsing a block node"
  | .flowNode => "while parsing a flow node"
  | .blockSequence => "while parsing a block collection"
  | .blockMapping => "while parsing a block mapping"
  | .flowSequence => "while parsing a flow sequence"
  | .flowMapping => "while parsing a flow mapping"

/-- A fault of form: the problem, where it was found, and what was being read from where on. -/
structure FormFault where
  problem : Problem
  position : Position
  context : Option (Activity × Position) := none
  deriving DecidableEq, Repr

/-- Wording of the fault. -/
def FormFault.message (f : FormFault) : String :=
  f.problem.message ++ f.position.clause ++
    match f.context with
    | none => ""
    | some (activity, start) =>
      ", " ++ activity.message ++ if start.coincides f.position then "" else start.clause

/-- What is wrong with a text. -/
inductive TextFault where
  | form (fault : FormFault)
  /-- A character that no text may hold, and the number of bytes before it. -/
  | controlCharacter (offset : Nat)
  deriving DecidableEq, Repr

/-- Wording of the fault. -/
def TextFault.message : TextFault → String
  | .form fault => fault.message
  | .controlCharacter offset =>
    "control characters are not allowed" ++
      if offset = 0 then "" else " at position " ++ toString offset

end DaoForge.Yaml
