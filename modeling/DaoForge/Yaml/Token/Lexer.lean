import DaoForge.Yaml.Token
import DaoForge.Yaml.Token.Scalar

/-!
# DaoForge.Yaml.Token.Lexer

Reading the tokens of a YAML text.

1. In blocks, a token further right than the innermost block collection may open one, and a token
   further left closes those that start right of it.
2. A token may turn out to be a key when a colon comes after it on the same line, within 1024
   bytes. Therefore tokens wait in a queue until that is settled: the key's token and, where it is
   the first of a block mapping, the start of the mapping go before the waiting token.
3. Where a block mapping goes on, the first token of a line must be a key.
4. Inside of flow collections there is no indentation.
-/

namespace DaoForge.Yaml

/-- A token that may be a key. -/
structure PossibleKey where
  /-- Nothing but a key can stand here. -/
  isRequired : Bool
  /-- Number of the token. -/
  number : Nat
  start : Position

/-- What a lexer knows between two tokens. -/
structure Lexer where
  cursor : Cursor
  /-- Tokens that wait. -/
  queue : List Token := []
  /-- How many tokens have left the queue. -/
  taken : Nat := 0
  /-- Columns of the open block collections, the innermost one first. -/
  columns : List Nat := []
  /-- A key may come next. -/
  keyAllowed : Bool := true
  /-- The possible key of the block, behind that of each open flow collection, innermost first. -/
  keys : List (Option PossibleKey) := [none]
  /-- The end of the text has been read. -/
  isDone : Bool := false

namespace Lexer

/-- A step that the form of the text may forbid. -/
abbrev Step := Except FormFault Lexer

/-- Inside of a flow collection. -/
def inFlow (l : Lexer) : Bool := 1 < l.keys.length

def fail {α : Type} (l : Lexer) (problem : Problem) (context : Option (Activity × Position)) :
    Except FormFault α :=
  .error ⟨problem, l.cursor.position, context⟩

/-- The number of the next token. -/
def nextNumber (l : Lexer) : Nat := l.taken + l.queue.length

/-- Puts a token at the end of the queue. -/
def push (l : Lexer) (kind : TokenKind) (start finish : Position) : Lexer :=
  { l with queue := l.queue ++ [⟨kind, start, finish⟩] }

/-- Puts a token before that of a number. -/
def pushBefore (l : Lexer) (number : Nat) (kind : TokenKind) (at_ : Position) : Lexer :=
  let place := number - l.taken
  { l with queue := l.queue.take place ++ [⟨kind, at_, at_⟩] ++ l.queue.drop place }

/-! ## indentation -/

/-- Closes the block collections that start right of a column. Without a column all are closed. -/
def closeBlocks (l : Lexer) (column : Option Nat) : Lexer :=
  if l.inFlow then l
  else
    let isInside (open_ : Nat) : Bool := column.all (· < open_)
    let closed := l.columns.takeWhile isInside
    let position := l.cursor.position
    { l with
      columns := l.columns.drop closed.length
      queue := l.queue ++ closed.map fun _ => ⟨.blockEnd, position, position⟩ }

/-- The column is right of the innermost block collection. -/
def isDeeper (l : Lexer) (column : Nat) : Bool :=
  !l.inFlow && l.columns.head?.all (· < column)

/-- Opens a block collection before the token of a number, unless one starts at the column. -/
def openBlock (l : Lexer) (number : Nat) (kind : TokenKind) (start : Position) : Lexer :=
  if l.isDeeper start.column then
    { l.pushBefore number kind start with columns := start.column :: l.columns }
  else l

/-! ## possible keys -/

/-- A possible key that is too far behind is none. -/
def isStale (l : Lexer) (key : PossibleKey) : Bool :=
  key.start.line < l.cursor.position.line || key.start.index + 1024 < l.cursor.position.index

/-- Gives up the possible keys that are too far behind. -/
def dropStale (l : Lexer) : Step :=
  let stale := l.keys.reverse.filterMap fun key => key.filter fun key => l.isStale key
  match stale.find? (·.isRequired) with
  | some key => l.fail .missingColon (some (.simpleKey, key.start))
  | none => .ok { l with keys := l.keys.map fun key => key.filter fun key => !l.isStale key }

/-- Replaces the innermost possible key. -/
def setKey (l : Lexer) (key : Option PossibleKey) : Lexer := { l with keys := key :: l.keys.drop 1 }

/-- The innermost possible key. -/
def key? (l : Lexer) : Option PossibleKey := l.keys.head?.join

/-- Gives up the innermost possible key. -/
def dropKey (l : Lexer) : Step :=
  match l.key? with
  | some key =>
    if key.isRequired then l.fail .missingColon (some (.simpleKey, key.start))
    else .ok (l.setKey none)
  | none => .ok l

/-- The next token may be a key, if one is allowed. -/
def saveKey (l : Lexer) : Step :=
  if l.keyAllowed then do
    let position := l.cursor.position
    let isRequired := !l.inFlow && l.columns.head? == some position.column
    let l ← l.dropKey
    return l.setKey (some ⟨isRequired, l.nextNumber, position⟩)
  else .ok l

/-! ## tokens -/

/-- Takes some characters as a token. -/
def take (l : Lexer) (count : Nat) (kind : TokenKind) : Lexer :=
  let after := l.cursor.skip count
  { l.push kind l.cursor.position after.position with cursor := after }

def readEnd (l : Lexer) : Step := do
  let p := l.cursor.position
  let position := if p.column = 0 then p else ⟨p.index, p.line + 1, 0⟩
  let l := { l with cursor := { l.cursor with position } }
  let l ← (l.closeBlocks none).dropKey
  return { l.push .textEnd position position with keyAllowed := false, isDone := true }

def readDocumentMark (l : Lexer) (kind : TokenKind) : Step := do
  let l ← (l.closeBlocks none).dropKey
  return { l.take 3 kind with keyAllowed := false }

def readFlowStart (l : Lexer) (kind : TokenKind) : Step := do
  let l ← l.saveKey
  return { l.take 1 kind with keyAllowed := true, keys := none :: l.keys }

def readFlowEnd (l : Lexer) (kind : TokenKind) : Step := do
  let l ← l.dropKey
  return { l.take 1 kind with keyAllowed := false, keys := if l.inFlow then l.keys.drop 1 else l.keys }

def readFlowEntry (l : Lexer) : Step := do
  let l ← l.dropKey
  return { l.take 1 .flowEntry with keyAllowed := true }

def readBlockEntry (l : Lexer) : Step := do
  if !l.inFlow && !l.keyAllowed then l.fail .noItemAllowed none
  let l ← (l.openBlock l.nextNumber .blockSequenceStart l.cursor.position).dropKey
  return { l.take 1 .blockEntry with keyAllowed := true }

def readKeyMark (l : Lexer) : Step := do
  if !l.inFlow && !l.keyAllowed then l.fail .noKeyAllowed none
  let l ← (l.openBlock l.nextNumber .blockMappingStart l.cursor.position).dropKey
  return { l.take 1 .key with keyAllowed := !l.inFlow }

def readValueMark (l : Lexer) : Step := do
  match l.key? with
  | some key =>
    let l := (l.pushBefore key.number .key key.start).setKey none
    let l := l.openBlock key.number .blockMappingStart key.start
    return { l.take 1 .value with keyAllowed := false }
  | none =>
    if !l.inFlow && !l.keyAllowed then l.fail .noValueAllowed none
    let l := l.openBlock l.nextNumber .blockMappingStart l.cursor.position
    return { l.take 1 .value with keyAllowed := !l.inFlow }

/-- Takes a scalar that was read. -/
def takeScalar (l : Lexer) (isPlain : Bool) (read : ReadScalar) : Lexer :=
  { l.push (.scalar read.text isPlain) l.cursor.position read.finish with
    cursor := read.after
    keyAllowed := read.hasLines }

def readQuotedToken (l : Lexer) (quote : Char) : Step := do
  let l ← l.saveKey
  let start := l.cursor.position
  let after := l.cursor.skip 1
  return l.takeScalar false (← readQuoted quote start [] .empty (after.rest.length + 1) after)

def readPlainToken (l : Lexer) : Step := do
  let l ← l.saveKey
  let start := l.cursor.position
  let least := match l.columns with | [] => 0 | column :: _ => column + 1
  return l.takeScalar true (← readPlain l.inFlow least start [] start .empty start l.cursor.rest)

/-- Reads the next token, and those that come with it, into the queue. -/
def read (l : Lexer) : Step := do
  let (keyAllowed, cursor) := skipGap l.inFlow l.keyAllowed l.cursor.position l.cursor.rest
  let l ← dropStale { l with keyAllowed, cursor }
  let l := l.closeBlocks (some cursor.position.column)
  match cursor.rest with
  | [] => l.readEnd
  | c :: rest =>
    let opensLine := cursor.position.column == 0
    let isMark := l.inFlow || startsBlank rest
    if opensLine && c == '%' then l.fail .unreadNotation none
    else if opensLine && startsMark '-' cursor.rest then l.readDocumentMark .documentStart
    else if opensLine && startsMark '.' cursor.rest then l.readDocumentMark .documentEnd
    else if c == '[' then l.readFlowStart .flowSequenceStart
    else if c == '\x7b' then l.readFlowStart .flowMappingStart
    else if c == ']' then l.readFlowEnd .flowSequenceEnd
    else if c == '\x7d' then l.readFlowEnd .flowMappingEnd
    else if c == ',' then l.readFlowEntry
    else if c == '-' && startsBlank rest then l.readBlockEntry
    else if c == '?' && isMark then l.readKeyMark
    else if c == ':' && isMark then l.readValueMark
    else if c == '*' || c == '&' || c == '!' || (!l.inFlow && (c == '|' || c == '>')) then
      l.fail .unreadNotation none
    else if c == '\'' || c == '"' then l.readQuotedToken c
    else if startsPlain l.inFlow cursor.rest then l.readPlainToken
    else l.fail .noTokenStart (some (.nextToken, cursor.position))

/-- The first token of the queue may turn out to be a key. -/
def isWaiting (l : Lexer) : Bool := l.keys.any fun key => key.any fun key => key.number == l.taken

/-- Reads tokens to the end of the text. Those taken so far are given reversed. -/
def run : Nat → List Token → Lexer → TokenText
  | 0, tokens, _ => ⟨tokens.reverse, none⟩
  | fuel + 1, tokens, l =>
    match l.queue with
    | [] =>
      if l.isDone then ⟨tokens.reverse, none⟩
      else
        match l.read with
        | .error fault => ⟨tokens.reverse, some fault⟩
        | .ok l => run fuel tokens l
    | token :: queue =>
      match l.dropStale with
      | .error fault => ⟨tokens.reverse, some fault⟩
      | .ok l =>
        if l.isWaiting then
          match l.read with
          | .error fault => ⟨tokens.reverse, some fault⟩
          | .ok l => run fuel tokens l
        else run fuel (token :: tokens) { l with queue, taken := l.taken + 1 }

end Lexer

/-- The tokens of a text. -/
def TokenText.ofChars (text : List Char) : TokenText :=
  let cs := normalizeBreaks text
  Lexer.run (8 * cs.length + 16) [] { cursor := ⟨cs, {}⟩ }

end DaoForge.Yaml
