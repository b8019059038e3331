import DaoForge.Code.Ident
import DaoForge.Code.Literal

/-!
# DaoForge.Code.Lexeme

The lexemes of a type or path that a declaration spells out. White space, the marks for the direction
of text, and comments separate lexemes and are dropped; a comment that documents is read as the
attribute it stands for. Brackets come in pairs, and hold lexemes.

A punctuation character remembers whether another one follows at once, since operators such as `::` and
`->` are read from several of them.
-/

namespace DaoForge.Code

/-- A lexeme. -/
inductive Lexeme where
  /-- An identifier or keyword; a raw one keeps its mark. -/
  | name (text : String)
  /-- A lifetime, with its mark. -/
  | lifetime (text : String)
  | literal (text : String)
  | punct (c : Char) (joint : Bool)
  | group (delimiter : Delimiter) (content : List Lexeme)
  deriving Repr

/-- A lexeme without its content, as long as brackets are not paired. -/
inductive Symbol where
  | lexeme (lexeme : Lexeme)
  | opening (delimiter : Delimiter)
  | closing (delimiter : Delimiter)
  deriving Repr

namespace Lexeme

/-! ## as they are written -/

/-- Puts a piece of code before others, close to the first word if nothing is between them. -/
def joinTo (joint : Bool) (c : Char) (rest : Code) : Code :=
  match joint, rest with
  | true, .word text :: rest => .word (String.ofList [c] ++ text) :: rest
  | _, rest => .word (String.ofList [c]) :: rest

mutual

/-- A lexeme put before code, as it is written. -/
def onto (rest : Code) : Lexeme → Code
  | .name text | .lifetime text | .literal text => .word text :: rest
  | .punct c joint => joinTo joint c rest
  | .group d content => .group d (written content) :: rest

/-- Lexemes as they are written. -/
def written : List Lexeme → Code
  | [] => []
  | lexeme :: rest => onto (written rest) lexeme

end

/-! ## between lexemes -/

/-- Characters that stand for themselves. -/
def isPunct (c : Char) : Bool := "~!@#$%^&*-=+|;:,<.>/?'".toList.contains c

/-- Characters between lexemes. -/
def isSpace (c : Char) : Bool := CharClass.isBlank c || c == '\u200e' || c == '\u200f'

/-- A comment begins here. -/
def startsComment : List Char → Bool
  | '/' :: '/' :: _ | '/' :: '*' :: _ => true
  | _ => false

/-- The characters of a block comment and what stands after it; `depth` comments are open besides the
outermost. -/
def takeBlock : Nat → List Char → Option (List Char × List Char)
  | 0, '*' :: '/' :: rest => some ([], rest)
  | depth + 1, '*' :: '/' :: rest =>
    (takeBlock depth rest).map fun (text, rest) => ('*' :: '/' :: text, rest)
  | depth, '/' :: '*' :: rest =>
    (takeBlock (depth + 1) rest).map fun (text, rest) => ('/' :: '*' :: text, rest)
  | depth, c :: rest => (takeBlock depth rest).map fun (text, rest) => (c :: text, rest)
  | _, [] => none

/-- The characters up to the end of the line, and what stands after them. -/
def takeLine : List Char → List Char × List Char
  | [] => ([], [])
  | '\n' :: rest => ([], '\n' :: rest)
  | '\r' :: '\n' :: rest => ([], '\n' :: rest)
  | c :: rest => let (line, rest) := takeLine rest; (c :: line, rest)

/-- Skips what stands before a lexeme: one blank or one comment. None if there is neither, or the
comment documents. -/
def skipOne : List Char → Option (List Char)
  | '/' :: '/' :: rest =>
    match rest with
    | '/' :: '/' :: _ => some (takeLine rest).2
    | '/' :: _ | '!' :: _ => none
    | _ => some (takeLine rest).2
  | '/' :: '*' :: rest =>
    match rest with
    | '*' :: '*' :: _ | '*' :: '/' :: _ => (takeBlock 0 rest).map Prod.snd
    | '*' :: _ | '!' :: _ => none
    | _ => (takeBlock 0 rest).map Prod.snd
  | c :: rest => if isSpace c then some rest else none
  | [] => none

/-! ## comments that document -/

/-- Every carriage return stands before a line feed. -/
def hasOnlyBreaks : List Char → Bool
  | [] => true
  | '\r' :: '\n' :: rest => hasOnlyBreaks rest
  | '\r' :: _ => false
  | _ :: rest => hasOnlyBreaks rest

/-- The attribute that a comment stands for. One that documents what it stands in has a mark. -/
def documentation (isInner : Bool) (text : List Char) : Option (List Lexeme) :=
  if hasOnlyBreaks text then
    some (.punct '#' false :: (if isInner then [.punct '!' false] else []) ++
      [.group .bracket [.name "doc", .punct '=' false,
        .literal ("\"" ++ String.ofList (escapeChars text) ++ "\"")]])
  else none

/-- A comment that documents, with what follows it. -/
def takeDocumentation : List Char → Option (List Lexeme × List Char)
  | '/' :: '/' :: mark :: rest => do
    let (line, rest) := takeLine rest
    if mark == '/' || mark == '!' then return (← documentation (mark == '!') line, rest) else none
  | '/' :: '*' :: mark :: rest => do
    let (text, rest) ← takeBlock 0 rest
    if mark == '*' || mark == '!' then return (← documentation (mark == '!') text, rest) else none
  | _ => none

/-! ## lexemes -/

/-- A name, raw or not, with what follows it. -/
def takeName (cs : List Char) : Option (String × List Char) :=
  match cs with
  | 'r' :: '#' :: rest => do
    let (taken, rest) ← Literal.takeName rest
    let text := String.ofList taken
    if isReserved text || text == "_" then none else some ("r#" ++ text, rest)
  | cs => (Literal.takeName cs).map fun (taken, rest) => (String.ofList taken, rest)

/-- A lifetime, its mark taken. Neither a quote nor, unless it is raw, a number sign may follow. -/
def takeLifetime (cs : List Char) : Option (Lexeme × List Char) :=
  match takeName cs with
  | some (text, rest) =>
    if rest.head? == some '\'' || (rest.head? == some '#' && cs.take 2 != ['r', '#']) then none
    else some (.lifetime ("'" ++ text), rest)
  | none => none

/-- Letters and quotes that begin a literal, so that no name is read where it cannot be. -/
def startsLiteral (cs : List Char) : Bool :=
  ["r\"", "r#\"", "r##", "b\"", "b'", "br\"", "br#", "c\"", "cr\"", "cr#"].any fun start =>
    start.toList.isPrefixOf cs

/-- The first lexeme that is no bracket, with what follows it. -/
def first? (cs : List Char) : Option (Lexeme × List Char) :=
  match Literal.rest? cs with
  | some rest => some (.literal (String.ofList (cs.take (cs.length - rest.length))), rest)
  | none =>
    match cs with
    | [] => none
    | '\'' :: rest => takeLifetime rest
    | c :: rest =>
      if isPunct c then
        some (.punct c (rest.head?.any isPunct && !startsComment rest), rest)
      else if startsLiteral cs then none
      else (takeName cs).map fun (text, rest) => (.name text, rest)

/-- A bracket. -/
def bracket? : Char → Option Symbol
  | '(' => some (.opening .parenthesis)
  | '[' => some (.opening .bracket)
  | '\x7b' => some (.opening .brace)
  | ')' => some (.closing .parenthesis)
  | ']' => some (.closing .bracket)
  | '\x7d' => some (.closing .brace)
  | _ => none

/-- The next symbols, with what follows them; blanks and comments are no symbols. -/
def symbols? (cs : List Char) : Option (List Symbol × List Char) :=
  match skipOne cs with
  | some rest => some ([], rest)
  | none =>
    match cs with
    | [] => none
    | c :: rest =>
      match bracket? c with
      | some symbol => some ([symbol], rest)
      | none =>
        if startsComment cs then
          (takeDocumentation cs).map fun (lexemes, rest) => (lexemes.map .lexeme, rest)
        else (first? cs).map fun (lexeme, rest) => ([.lexeme lexeme], rest)

/-- The symbols of a text. -/
def scan (cs : List Char) : Option (List Symbol) :=
  match cs with
  | [] => some []
  | cs =>
    match symbols? cs with
    | some (symbols, rest) =>
      if rest.length < cs.length then (scan rest).map (symbols ++ ·) else none
    | none => none
termination_by cs.length

/-- Pairs brackets. `outer` are the open ones, with the lexemes before each, reversed; `before` are the
lexemes since the last of them, reversed. -/
def pair (outer : List (Delimiter × List Lexeme)) (before : List Lexeme) :
    List Symbol → Option (List Lexeme)
  | [] => if outer.isEmpty then some before.reverse else none
  | .lexeme lexeme :: rest => pair outer (lexeme :: before) rest
  | .opening d :: rest => pair ((d, before) :: outer) [] rest
  | .closing d :: rest =>
    match outer with
    | (d', before') :: outer =>
      if d = d' then pair outer (.group d before.reverse :: before') rest else none
    | [] => none

/-- The lexemes of a text. A mark of byte order at the front is no part of it. -/
def ofChars (cs : List Char) : Option (List Lexeme) :=
  (scan (if cs.head? == some '\ufeff' then cs.drop 1 else cs)).bind (pair [] [])

end Lexeme

end DaoForge.Code
