import DaoForge.Text.CharClass
import DaoForge.Yaml.Cursor

/-!
# DaoForge.Yaml.Token.Scalar

Reading one plain or quoted scalar. Both may go on for several lines, whose breaks are folded
(`Gap.folded`). A plain scalar ends before a colon that a blank follows, before a number sign behind a
blank, and in a flow collection before an indicator; on a further line it must be indented.
-/

namespace DaoForge.Yaml

/-- A scalar that was read. -/
structure ReadScalar where
  text : String
  /-- Where the scalar ends. -/
  finish : Position
  /-- What was looked at behind it belongs to no token. -/
  after : Cursor
  /-- A line break is between the two. -/
  hasLines : Bool

/-! ## plain scalars -/

/-- A plain scalar may open here. A dash may open one in a flow collection too. -/
def startsPlain (inFlow : Bool) : List Char → Bool
  | [] => false
  | '-' :: rest => !startsBlank rest
  | '?' :: rest | ':' :: rest => !inFlow && !startsBlank rest
  | c :: _ => !isIndicator c && !isBlank c && !isBreak c

/-- The rest of a plain scalar. `text` was read so far, reversed, and ends at `finish`; the gap counts
only if the scalar goes on behind it. Lines after the first start at column `least` or later. -/
def readPlain (inFlow : Bool) (least : Nat) (start : Position) (text : List Char)
    (finish : Position) (gap : Gap) (p : Position) : List Char → Except FormFault ReadScalar
  | [] => .ok ⟨String.ofList text.reverse, finish, ⟨[], p⟩, gap.hasLines⟩
  | c :: rest =>
    let done : ReadScalar := ⟨String.ofList text.reverse, finish, ⟨c :: rest, p⟩, gap.hasLines⟩
    if isBlank c || isBreak c then
      if c == '\t' && gap.hasLines && p.column < least then
        .error ⟨.tabInIndentation, p, some (.plainScalar, start)⟩
      else readPlain inFlow least start text finish (gap.add c) (p.past c) rest
    else if !gap.isEmpty && ((!inFlow && p.column < least) || c == '#' ||
        (p.column == 0 && startsDocumentMark (c :: rest))) then .ok done
    else if inFlow && c == ':' && rest.head?.any (fun d => d == '?' || isFlowIndicator d) then
      .error ⟨.unexpectedColon, p, some (.plainScalar, start)⟩
    else if (c == ':' && startsBlank rest) || (inFlow && isFlowIndicator c) then .ok done
    else
      readPlain inFlow least start (c :: (gap.folded ++ text)) (p.right c) .empty (p.right c) rest

/-! ## quoted scalars -/

/-- What an escape with one letter stands for. -/
def shortEscape : Char → Option Char
  | '0' => some '\x00'
  | 'a' => some '\x07'
  | 'b' => some '\x08'
  | 't' | '\t' => some '\t'
  | 'n' => some '\n'
  | 'v' => some '\x0b'
  | 'f' => some '\x0c'
  | 'r' => some '\r'
  | 'e' => some '\x1b'
  | ' ' => some ' '
  | '"' => some '"'
  | '/' => some '/'
  | '\\' => some '\\'
  | 'N' => some '\u0085'
  | '_' => some '\u00a0'
  | 'L' => some '\u2028'
  | 'P' => some '\u2029'
  | _ => none

/-- The number of digits behind an escape by number. -/
def escapeWidth : Char → Option Nat
  | 'x' => some 2
  | 'u' => some 4
  | 'U' => some 8
  | _ => none

/-- An escape in a double-quoted scalar, at its backslash. -/
def readEscape (start : Position) (c : Cursor) : Except FormFault (Char × Cursor) :=
  let fault (problem : Problem) (at_ : Position) : Except FormFault (Char × Cursor) :=
    .error ⟨problem, at_, some (.quotedEscape, start)⟩
  match c.rest.drop 1 with
  | [] => fault .unknownEscape c.position
  | letter :: _ =>
    let after := c.skip 2
    match shortEscape letter, escapeWidth letter with
    | some value, _ => .ok (value, after)
    | none, none => fault .unknownEscape c.position
    | none, some width =>
      match (after.rest.take width).mapM CharClass.hexDigitValue? with
      | none => fault .missingHexDigit after.position
      | some digits =>
        let code := digits.foldl (fun value digit => 16 * value + digit) 0
        if digits.length < width then fault .missingHexDigit after.position
        else if code.isValidChar then .ok (Char.ofNat code, after.skip width)
        else fault .invalidEscapeCode after.position

/-- The rest of a quoted scalar. `text` was read so far, reversed. -/
def readQuoted (quote : Char) (start : Position) (text : List Char) (gap : Gap) :
    Nat → Cursor → Except FormFault ReadScalar
  | 0, c => .error ⟨.endOfText, c.position, some (.quotedScalar, start)⟩
  | fuel + 1, cursor =>
    match cursor.rest with
    | [] => .error ⟨.endOfText, cursor.position, some (.quotedScalar, start)⟩
    | c :: rest =>
      let joined := gap.folded ++ text
      if isBlank c || isBreak c then
        readQuoted quote start text (gap.add c) fuel ⟨rest, cursor.position.past c⟩
      else if cursor.position.column == 0 && startsDocumentMark cursor.rest then
        .error ⟨.documentMark, cursor.position, some (.quotedScalar, start)⟩
      else if c == '\'' && quote == '\'' && rest.head? == some '\'' then
        readQuoted quote start ('\'' :: joined) .empty fuel (cursor.skip 2)
      else if c == quote then
        let after := cursor.skip 1
        .ok ⟨String.ofList joined.reverse, after.position, after, false⟩
      else if c == '\\' && quote == '"' then
        match rest with
        | d :: further =>
          if isBreak d then
            readQuoted quote start joined (.lines none []) fuel
              ⟨further, (cursor.position.right c).past d⟩
          else
            match readEscape start cursor with
            | .ok (value, after) => readQuoted quote start (value :: joined) .empty fuel after
            | .error fault => .error fault
        | [] => .error ⟨.unknownEscape, cursor.position, some (.quotedEscape, start)⟩
      else readQuoted quote start (c :: joined) .empty fuel (cursor.skip 1)

end DaoForge.Yaml
