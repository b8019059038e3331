import DaoForge.Diagnostic
import DaoForge.Query.Lexeme
import DaoForge.Query.StatementKind
import DaoForge.Tree.Basic

/-!
# DaoForge.Query.RawQuery

The SQL of a query function, cut at its placeholders. Everything between two placeholders is one
segment of text, so two texts are never adjacent and none is empty.
-/

namespace DaoForge

/-- A segment of a query. -/
inductive Segment where
  | text (text : String)
  | parameter (name : String)
  deriving DecidableEq, Repr

/-- A query whose SQL was read. -/
structure RawQuery where
  /-- The SQL as written. -/
  sql : String
  segments : List Segment
  /-- Parameter names in placeholder order, repeats included. -/
  bindings : List String
  statement : StatementKind
  deriving DecidableEq, Repr

namespace Segment

/-- The lexemes as segments: a placeholder is one, and a run of others is one. -/
def ofLexemes : List Lexeme → List Segment
  | [] => []
  | .placeholder name :: rest => .parameter (String.ofList name) :: ofLexemes rest
  | lexeme :: rest =>
    match ofLexemes rest with
    | .text tail :: segments => .text (String.ofList lexeme.chars ++ tail) :: segments
    | segments => .text (String.ofList lexeme.chars) :: segments

/-- The parameter of a segment. -/
def parameter? : Segment → Option String
  | .text _ => none
  | .parameter name => some name

/-- The segment as it was written. -/
def source : Segment → String
  | .text s => s
  | .parameter name => ":" ++ name

/-- The segment with an anonymous placeholder for a parameter. -/
def positional : Segment → String
  | .text s => s
  | .parameter _ => "?"

def toTree : Segment → Tree
  | .text s => .tagged "text" (.text s)
  | .parameter name => .tagged "parameter" (.text name)

end Segment

/-- The error of a fault in a text of `bytes` bytes. -/
def LexFault.toError (bytes : Nat) : LexFault → BindingError
  | .unterminatedLiteral => .unterminated "string literal"
  | .unterminatedIdentifier => .unterminated "quoted identifier"
  | .unterminatedComment => .unterminated "block comment"
  | .anonymous rest => .anonymousPlaceholder (bytes - (String.ofList rest).utf8ByteSize)
  | .unsupported placeholder => .unsupportedPlaceholder (String.ofList placeholder)

namespace RawQuery

/-- Reads SQL text. -/
def ofSql (sql : String) : Except BindingError RawQuery :=
  match Lexeme.lex sql.toList with
  | .error fault => .error (fault.toError sql.utf8ByteSize)
  | .ok lexemes =>
    let segments := Segment.ofLexemes lexemes
    .ok
      { sql
        segments
        bindings := segments.filterMap Segment.parameter?
        statement := .ofSql sql }

/-- The SQL with an anonymous placeholder for every parameter. -/
def positionalSql (q : RawQuery) : String := String.join (q.segments.map Segment.positional)

def toTree (q : RawQuery) : Tree :=
  .record [("sql", .text q.sql), ("segments", .list (q.segments.map Segment.toTree)),
    ("bindings", .texts q.bindings), ("statement", .text q.statement.name)]

end RawQuery

end DaoForge
