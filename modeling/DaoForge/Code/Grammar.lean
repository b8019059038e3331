import DaoForge.Code.Grammar.Statement
import DaoForge.Code.Grammar.Type
import DaoForge.Declaration.TypeExpr

/-!
# DaoForge.Code.Grammar

Types and paths as declarations spell them, read into code. What is read is written again in one way,
whatever blanks and comments it had, with each `>` apart.

A type may hold expressions (the number of elements of an array) and these may hold types, so the parts
of the grammar are tied together here, up to some depth of nesting. Each level takes a lexeme at least,
so the length of the text is depth enough.
-/

namespace DaoForge.Code

/-- The grammar, for code that is nested less than `depth` times. -/
def grammar : Nat → Inner
  | 0 => Inner.none
  | depth + 1 =>
    let inner := grammar depth
    { type := typeReader inner
      bound := boundCode inner
      pattern := patternReader inner
      expression := expressionReader inner
      operand := operandReader inner
      statement := statementExpression inner
      statements := statementsReader inner
      definition := definitionReader inner }

/-- Reads a whole text. -/
def readAll (reader : Inner → Reader Code) (text : String) : Except GenerationError Code :=
  let result := do
    let lexemes ← Lexeme.ofChars text.toList
    reader (grammar (text.length + 1)) lexemes
  match result with
  | some (code, []) => .ok code
  | _ => .error (.invalidTypePath text)

/-- The code of a type. -/
def ofType (t : TypeExpr) : Except GenerationError Code :=
  readAll (fun inner => inner.typeCode true) t.source

/-- The code of a path. -/
def ofPath (text : String) : Except GenerationError Code :=
  readAll (fun inner => PathCode.code <$> path inner false) text

end DaoForge.Code
