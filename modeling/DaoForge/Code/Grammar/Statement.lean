import DaoForge.Code.Grammar.Definition
import DaoForge.Code.Grammar.Operand

/-!
# DaoForge.Code.Grammar.Statement

What stands in a block.

```
statement ::= ; | attribute* let pattern (: type)? (= expression (else block)?)? ; | definition
            | attribute* path ! { … } ;? | attribute* expression ;?
```

An expression that is a statement ends with its first block, unless a member or a question mark follows;
then it needs no semicolon. Any other needs one, unless it is the last.
-/

namespace DaoForge.Code

open Reader Code.Lexeme

/-- An expression as a statement or as the body of an arm. -/
def statementExpression (inner : Inner) : Reader ExprCode := do
  let attributes ← attributes inner
  let mark (e : ExprCode) : ExprCode := ⟨attributes ++ e.code, e.shape⟩
  if ← sees startsBlockExpression then
    let e := ExprCode.closed (← blockExpression inner)
    if ← sees fun lexemes => startsMember lexemes || startsOperator "?" lexemes then
      return mark (← operation inner true 0 (← suffixed inner e))
    return mark e
  return mark (← operation inner true 0 (← operandReader inner true))

/-- The code ends with a block. -/
def endsWithBlock (code : Code) : Bool :=
  match code.getLast? with
  | some (.group .brace _) => true
  | _ => false

/-- A variable. -/
def variableStatement (inner : Inner) : Reader Code := do
  let mark ← keyword "let"
  let pattern ← inner.pattern
  let colon ← optionalOperator ":"
  let type ← if colon.isEmpty then pure [] else inner.typeCode true
  let sign ← optionalOperator "="
  let value ← if sign.isEmpty then pure [] else inner.expressionCode true
  let other ←
    if !sign.isEmpty && !endsWithBlock value then
      optional (startsWord "else") do return (← keyword "else") ++ (← inner.block)
    else pure []
  return mark ++ pattern ++ colon ++ type ++ sign ++ value ++ other ++ (← operator ";")

/-- The number of lexemes of the plain path ahead. -/
def plainPathLength (lexemes : List Lexeme) : Option Nat :=
  match plainPath lexemes with
  | some (_, rest) => some (lexemes.length - rest.length)
  | none => none

/-- An invocation with braces comes next that is a statement by itself: it is not the beginning of an
expression. -/
def startsInvocationStatement (lexemes : List Lexeme) : Bool :=
  match plainPathLength lexemes with
  | some length =>
    let rest := lexemes.drop length
    startsOperator "!" rest && startsGroup .brace (rest.drop 1) &&
      !startsMember (rest.drop 2) && !startsOperator "?" (rest.drop 2)
  | none => false

/-- An invocation with a name comes next, which is a definition. -/
def startsNamedRules (lexemes : List Lexeme) : Bool :=
  match plainPathLength lexemes with
  | some length =>
    let rest := lexemes.drop (length + 1)
    startsOperator "!" (lexemes.drop length) && (startsName rest || startsWord "try" rest)
  | none => false

/-- A constant comes next, and not a closure or a block. -/
def startsConstantDefinition (lexemes : List Lexeme) : Bool :=
  let rest := lexemes.drop 1
  startsWord "const" lexemes &&
    !(startsGroup .brace rest || startsOneOf ["static", "move"] rest || startsOperator "|" rest ||
      (startsWord "async" rest && !startsOneOf ["unsafe", "extern", "fn"] (rest.drop 1)))

/-- Words with which a definition begins, and never an expression. -/
def definitionWords : List String :=
  ["pub", "extern", "use", "fn", "mod", "type", "struct", "enum", "trait", "impl", "macro"]

/-- A definition comes next. -/
def startsDefinition (lexemes : List Lexeme) : Bool :=
  let rest := lexemes.drop 1
  startsOneOf definitionWords lexemes || startsConstantDefinition lexemes ||
    startsNamedRules lexemes ||
    (startsWord "crate" lexemes && !startsOperator "::" rest) ||
    (startsWord "unsafe" lexemes && !startsGroup .brace rest) ||
    (startsWord "static" lexemes && (startsName rest || startsWord "mut" rest)) ||
    (startsWord "async" lexemes && startsOneOf ["unsafe", "extern", "fn"] rest) ||
    (startsWord "union" lexemes && startsName rest) ||
    (startsWord "auto" lexemes && startsWord "trait" rest) ||
    (startsWord "default" lexemes && startsOneOf ["unsafe", "impl"] rest)

/-- A statement, and whether it may only be the last. -/
def statement (inner : Inner) : Reader (Code × Bool) := do
  let attributes ← attributes inner
  let lexemes ← ahead
  if startsInvocationStatement lexemes then
    let head ← plainPath
    let arguments ← invocation
    return (attributes ++ head ++ arguments ++ (← optionalOperator ";"), false)
  if startsWord "let" lexemes then return (attributes ++ (← variableStatement inner), false)
  if startsDefinition lexemes then return (attributes ++ (← inner.definition), false)
  let e ← statementExpression inner
  let mark ← optionalOperator ";"
  return (attributes ++ e.code ++ mark, mark.isEmpty && e.shape != .block && e.shape != .braces)

/-- The statements of a block, up to its end. -/
def statementList (inner : Inner) : Nat → Reader Code
  | 0 => fail
  | fuel + 1 => do
    let marks ← repeated (startsOperator ";") (operator ";")
    if ← atEnd then return marks
    let (code, isLast) ← statement inner
    if ← atEnd then return marks ++ code
    if isLast then fail
    return marks ++ code ++ (← statementList inner fuel)

/-- What stands in the braces of a block. -/
def statementsReader (inner : Inner) : Reader Code := do
  statementList inner ((← ahead).length + 1)

end DaoForge.Code
