import DaoForge.Code.Reader

/-!
# DaoForge.Code.Grammar.Inner

What the parts of the grammar give each other. Types, bounds, patterns and expressions contain each other
without end, so each part is a reader that is given the readers of what it contains: `Inner`. The grammar
ties them together by counting how deep the nesting may be.

Beside its code, a reader tells what the code around it has to know.
-/

namespace DaoForge.Code

/-- A path. -/
structure PathCode where
  code : Code
  /-- No segment has arguments. -/
  isPlain : Bool
  /-- The last segment has arguments. -/
  hasArguments : Bool
  /-- There is one segment, and no separator before it. -/
  isSingle : Bool

/-- What a type is. -/
inductive TypeKind where
  /-- A path of one segment: as an argument it may be the name of what is bound. -/
  | single
  /-- A path or a trait: as the only one in parentheses it may be the first of several bounds. -/
  | bound
  | other
  deriving DecidableEq, Repr

/-- A type. -/
structure TypeCode where
  code : Code
  kind : TypeKind

/-- What a list of bounds may have besides traits and lifetimes. -/
structure BoundRules where
  /-- The lifetimes and types that are used: `use<'a, T>`. -/
  uses : Bool
  /-- Traits whose functions are constant. -/
  constant : Bool

/-- A bound. -/
structure BoundCode where
  code : Code
  isTrait : Bool

/-- What an expression is. -/
inductive Shape where
  /-- It ends with a block, so that it is a statement without a semicolon. -/
  | block
  /-- An invocation with braces. -/
  | braces
  /-- No operator may follow. -/
  | range
  /-- No other comparison may follow. -/
  | comparison
  | other
  deriving DecidableEq, Repr

/-- An expression. -/
structure ExprCode where
  code : Code
  shape : Shape

/-- Readers of what code contains. -/
structure Inner where
  /-- A type; with `true`, bounds may follow it. -/
  type : Bool → Reader TypeCode
  bound : BoundRules → Reader BoundCode
  pattern : Reader Code
  /-- An expression; with `true`, braces after a path are the fields of a record. -/
  expression : Bool → Reader ExprCode
  /-- An expression without operators between operands. -/
  operand : Bool → Reader ExprCode
  /-- An expression that ends with its first block, as statements do. -/
  statement : Reader ExprCode
  /-- What stands in the braces of a block. -/
  statements : Reader Code
  /-- A definition, as blocks and modules hold them. -/
  definition : Reader Code

namespace Inner

/-- The readers of what must not be nested any deeper. -/
def none : Inner where
  type _ := Reader.fail
  bound _ := Reader.fail
  pattern := Reader.fail
  expression _ := Reader.fail
  operand _ := Reader.fail
  statement := Reader.fail
  statements := Reader.fail
  definition := Reader.fail

/-- Code of a type. -/
def typeCode (inner : Inner) (plus : Bool) : Reader Code := TypeCode.code <$> inner.type plus

/-- Code of an expression. -/
def expressionCode (inner : Inner) (records : Bool) : Reader Code :=
  ExprCode.code <$> inner.expression records

/-- A block. -/
def block (inner : Inner) : Reader Code := Reader.grouped .brace inner.statements

end Inner

end DaoForge.Code
