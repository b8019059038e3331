import DaoForge.Code.Grammar.Path

/-!
# DaoForge.Code.Grammar.Operator

Operators between operands. Each has a strength, and binds its operands as long as no stronger operator
stands on their other side. Operators of one strength group to the left, assignments to the right;
comparisons do not group at all, and nothing follows a range.
-/

namespace DaoForge.Code

open Reader Code.Lexeme

/-- How strongly an operator binds its operands, from the weakest. -/
inductive Strength where
  | assign
  | range
  | or
  | and
  | compare
  | bitOr
  | bitXor
  | bitAnd
  | shift
  | sum
  | product
  | cast
  deriving DecidableEq, Repr

namespace Strength

/-- Place in the order of strengths. -/
def rank : Strength → Nat
  | assign => 1
  | range => 2
  | or => 3
  | and => 4
  | compare => 5
  | bitOr => 6
  | bitXor => 7
  | bitAnd => 8
  | shift => 9
  | sum => 10
  | product => 11
  | cast => 12

/-- The least rank of an operator that takes its operand from this one on the left. -/
def above (s : Strength) : Nat := if s = assign then s.rank else s.rank + 1

end Strength

/-- The operators with two operands; one that begins with another stands before it. -/
def binaryOperators : List (String × Strength) :=
  [("+=", .assign), ("-=", .assign), ("*=", .assign), ("/=", .assign), ("%=", .assign),
    ("^=", .assign), ("&=", .assign), ("|=", .assign), ("<<=", .assign), (">>=", .assign),
    ("&&", .and), ("||", .or), ("<<", .shift), (">>", .shift), ("==", .compare), ("<=", .compare),
    ("!=", .compare), (">=", .compare), ("+", .sum), ("-", .sum), ("*", .product), ("/", .product),
    ("%", .product), ("^", .bitXor), ("&", .bitAnd), ("|", .bitOr), ("<", .compare), (">", .compare)]

/-- The operator that comes next, and how strongly it binds. -/
def operatorAhead (lexemes : List Lexeme) : Option (String × Strength) :=
  match binaryOperators.find? fun entry => startsOperator entry.1 lexemes with
  | some entry => some entry
  | none =>
    if startsOperator "=" lexemes && !startsOperator "=>" lexemes then some ("=", .assign)
    else if startsOperator "..=" lexemes then some ("..=", .range)
    else if startsOperator ".." lexemes then some ("..", .range)
    else if startsWord "as" lexemes then some ("as", .cast)
    else none

/-- An access to a member comes next. -/
def startsMember (lexemes : List Lexeme) : Bool :=
  startsOperator "." lexemes && !startsOperator ".." lexemes

/-- What stands here cannot be the end of a range that has none. -/
def endsRange (records : Bool) (lexemes : List Lexeme) : Bool :=
  lexemes.isEmpty || startsMember lexemes || (!records && startsGroup .brace lexemes) ||
    startsWord "as" lexemes ||
    startsAnyOperator
      [",", ";", "?", "=>", "=", "+", "/", "%", "^", ">", "<=", "!=", "-=", "*=", "&=", "|=", "<<="]
      lexemes

/-- What may not follow a cast: a call, an index, a member or a question mark. -/
def followsNoCast (lexemes : List Lexeme) : Bool :=
  startsMember lexemes || startsOperator "?" lexemes || startsGroup .bracket lexemes ||
    startsGroup .parenthesis lexemes

/-- The operators after `left` that have at least the rank `least`, with their operands. There are `fuel`
of them at most. -/
def operators (inner : Inner) (records : Bool) : Nat → Nat → ExprCode → Reader ExprCode
  | 0, _, _ => fail
  | fuel + 1, least, left => do
    let operand (strength : Strength) : Reader Code := do
      let first ← inner.operand records
      return (← operators inner records fuel strength.above first).code
    match operatorAhead (← ahead) with
    | none => return left
    | some (text, strength) =>
      if left.shape = .range || strength.rank < least then return left
      if strength = .compare && left.shape = .comparison then fail
      match strength with
      | .range =>
        if ← sees (startsOperator "...") then fail
        let mark ← operator text
        let upper ←
          if text == ".." && (← sees (endsRange records)) then pure [] else operand .range
        operators inner records fuel least ⟨left.code ++ mark ++ upper, .range⟩
      | .cast =>
        let mark ← keyword text
        let type ← inner.typeCode false
        if ← sees followsNoCast then fail
        operators inner records fuel least ⟨left.code ++ mark ++ type, .other⟩
      | _ =>
        let mark ← operator text
        let right ← operand strength
        operators inner records fuel least
          ⟨left.code ++ mark ++ right, if strength = .compare then .comparison else .other⟩

/-- An operand and the operators after it that have at least the rank `least`. -/
def operation (inner : Inner) (records : Bool) (least : Nat) (left : ExprCode) : Reader ExprCode := do
  operators inner records ((← ahead).length + 1) least left

/-- A range without a lower bound. -/
def openRange (inner : Inner) (records : Bool) : Reader ExprCode := do
  let lexemes ← ahead
  if startsOperator "..." lexemes then fail
  let isClosed := startsOperator "..=" lexemes
  let mark ← operator (if isClosed then "..=" else "..")
  if !isClosed && (← sees (endsRange records)) then return ⟨mark, .range⟩
  let first ← inner.operand records
  let upper ← operation inner records Strength.range.above first
  return ⟨mark ++ upper.code, .range⟩

end DaoForge.Code
