import DaoForge.Code.Grammar.Operator
import DaoForge.Code.Grammar.Pattern

/-!
# DaoForge.Code.Grammar.Operand

Operands: what stands in an expression without operators between operands.

```
operand ::= attribute* (& (raw const | raw mut | mut)? operand | (* | ! | -) operand | atom suffix*)
suffix  ::= ( expression , … ) | [ expression ] | . member | . name (:: < … >)? ( … ) | . await | ?
atom    ::= constant | path | path ! bracket | path { field , … } | ( expression , … )
          | [ expression , … ] | [ expression ; expression ] | block | if | match | loop | closure
          | (break | continue | return | yield | become) … | let cases = operand … | .. … | _
```
-/

namespace DaoForge.Code

open Reader Code.Lexeme

/-- An expression that is nothing special. -/
def ExprCode.plain (code : Code) : ExprCode := ⟨code, .other⟩

/-- An expression that ends with a block. -/
def ExprCode.closed (code : Code) : ExprCode := ⟨code, .block⟩

/-! ## calls and members -/

/-- The arguments of a call. -/
def callArguments (inner : Inner) : Reader Code :=
  grouped .parenthesis (commaList (inner.expressionCode true))

/-- The members that a number with a point stands for, and whether a point comes after them. -/
def pointMembers (text : String) : Option (Code × Bool) := do
  let parts := text.splitOn "."
  let isOpen := parts.getLast? == some ""
  let numbers ← (if isOpen then parts.dropLast else parts).mapM memberNumber?
  return ((numbers.map Code.nat).intersperse (Code.word ".") |>.flatten, isOpen)

/-- A member after its point. -/
def memberSuffix (inner : Inner) : Reader Code := do
  if ← sees (startsWord "await") then return ← keyword "await"
  let (label, isName) ← member
  let lexemes ← ahead
  if isName && startsOperator "::" lexemes then
    let mark ← operator "::"
    return label ++ mark ++ (← angleArguments inner) ++ (← callArguments inner)
  if isName && startsGroup .parenthesis lexemes then return label ++ (← callArguments inner)
  return label

/-- An access to a member, or to a member of a member if a number with a point follows. -/
def memberAccess (inner : Inner) : Reader Code := do
  let mark ← operator "."
  match ← ahead with
  | .literal text :: _ =>
    if isNumber text && text.toList.contains '.' then
      let _ ← next
      match pointMembers text with
      | some (members, true) => return mark ++ members ++ Code.word "." ++ (← memberSuffix inner)
      | some (members, false) => return mark ++ members
      | none => fail
    else return mark ++ (← memberSuffix inner)
  | _ => return mark ++ (← memberSuffix inner)

/-- A suffix comes next. -/
def startsSuffix (lexemes : List Lexeme) : Bool :=
  startsGroup .parenthesis lexemes || startsGroup .bracket lexemes || startsMember lexemes ||
    startsOperator "?" lexemes

/-- A suffix. -/
def suffix (inner : Inner) : Reader Code := do
  let lexemes ← ahead
  if startsGroup .parenthesis lexemes then callArguments inner
  else if startsGroup .bracket lexemes then grouped .bracket (inner.expressionCode true)
  else if startsMember lexemes then memberAccess inner
  else operator "?"

/-- An expression with the suffixes after it. -/
def suffixed (inner : Inner) (e : ExprCode) : Reader ExprCode := do
  if e.shape = .range then return e
  let suffixes ← repeated startsSuffix (suffix inner)
  if suffixes.isEmpty then return e else return .plain (e.code ++ suffixes)

/-! ## paths, tuples and lists -/

/-- The fields of a record, up to the end. -/
def fieldValues (inner : Inner) : Nat → Reader Code
  | 0 => fail
  | fuel + 1 => do
    if ← atEnd then return []
    if ← sees startsRange then
      let mark ← operator ".."
      if ← atEnd then return mark else return mark ++ (← inner.expressionCode true)
    let attributes ← attributes inner
    let (label, isName) ← member
    let value ←
      if !isName || (← sees (startsOperator ":")) then
        pure ((← operator ":") ++ (← inner.expressionCode true))
      else pure []
    let field := attributes ++ label ++ value
    if ← atEnd then return field
    return field ++ (← operator ",") ++ (← fieldValues inner fuel)

/-- A path, an invocation or a record. -/
def pathExpression (inner : Inner) (records : Bool) : Reader ExprCode := do
  let head ← pathOperand inner
  let lexemes ← ahead
  if startsInvocation head lexemes then
    let hasBraces := startsGroup .brace (lexemes.drop 1)
    return ⟨head.code ++ (← invocation), if hasBraces then .braces else .other⟩
  if records && startsGroup .brace lexemes then
    return .plain (head.code ++ (← grouped .brace do fieldValues inner ((← ahead).length + 1)))
  return .plain head.code

/-- A list of elements, or one element and how often it is there. -/
def elements (inner : Inner) : Reader Code := do
  if ← atEnd then return []
  let first ← inner.expressionCode true
  if ← sees (startsOperator ";") then
    return first ++ (← operator ";") ++ (← inner.expressionCode true)
  if ← atEnd then return first
  return first ++ (← operator ",") ++ (← commaList (inner.expressionCode true))

/-! ## blocks and what has them -/

/-- The label of a loop or block. -/
def loopLabel : Reader Code := do return (← lifetime) ++ (← operator ":")

/-- A condition with the blocks for both cases; there are `fuel` conditions at most. -/
def conditional (inner : Inner) : Nat → Reader Code
  | 0 => fail
  | fuel + 1 => do
    let mark ← keyword "if"
    let condition ← inner.expressionCode false
    let block ← inner.block
    let other ← optionalWord "else"
    if other.isEmpty then return mark ++ condition ++ block
    let rest ← if ← sees (startsWord "if") then conditional inner fuel else inner.block
    return mark ++ condition ++ block ++ other ++ rest

/-- One arm of a match. Between arms there is a comma, unless the arm ends with a block. -/
def matchArm (inner : Inner) : Reader Code := do
  let attributes ← attributes inner
  let pattern ← cases inner
  let guard ←
    optional (startsWord "if") do return (← keyword "if") ++ (← inner.expressionCode true)
  let arrow ← operator "=>"
  let body ← inner.statement
  let comma ←
    if body.shape = .block || (← atEnd) then optionalOperator "," else operator ","
  return attributes ++ pattern ++ guard ++ arrow ++ body.code ++ comma

/-- A loop, or a block with a label. -/
def loopExpression (inner : Inner) : Reader Code := do
  let lexemes ← ahead
  if startsWord "while" lexemes then
    return (← keyword "while") ++ (← inner.expressionCode false) ++ (← attributedBlock inner)
  if startsWord "for" lexemes then
    let mark ← keyword "for"
    let pattern ← cases inner
    return mark ++ pattern ++ (← keyword "in") ++ (← inner.expressionCode false) ++
      (← attributedBlock inner)
  if startsWord "loop" lexemes then return (← keyword "loop") ++ (← attributedBlock inner)
  attributedBlock inner

/-- A match. -/
def matchExpression (inner : Inner) : Reader Code := do
  let mark ← keyword "match"
  let subject ← inner.expressionCode false
  return mark ++ subject ++
    (← grouped .brace do
      return (← innerAttributes inner) ++ (← repeated (!List.isEmpty ·) (matchArm inner)))

/-- The lifetimes of a closure come next, and not a loop. -/
def startsForLifetimes (lexemes : List Lexeme) : Bool :=
  startsWord "for" lexemes && startsOperator "<" (lexemes.drop 1) &&
    (startsLifetime (lexemes.drop 2) || startsOperator ">" (lexemes.drop 2))

/-- An expression with a block at its end comes next. -/
def startsBlockExpression (lexemes : List Lexeme) : Bool :=
  let rest := lexemes.drop 1
  startsOneOf ["if", "while", "loop", "match", "unsafe"] lexemes ||
    (startsWord "for" lexemes && !startsForLifetimes lexemes) ||
    (startsOneOf ["try", "const"] lexemes && startsGroup .brace rest) ||
    startsGroup .brace lexemes || startsLifetime lexemes

/-- An expression with a block at its end. -/
def blockExpression (inner : Inner) : Reader Code := do
  let lexemes ← ahead
  if startsWord "if" lexemes then conditional inner (lexemes.length + 1)
  else if startsWord "match" lexemes then matchExpression inner
  else if startsOneOf ["unsafe", "const"] lexemes then
    return (← anyWord) ++ (← attributedBlock inner)
  else if startsWord "try" lexemes then return (← keyword "try") ++ (← inner.block)
  else if startsLifetime lexemes then
    let label ← loopLabel
    if ← sees fun lexemes =>
        startsOneOf ["while", "for", "loop"] lexemes || startsGroup .brace lexemes then
      return label ++ (← loopExpression inner)
    else fail
  else loopExpression inner

/-! ## closures -/

/-- A closure comes next. -/
def startsClosure (lexemes : List Lexeme) : Bool :=
  let rest := lexemes.drop 1
  startsOperator "|" lexemes || startsOneOf ["move", "static"] lexemes ||
    startsForLifetimes lexemes || (startsWord "const" lexemes && !startsGroup .brace rest) ||
    (startsWord "async" lexemes && (startsOperator "|" rest || startsWord "move" rest))

/-- A parameter of a closure. -/
def closureParameter (inner : Inner) : Reader Code := do
  let attributes ← attributes inner
  let pattern ← inner.pattern
  let mark ← optionalOperator ":"
  let type ← if mark.isEmpty then pure [] else inner.typeCode true
  return attributes ++ pattern ++ mark ++ type

/-- A closure. If it names the type of its result, its body is a block. -/
def closure (inner : Inner) (records : Bool) : Reader Code := do
  let lifetimes ← optionalForLifetimes inner
  let constant ← optionalWord "const"
  let static ← optionalWord "static"
  let async ← optionalWord "async"
  let move ← optionalWord "move"
  let left ← operator "|"
  let parameters ← listedCode (startsOperator "|") "," (closureParameter inner)
  let right ← operator "|"
  let arrow ← optionalOperator "->"
  let body ←
    if arrow.isEmpty then inner.expressionCode records
    else pure ((← inner.typeCode true) ++ (← inner.block))
  return lifetimes ++ constant ++ static ++ async ++ move ++ left ++ parameters ++ right ++ arrow ++
    body

/-! ## jumps -/

/-- An expression may begin here. -/
def startsExpression (lexemes : List Lexeme) : Bool :=
  let bare (mark : String) (longer : List String) : Bool :=
    startsOperator mark lexemes && !longer.any fun text => startsOperator text lexemes
  startsWordOfAnyKind lexemes || startsGroup .parenthesis lexemes ||
    startsGroup .bracket lexemes || startsGroup .brace lexemes || startsConstant lexemes ||
    bare "!" ["!="] || bare "-" ["-=", "->"] || bare "*" ["*="] || bare "|" ["|="] ||
    bare "&" ["&="] || startsOperator ".." lexemes || bare "<" ["<=", "<<="] ||
    startsOperator "::" lexemes || startsLifetime lexemes || startsOperator "#" lexemes

/-- A jump out of a loop or block, with the value it gives. -/
def breakExpression (inner : Inner) (records : Bool) : Reader Code := do
  let mark ← keyword "break"
  let label ← optionalLifetime
  let lexemes ← ahead
  if !label.isEmpty && startsOperator ":" lexemes then fail
  if startsExpression lexemes && (records || !startsGroup .brace lexemes) then
    return mark ++ label ++ (← inner.expressionCode records)
  return mark ++ label

/-- A word, with the value that it gives. -/
def jump (inner : Inner) (text : String) : Reader Code := do
  let mark ← keyword text
  return mark ++ (← optional startsExpression (inner.expressionCode true))

/-! ## operands -/

/-- A task: a block that runs later. -/
def startsTask (lexemes : List Lexeme) : Bool :=
  startsWord "async" lexemes &&
    (startsGroup .brace (lexemes.drop 1) ||
      (startsWord "move" (lexemes.drop 1) && startsGroup .brace (lexemes.drop 2)))

/-- An operand without signs before it and suffixes after it. -/
def atom (inner : Inner) (records : Bool) : Reader ExprCode := do
  let lexemes ← ahead
  let rest := lexemes.drop 1
  let plain (reader : Reader Code) : Reader ExprCode := ExprCode.plain <$> reader
  if startsConstant lexemes then plain constant
  else if startsTask lexemes then plain do
    return (← keyword "async") ++ (← optionalWord "move") ++ (← inner.block)
  else if startsClosure lexemes then plain (closure inner records)
  else if startsPath lexemes ||
      (startsWord "try" lexemes && (startsOperator "!" rest || startsOperator "::" rest)) then
    pathExpression inner records
  else if startsGroup .parenthesis lexemes then
    plain (grouped .parenthesis (commaList (inner.expressionCode true)))
  else if startsWord "break" lexemes then plain (breakExpression inner records)
  else if startsWord "continue" lexemes then plain do
    return (← keyword "continue") ++ (← optionalLifetime)
  else if startsWord "return" lexemes then plain (jump inner "return")
  else if startsWord "yield" lexemes then plain (jump inner "yield")
  else if startsWord "become" lexemes then plain do
    return (← keyword "become") ++ (← inner.expressionCode true)
  else if startsGroup .bracket lexemes then plain (grouped .bracket (elements inner))
  else if startsWord "let" lexemes then plain do
    let mark ← keyword "let"
    let pattern ← cases inner
    let sign ← operator "="
    let value ← operation inner records Strength.compare.rank (← inner.operand records)
    return mark ++ pattern ++ sign ++ value.code
  else if startsBlockExpression lexemes then ExprCode.closed <$> blockExpression inner
  else if startsRange lexemes then openRange inner records
  else if startsWord "_" lexemes then plain (keyword "_")
  else fail

/-- A reference. -/
def referenceExpression (inner : Inner) (records : Bool) : Reader Code := do
  let mark ← operator "&"
  let isRaw ← sees fun lexemes =>
    startsWord "raw" lexemes && startsOneOf ["mut", "const"] (lexemes.drop 1)
  let kind ←
    if isRaw then pure ((← keyword "raw") ++ (← anyWord)) else optionalWord "mut"
  return mark ++ kind ++ (← inner.operand records).code

/-- An operand. A range without a lower bound has no attributes. -/
def operandReader (inner : Inner) (records : Bool) : Reader ExprCode := do
  let attributes ← attributes inner
  let lexemes ← ahead
  if startsOperator "&" lexemes then
    return .plain (attributes ++ (← referenceExpression inner records))
  match ["*", "!", "-"].find? fun mark => startsOperator mark lexemes with
  | some mark => return .plain (attributes ++ (← operator mark) ++ (← inner.operand records).code)
  | none =>
    let e ← suffixed inner (← atom inner records)
    if !attributes.isEmpty && e.shape = .range then fail
    return ⟨attributes ++ e.code, e.shape⟩

/-- An expression. -/
def expressionReader (inner : Inner) (records : Bool) : Reader ExprCode := do
  operation inner records 0 (← operandReader inner records)

end DaoForge.Code
