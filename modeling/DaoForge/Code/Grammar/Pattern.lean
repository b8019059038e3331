import DaoForge.Code.Grammar.Path

/-!
# DaoForge.Code.Grammar.Pattern

Patterns, as they stand in the arms and parameters of an expression.

```
cases    ::= |? pattern | …
pattern  ::= _ | .. | ref? mut? name (@ pattern)? | & mut? pattern | ( cases , … ) | [ cases , … ]
           | path | qualified | path ! bracket | path ( cases , … ) | path { field , … }
           | bound | bound? (.. | ..= | ...) bound? | const block
bound    ::= constant | path | qualified | const block
field    ::= name : cases | ref? mut? name | ..
```
-/

namespace DaoForge.Code

open Reader Code.Lexeme

/-- A further case comes next. -/
def startsCase (lexemes : List Lexeme) : Bool :=
  startsOperator "|" lexemes && !startsOperator "||" lexemes && !startsOperator "|=" lexemes

/-- Patterns any of which may match. -/
def cases (inner : Inner) : Reader Code := do
  let mark ← optionalOperator "|"
  let first ← inner.pattern
  let rest ← repeated startsCase do return (← operator "|") ++ (← inner.pattern)
  return mark ++ first ++ rest

/-! ## paths and ranges -/

/-- A path in an expression or a pattern. -/
def pathOperand (inner : Inner) : Reader PathCode := do
  if ← sees (startsOperator "<") then return ⟨← qualifiedPath inner true, false, false, false⟩
  path inner true

/-- A path in an expression or a pattern comes next. -/
def startsPath (lexemes : List Lexeme) : Bool :=
  startsName lexemes || startsOperator "::" lexemes || startsOperator "<" lexemes ||
    startsOneOf ["self", "Self", "super", "crate"] lexemes

/-- A block that is evaluated at once. -/
def constantBlock (inner : Inner) : Reader Code := do
  return (← keyword "const") ++ (← attributedBlock inner)

/-- The pattern ends here, so that a range has no upper bound. -/
def endsPattern (lexemes : List Lexeme) : Bool :=
  lexemes.isEmpty || startsOperator "|" lexemes || startsOperator "=" lexemes ||
    (startsOperator ":" lexemes && !startsOperator "::" lexemes) || startsOperator "," lexemes ||
    startsOperator ";" lexemes || startsWord "if" lexemes

/-- A bound of a range. -/
def rangeBound (inner : Inner) : Reader Code := do
  let lexemes ← ahead
  if startsConstant lexemes then constant
  else if startsPath lexemes then return (← pathOperand inner).code
  else if startsWord "const" lexemes then constantBlock inner
  else fail

/-- A range, its lower bound taken. Three dots are an old way to write the closed range. -/
def rangeRest (inner : Inner) (lower : Code) : Reader Code := do
  let lexemes ← ahead
  let isClosed := startsOperator "..=" lexemes || startsOperator "..." lexemes
  let mark ←
    if startsOperator "..." lexemes then do
      let _ ← operator "..."
      pure (Code.word "..=")
    else if startsOperator "..=" lexemes then operator "..="
    else operator ".."
  if ← sees endsPattern then
    if isClosed then fail else return lower ++ mark
  return lower ++ mark ++ (← rangeBound inner)

/-- What the range goes on with comes next. -/
def startsRange (lexemes : List Lexeme) : Bool := startsOperator ".." lexemes

/-! ## records -/

/-- The number of a member: any integer of 32 bits without a name at its end. -/
def memberNumber? (text : String) : Option Nat := do
  let (base, digits) :=
    match text.toList with
    | '0' :: 'x' :: digits => (16, digits)
    | '0' :: 'o' :: digits => (8, digits)
    | '0' :: 'b' :: digits => (2, digits)
    | digits => (10, digits)
  let values ← (digits.filter (· != '_')).mapM CharClass.hexDigitValue?
  let number := values.foldl (fun value digit => base * value + digit) 0
  if values.all (· < base) && number < Nat.pow 2 32 then some number else none

/-- The name or number of a member, and whether it is a name. -/
def member : Reader (Code × Bool) := do
  match ← ahead with
  | .literal text :: _ =>
    let _ ← next
    match memberNumber? text with
    | some number => return (Code.nat number, false)
    | none => fail
  | _ => return (← name, true)

/-- A field of a record pattern. -/
def fieldPattern (inner : Inner) : Reader Code := do
  let box ← optionalWord "box"
  let reference ← optionalWord "ref"
  let mutability ← optionalWord "mut"
  let modifiers := box ++ reference ++ mutability
  if modifiers.isEmpty then
    let (label, isName) ← member
    if !isName || (← sees (startsOperator ":")) then
      return label ++ (← operator ":") ++ (← cases inner)
    return label
  return modifiers ++ (← name)

/-- The fields of a record pattern, up to the end. -/
def fieldPatterns (inner : Inner) : Nat → Reader Code
  | 0 => fail
  | fuel + 1 => do
    if ← atEnd then return []
    let attributes ← attributes inner
    if ← sees startsRange then return attributes ++ (← operator "..")
    let field ← fieldPattern inner
    if ← atEnd then return attributes ++ field
    return attributes ++ field ++ (← operator ",") ++ (← fieldPatterns inner fuel)

/-- A pattern that begins with a path. -/
def pathPattern (inner : Inner) : Reader Code := do
  let head ← pathOperand inner
  let lexemes ← ahead
  if startsInvocation head lexemes then return head.code ++ (← invocation)
  if startsGroup .brace lexemes then
    return head.code ++ (← grouped .brace do fieldPatterns inner ((← ahead).length + 1))
  if startsGroup .parenthesis lexemes then
    return head.code ++ (← grouped .parenthesis (commaList (cases inner)))
  if startsRange lexemes then rangeRest inner head.code
  else return head.code

/-! ## patterns -/

/-- A pattern that begins with a path comes next, and not a name of its own. -/
def startsPathPattern (lexemes : List Lexeme) : Bool :=
  let rest := lexemes.drop 1
  (startsName lexemes &&
      (startsOperator "::" rest || startsOperator "!" rest || startsGroup .brace rest ||
        startsGroup .parenthesis rest || startsRange rest)) ||
    (startsWord "self" lexemes && startsOperator "::" rest) || startsOperator "::" lexemes ||
    startsOperator "<" lexemes || startsOneOf ["Self", "super", "crate"] lexemes

/-- A name that is bound, perhaps to what another pattern matches. -/
def namePattern (inner : Inner) : Reader Code := do
  let reference ← optionalWord "ref"
  let mutability ← optionalWord "mut"
  let head ← if ← sees (startsWord "self") then anyWord else name
  let mark ← optionalOperator "@"
  let whole ← if mark.isEmpty then pure [] else inner.pattern
  return reference ++ mutability ++ head ++ mark ++ whole

/-- The code is a range with one bound. -/
def isOpenRange (code : Code) : Bool :=
  let isWord (words : List String) : Token → Bool
    | .word text => words.contains text
    | _ => false
  1 < code.length && !code.any (isWord ["|", "@", "&", "box"]) &&
    (code.head?.any (isWord ["..", "..="]) || code.getLast?.any (isWord [".."]))

/-- An element of a list. A range with one bound would need parentheses. -/
def elementPattern (inner : Inner) : Reader Code := do
  let code ← cases inner
  if isOpenRange code then fail else return code

/-- A pattern. -/
def patternReader (inner : Inner) : Reader Code := do
  let lexemes ← ahead
  if startsPathPattern lexemes then pathPattern inner
  else if startsWord "_" lexemes then keyword "_"
  else if startsWord "box" lexemes then return (← keyword "box") ++ (← inner.pattern)
  else if startsConstant lexemes || startsWord "const" lexemes then
    let lower ← rangeBound inner
    if ← sees startsRange then rangeRest inner lower else return lower
  else if startsOneOf ["ref", "mut", "self"] lexemes || startsName lexemes then namePattern inner
  else if startsOperator "&" lexemes then
    let mark ← operator "&"
    let mutability ← optionalWord "mut"
    return mark ++ mutability ++ (← inner.pattern)
  else if startsGroup .parenthesis lexemes then grouped .parenthesis (commaList (cases inner))
  else if startsGroup .bracket lexemes then grouped .bracket (commaList (elementPattern inner))
  else if startsRange lexemes && !startsOperator "..." lexemes then rangeRest inner []
  else fail

end DaoForge.Code
