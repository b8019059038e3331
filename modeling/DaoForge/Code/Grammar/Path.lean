import DaoForge.Code.Grammar.Inner

/-!
# DaoForge.Code.Grammar.Path

Paths and what stands in them and before them.

```
attribute ::= # [ plain ( = expression | bracket )? ]
lifetimes ::= for < lifetime , … >
path      ::= ::? segment (:: segment)*
qualified ::= < type (as path)? > (:: segment)+
segment   ::= name (::? < argument , … >)?
argument  ::= lifetime | constant | block | name < … >? = (type | constant | block)
            | name < … >? : bounds | type
```

Keywords are no names, but `self`, `super`, `crate` and `try` may be segments without arguments, and
`Self` may have them. Where an expression stands, arguments need the separator before them. Lifetimes are
written before the other arguments.
-/

namespace DaoForge.Code

open Reader Code.Lexeme

/-! ## plain paths and attributes -/

/-- A segment of a plain path comes next. -/
def startsSegment (lexemes : List Lexeme) : Bool :=
  startsName lexemes || startsOneOf ["super", "self", "Self", "crate"] lexemes

/-- Segments of a plain path, as many as `fuel` at most. -/
def plainSegments : Nat → Reader Code
  | 0 => fail
  | fuel + 1 => do
    if ← sees startsSegment then
      let segment ← anyWord
      let mark ← optionalOperator "::"
      if mark.isEmpty then return segment
      return segment ++ mark ++ (← plainSegments fuel)
    fail

/-- A path without arguments. -/
def plainPath : Reader Code := do
  let mark ← optionalOperator "::"
  return mark ++ (← plainSegments ((← ahead).length + 1))

/-- What an attribute says: a path with an expression or a bracket. -/
def attributeBody (inner : Inner) : Reader Code := do
  let path ← if ← sees (startsWord "unsafe") then keyword "unsafe" else plainPath
  match ← ahead with
  | .group .. :: _ => return path ++ (← anyGroup)
  | lexemes =>
    if startsOperator "=" lexemes && !startsOperator "==" lexemes && !startsOperator "=>" lexemes then
      let mark ← operator "="
      if ← sees fun lexemes => startsOperator "#" lexemes && startsGroup .bracket (lexemes.drop 1) then
        fail
      return path ++ mark ++ (← inner.expressionCode true)
    return path

/-- An attribute. -/
def singleAttribute (inner : Inner) : Reader Code := do
  return (← operator "#") ++ (← grouped .bracket (attributeBody inner))

/-- Attributes of what follows. -/
def attributes (inner : Inner) : Reader Code := repeated (startsOperator "#") (singleAttribute inner)

/-- An attribute of the code around it comes next. -/
def startsInnerAttribute (lexemes : List Lexeme) : Bool :=
  startsOperator "#" lexemes && startsOperator "!" (lexemes.drop 1)

/-- Attributes of the code around them. -/
def innerAttributes (inner : Inner) : Reader Code :=
  repeated startsInnerAttribute do
    return (← operator "#") ++ (← operator "!") ++ (← grouped .bracket (attributeBody inner))

/-- A block that may have attributes in it. -/
def attributedBlock (inner : Inner) : Reader Code :=
  grouped .brace do return (← innerAttributes inner) ++ (← inner.statements)

/-! ## lifetimes of a type or bound -/

/-- Lifetimes that what follows is for. -/
def forLifetimes (inner : Inner) : Reader Code := do
  let opening ← keyword "for"
  let left ← operator "<"
  let lifetimes ← listedCode (startsOperator ">") "," do
    return (← attributes inner) ++ (← lifetime)
  return opening ++ left ++ lifetimes ++ (← operator ">")

def optionalForLifetimes (inner : Inner) : Reader Code :=
  optional (startsWord "for") (forLifetimes inner)

/-! ## arguments -/

/-- An argument, told apart by whether it is a lifetime. -/
structure Argument where
  isLifetime : Bool
  code : Code

namespace Argument

/-- Arguments one after the other. A comma is added where the one before has none. -/
def writeAll (separated : Bool) : List (Item Argument) → Code
  | [] => []
  | a :: rest =>
    (if separated then [] else Code.word ",") ++ a.value.code ++ a.separator ++
      writeAll (!a.separator.isEmpty) rest

/-- Arguments in angle brackets, lifetimes first. -/
def write (arguments : List (Item Argument)) : Code :=
  let lifetimes := arguments.filter fun a => a.value.isLifetime
  let others := arguments.filter fun a => !a.value.isLifetime
  let separated := (lifetimes.getLast?.map fun a => !a.separator.isEmpty).getD true
  Code.word "<" ++ (lifetimes.flatMap fun a => a.value.code ++ a.separator) ++
    writeAll separated others ++ Code.word ">"

end Argument

/-- A constant or a block. -/
def constantArgument (inner : Inner) : Reader Code := do
  if ← sees startsConstant then constant else attributedBlock inner

def startsConstantArgument (lexemes : List Lexeme) : Bool :=
  startsConstant lexemes || startsGroup .brace lexemes

/-- Items with plus signs between them, as many as `fuel` at most. -/
def summands (stops : List Lexeme → Bool) (item : Reader Code) : Nat → Reader Code
  | 0 => fail
  | fuel + 1 => do
    if ← sees stops then return []
    let code ← item
    let mark ← optionalOperator "+"
    if mark.isEmpty then return code
    return code ++ mark ++ (← summands stops item fuel)

/-- Items with plus signs between them. Where the list stops, there may be none, or a plus sign after the
last. -/
def sumOf (stops : List Lexeme → Bool) (item : Reader Code) : Reader Code := do
  summands stops item ((← ahead).length + 1)

/-- A bound of a name, and not of an object. -/
def nameBound (inner : Inner) : Reader Code := BoundCode.code <$> inner.bound ⟨false, true⟩

/-- Any of some operators comes next. -/
def startsAnyOperator (texts : List String) (lexemes : List Lexeme) : Bool :=
  texts.any fun text => startsOperator text lexemes

/-- An argument. -/
def argument (inner : Inner) : Reader Argument := do
  let lexemes ← ahead
  if startsLifetime lexemes && !startsOperator "+" (lexemes.drop 1) then
    return ⟨true, ← lifetime⟩
  if startsConstantArgument lexemes then return ⟨false, ← constantArgument inner⟩
  let type ← inner.type true
  if type.kind = .single then
    let lexemes ← ahead
    if startsOperator "=" lexemes then
      let mark ← operator "="
      let value ←
        if ← sees startsConstantArgument then constantArgument inner else inner.typeCode true
      return ⟨false, type.code ++ mark ++ value⟩
    if startsOperator ":" lexemes then
      let mark ← operator ":"
      return ⟨false, type.code ++ mark ++ (← sumOf (startsAnyOperator [",", ">"]) (nameBound inner))⟩
  return ⟨false, type.code⟩

/-- Arguments in angle brackets. -/
def angleArguments (inner : Inner) : Reader Code := do
  let _ ← operator "<"
  let arguments ← listed (startsOperator ">") "," (argument inner)
  let _ ← operator ">"
  return Argument.write arguments

/-- Argument types in parentheses, and the type of the result. -/
def parenthesizedArguments (inner : Inner) : Reader Code := do
  let inputs ← grouped .parenthesis (commaList (inner.typeCode true))
  let arrow ← optionalOperator "->"
  if arrow.isEmpty then return inputs
  return inputs ++ arrow ++ (← inner.typeCode false)

/-! ## paths -/

/-- Angle brackets with arguments come next. In an expression they need a separator. -/
def startsArguments (inExpression : Bool) (lexemes : List Lexeme) : Bool :=
  (!inExpression && startsOperator "<" lexemes && !startsOperator "<=" lexemes &&
      !startsOperator "<<=" lexemes) ||
    (startsOperator "::" lexemes && startsOperator "<" (lexemes.drop 2))

/-- A segment and its arguments. -/
def segment (inner : Inner) (inExpression : Bool) : Reader (Code × Code) := do
  if ← sees (startsOneOf ["super", "self", "crate", "try"]) then return (← anyWord, [])
  let head ← if ← sees (startsWord "Self") then anyWord else name
  if ← sees (startsArguments inExpression) then
    let mark ← optionalOperator "::"
    return (head, mark ++ (← angleArguments inner))
  return (head, [])

/-- A further segment comes next. -/
def startsFurther (lexemes : List Lexeme) : Bool :=
  startsOperator "::" lexemes && !startsGroup .parenthesis (lexemes.drop 2)

/-- Segments after those in `path`, as many as `fuel` at most. -/
def furtherSegments (inner : Inner) (inExpression : Bool) (goesOn : List Lexeme → Bool)
    (path : PathCode) : Nat → Reader PathCode
  | 0 => fail
  | fuel + 1 => do
    if ← sees goesOn then
      let mark ← operator "::"
      let (head, arguments) ← segment inner inExpression
      let path : PathCode :=
        ⟨path.code ++ mark ++ head ++ arguments, path.isPlain && arguments.isEmpty,
          !arguments.isEmpty, false⟩
      furtherSegments inner inExpression goesOn path fuel
    else return path

/-- A path. -/
def path (inner : Inner) (inExpression : Bool) : Reader PathCode := do
  let mark ← optionalOperator "::"
  let (head, arguments) ← segment inner inExpression
  let first : PathCode :=
    ⟨mark ++ head ++ arguments, arguments.isEmpty, !arguments.isEmpty, mark.isEmpty⟩
  furtherSegments inner inExpression startsFurther first ((← ahead).length + 1)

/-- A path inside of a type. -/
def qualifiedPath (inner : Inner) (inExpression : Bool) : Reader Code := do
  let left ← operator "<"
  let owner ← inner.typeCode true
  let mark ← optionalWord "as"
  let target ← if mark.isEmpty then pure [] else PathCode.code <$> path inner false
  let first : PathCode := ⟨left ++ owner ++ mark ++ target ++ (← operator ">"), false, false, false⟩
  if ← sees (startsOperator "::") then
    PathCode.code <$>
      furtherSegments inner inExpression (startsOperator "::") first ((← ahead).length + 1)
  else fail

/-! ## invocations -/

/-- The arguments of an invocation come next, after its path. -/
def startsInvocation (path : PathCode) (lexemes : List Lexeme) : Bool :=
  path.isPlain && startsOperator "!" lexemes && !startsOperator "!=" lexemes

/-- The arguments of an invocation: a bracket with anything inside of it. -/
def invocation : Reader Code := do return (← operator "!") ++ (← anyGroup)

end DaoForge.Code
