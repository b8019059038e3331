import DaoForge.Code.Grammar.Path

/-!
# DaoForge.Code.Grammar.Type

Types and the bounds in them.

```
type     ::= ( type , … ) | ( type ) | [ type ] | [ type ; expression ] | & lifetime? mut? type
           | * const type | * mut type | ! | _ | dyn bounds | impl bounds | function
           | path | qualified | path ! bracket | lifetimes? path + bounds
function ::= lifetimes? unsafe? (extern text?)? fn ( parameter , … ) (-> type)?
bounds   ::= bound + …
bound    ::= lifetime | trait | ( trait ) | use < name , … >
trait    ::= lifetimes? const? ?? path (( type , … ) (-> type)?)?
```

The bounds of a type name one trait at least. Behind `&`, `*` and `->` a type has no bounds, since it
would not be clear whose they are.
-/

namespace DaoForge.Code

open Reader Code.Lexeme

/-! ## bounds -/

/-- The mark of a trait whose functions are constant, if the rules allow it. -/
def constantMark (rules : BoundRules) : Reader Bool := do
  let lexemes ← ahead
  let marked ←
    if startsGroup .bracket lexemes then inside .bracket (keyword "const")
    else optionalWord "const"
  if marked.isEmpty then return false
  if rules.constant then return true else fail

/-- Types in parentheses come next, perhaps after a separator that is dropped. -/
def startsParenthesized (lexemes : List Lexeme) : Bool :=
  startsGroup .parenthesis lexemes ||
    (startsOperator "::" lexemes && startsGroup .parenthesis (lexemes.drop 2))

/-- A trait, and whether its functions are constant. -/
def traitCode (inner : Inner) (rules : BoundRules) : Reader (Code × Bool) := do
  let before ← optionalForLifetimes inner
  let isConstant ← constantMark rules
  let modifier ← optionalOperator "?"
  let lifetimes ←
    if before.isEmpty && !modifier.isEmpty then optionalForLifetimes inner else pure before
  let head ← path inner false
  let inputs ←
    if !head.hasArguments && (← sees startsParenthesized) then do
      let _ ← optionalOperator "::"
      parenthesizedArguments inner
    else pure []
  return (modifier ++ lifetimes ++ head.code ++ inputs, isConstant)

/-- What a type with an opaque body makes use of. -/
def usedNames : Reader Code := do
  let opening ← keyword "use"
  let _ ← operator "<"
  let names ← listed (startsOperator ">") "," do
    if ← sees startsLifetime then return (⟨true, ← lifetime⟩ : Argument)
    if ← sees (startsWord "Self") then return ⟨false, ← anyWord⟩
    return ⟨false, ← name⟩
  let _ ← operator ">"
  return opening ++ Argument.write names

/-- A bound. One with a constant trait is kept as it is written. -/
def boundCode (inner : Inner) (rules : BoundRules) : Reader BoundCode := do
  let before ← ahead
  if startsLifetime before then return ⟨← lifetime, false⟩
  if startsWord "use" before then
    if rules.uses then return ⟨← usedNames, false⟩ else fail
  let (code, isConstant) ←
    if startsGroup .parenthesis before then do
      let (code, isConstant) ← inside .parenthesis (traitCode inner rules)
      pure (Code.parens code, isConstant)
    else traitCode inner rules
  let after ← ahead
  if isConstant then return ⟨written (before.take (before.length - after.length)), true⟩
  return ⟨code, true⟩

/-- A bound may come next, after a plus sign. -/
def startsBound (rules : BoundRules) (lexemes : List Lexeme) : Bool :=
  startsWordOfAnyKind lexemes || startsOperator "::" lexemes || startsOperator "?" lexemes ||
    startsLifetime lexemes || startsGroup .parenthesis lexemes ||
    (rules.constant && startsGroup .bracket lexemes)

/-- Bounds after a plus sign, as long as there is one; a plus sign may stand at the end. Tells whether
one of the bounds is a trait. -/
def furtherBounds (inner : Inner) (rules : BoundRules) : Nat → Reader BoundCode
  | 0 => fail
  | fuel + 1 => do
    let mark ← optionalOperator "+"
    if mark.isEmpty then return ⟨[], false⟩
    if ← sees (startsBound rules) then
      let bound ← boundCode inner rules
      let rest ← furtherBounds inner rules fuel
      return ⟨mark ++ bound.code ++ rest.code, bound.isTrait || rest.isTrait⟩
    return ⟨mark, false⟩

/-- Bounds, one of them a trait. Without `plus` there is one. -/
def traitBounds (inner : Inner) (plus : Bool) (rules : BoundRules) : Reader Code := do
  let first ← boundCode inner rules
  let rest ←
    if plus then furtherBounds inner rules ((← ahead).length + 1) else pure ⟨[], false⟩
  if first.isTrait || rest.isTrait then return first.code ++ rest.code else fail

/-- The rules for the bounds of an object. -/
def BoundRules.object : BoundRules := ⟨false, false⟩

/-- Bounds after the first in parentheses: behind each plus sign there is one. -/
def laterBounds (inner : Inner) : Reader Code :=
  repeated (startsOperator "+") do
    return (← operator "+") ++ (← boundCode inner .object).code

/-! ## functions -/

/-- A name and a colon come next. -/
def startsNamed (isFirst : Bool) (lexemes : List Lexeme) : Bool :=
  (startsName lexemes || startsWord "_" lexemes || (isFirst && startsWord "self" lexemes)) &&
    startsOperator ":" (lexemes.drop 1) && !startsOperator "::" (lexemes.drop 1)

/-- A parameter of a function type. The first may be what a method is called on. -/
def parameter (inner : Inner) (isFirst : Bool) : Reader Code := do
  let lexemes ← ahead
  if isFirst && startsWord "mut" lexemes && startsWord "self" (lexemes.drop 1) then
    asWritten do
      let _ ← keyword "mut"
      if ← sees (startsNamed true) then
        let _ ← keyword "self"
        let _ ← operator ":"
        let _ ← inner.type true
      else
        let _ ← keyword "self"
  else if startsNamed isFirst lexemes then
    return (← anyWord) ++ (← operator ":") ++ (← inner.typeCode true)
  else inner.typeCode true

/-- The dots for further parameters come next. -/
def startsDots (lexemes : List Lexeme) : Bool :=
  startsOperator "..." lexemes ||
    ((startsName lexemes || startsWord "_" lexemes) && startsOperator ":" (lexemes.drop 1) &&
      startsOperator "..." (lexemes.drop 2))

/-- The dots for further parameters. -/
def dots : Reader Code := do
  let label ←
    if ← sees (startsOperator "...") then pure []
    else pure ((← anyWord) ++ (← operator ":"))
  return label ++ (← operator "...") ++ (← optionalOperator ",")

/-- The parameters of a function type, up to the end. -/
def parameters (inner : Inner) (isFirst : Bool) : Nat → Reader Code
  | 0 => fail
  | fuel + 1 => do
    if ← atEnd then return []
    let attributes ← attributes inner
    if ← sees startsDots then return attributes ++ (← dots)
    let code ← parameter inner isFirst
    if ← atEnd then return attributes ++ code
    return attributes ++ code ++ (← operator ",") ++ (← parameters inner false fuel)

/-- A literal text comes next. -/
def startsText : List Lexeme → Bool
  | .literal text :: _ => text.startsWith "\"" || text.startsWith "r"
  | _ => false

/-- A function type, without the lifetimes it is for. -/
def functionType (inner : Inner) : Reader Code := do
  let safety ← optionalWord "unsafe"
  let convention ←
    optional (startsWord "extern") do
      return (← keyword "extern") ++ (← optional startsText constant)
  let mark ← keyword "fn"
  let inputs ←
    grouped .parenthesis do parameters inner true ((← ahead).length + 1)
  let arrow ← optionalOperator "->"
  let result ← if arrow.isEmpty then pure [] else inner.typeCode false
  return safety ++ convention ++ mark ++ inputs ++ arrow ++ result

/-! ## types -/

/-- A path as a type, and the bounds that follow it. `lifetimes` are those it is for. -/
def pathType (inner : Inner) (plus : Bool) (lifetimes : Code) : Reader TypeCode := do
  if ← sees (startsOperator "<") then return ⟨← qualifiedPath inner false, .other⟩
  let head ← path inner false
  if ← sees (startsInvocation head) then return ⟨head.code ++ (← invocation), .other⟩
  if plus && (← sees (startsOperator "+")) then
    let rest ← furtherBounds inner .object ((← ahead).length + 1)
    return ⟨lifetimes ++ head.code ++ rest.code, .other⟩
  return ⟨lifetimes ++ head.code, if lifetimes.isEmpty && head.isSingle then .single else .bound⟩

/-- What stands in the parentheses of a type, and whether it may be the first of several bounds. -/
def parenthesizedContent (inner : Inner) : Reader (Code × Bool) := do
  let lexemes ← ahead
  if lexemes.isEmpty then return ([], false)
  if startsLifetime lexemes then return (← traitBounds inner true .object, false)
  if startsOperator "?" lexemes then return ((← traitCode inner .object).1, true)
  let first ← inner.type true
  let comma ← optionalOperator ","
  if comma.isEmpty then return (first.code, first.kind != .other)
  return (first.code ++ comma ++ (← commaList (inner.typeCode true)), false)

/-- A type in parentheses, a tuple, or bounds the first of which is in parentheses. -/
def parenthesizedType (inner : Inner) (plus : Bool) : Reader TypeCode := do
  let isModified :=
    match ← ahead with
    | .group _ content :: _ => startsOperator "?" content
    | _ => false
  let (content, mayBeBound) ← inside .parenthesis (parenthesizedContent inner)
  if isModified || (plus && mayBeBound) then
    return ⟨Code.parens content ++ (← laterBounds inner), .other⟩
  return ⟨Code.parens content, .other⟩

/-- A list or an array. -/
def listType (inner : Inner) : Reader Code :=
  grouped .bracket do
    let element ← inner.typeCode true
    let mark ← optionalOperator ";"
    if mark.isEmpty then return element
    return element ++ mark ++ (← inner.expressionCode true)

/-- A pointer. -/
def pointerType (inner : Inner) : Reader Code := do
  let mark ← operator "*"
  let mutability ← if ← sees (startsWord "const") then keyword "const" else keyword "mut"
  return mark ++ mutability ++ (← inner.typeCode false)

/-- A reference. -/
def referenceType (inner : Inner) : Reader Code := do
  let mark ← operator "&"
  let lifetime ← optionalLifetime
  let mutability ← optionalWord "mut"
  return mark ++ lifetime ++ mutability ++ (← inner.typeCode false)

/-- An object. One with a star is kept as it is written. -/
def objectType (inner : Inner) (plus : Bool) : Reader Code := do
  if ← sees fun lexemes => startsOperator "*" (lexemes.drop 1) then
    asWritten do
      let _ ← keyword "dyn"
      let _ ← operator "*"
      traitBounds inner plus .object
  else return (← keyword "dyn") ++ (← traitBounds inner plus .object)

def startsFunction : List Lexeme → Bool := startsOneOf ["fn", "unsafe", "extern"]

def startsTypeName (lexemes : List Lexeme) : Bool :=
  startsName lexemes || startsOneOf ["super", "self", "Self", "crate"] lexemes

/-- A type. With `plus`, bounds may follow it. -/
def typeReader (inner : Inner) (plus : Bool) : Reader TypeCode := do
  let lifetimes ← optionalForLifetimes inner
  let lexemes ← ahead
  let other (reader : Reader Code) : Reader TypeCode := do return ⟨← reader, .other⟩
  if startsFunction lexemes then other do return lifetimes ++ (← functionType inner)
  else if startsTypeName lexemes then pathType inner plus lifetimes
  else if !lifetimes.isEmpty then fail
  else if startsOperator "::" lexemes || startsOperator "<" lexemes then pathType inner plus []
  else if startsGroup .parenthesis lexemes then parenthesizedType inner plus
  else if startsWord "dyn" lexemes then other (objectType inner plus)
  else if startsGroup .bracket lexemes then other (listType inner)
  else if startsOperator "*" lexemes then other (pointerType inner)
  else if startsOperator "&" lexemes then other (referenceType inner)
  else if startsOperator "!" lexemes then other (operator "!")
  else if startsWord "impl" lexemes then other do
    return (← keyword "impl") ++ (← traitBounds inner plus ⟨true, true⟩)
  else if startsWord "_" lexemes then other (keyword "_")
  else if startsLifetime lexemes then other (traitBounds inner true .object)
  else fail

end DaoForge.Code
