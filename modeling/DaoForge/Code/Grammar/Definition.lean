import DaoForge.Code.Grammar.Pattern
import DaoForge.Code.Grammar.Type

/-!
# DaoForge.Code.Grammar.Definition

Definitions, which a block may hold beside its statements.

```
definition ::= attribute* (pub ( … )?)? kind
kind       ::= function block | const name : type (= expression)? ; | static mut? name : type = expression ;
             | use tree ; | extern crate name (as name)? ; | unsafe? extern text? { member* }
             | unsafe? mod name (; | { definition* }) | type name generics = type where ;
             | struct name generics … | enum name generics { variant , … }
             | union name generics { field , … } | unsafe? auto? trait name generics … { member* }
             | unsafe? impl generics (!? path for)? type where { member* } | path ! name? bracket ;?
function   ::= const? async? unsafe? (extern text?)? fn name generics ( … ) (-> type)? where
generics   ::= (< parameter , … >)?
where      ::= (where predicate , …)?
```

Lifetimes are written before other parameters; generics and conditions without any are left out, and so
are the colons of parameters without bounds. What is understood but has no form of its own (a constant
with parameters, a function without a body) is kept as it is written.
-/

namespace DaoForge.Code

open Reader Code.Lexeme

/-! ## visibility -/

/-- Who may see a definition. -/
def visibility : Reader Code := do
  let mark ← optionalWord "pub"
  if mark.isEmpty then return []
  match ← ahead with
  | .group .parenthesis content :: _ =>
    if startsOneOf ["crate", "self", "super"] content && content.length == 1 then
      return mark ++ (← anyGroup)
    if startsWord "in" content then
      return mark ++ (← grouped .parenthesis do return (← keyword "in") ++ (← plainPath))
    return mark
  | _ => return mark

/-! ## generics -/

/-- A colon and bounds, which are left out if there are none. -/
def namedBounds (stops : List Lexeme → Bool) (bound : Reader Code) : Reader Code := do
  let colon ← optionalOperator ":"
  if colon.isEmpty then return []
  let bounds ← sumOf stops bound
  return if bounds.isEmpty then [] else colon ++ bounds

/-- A parameter of a definition. -/
def genericParameter (inner : Inner) : Reader Argument := do
  let attributes ← attributes inner
  let lexemes ← ahead
  if startsLifetime lexemes then
    let label ← lifetime
    return ⟨true, attributes ++ label ++ (← namedBounds (startsAnyOperator [",", ">"]) lifetime)⟩
  if startsWord "const" lexemes then
    let mark ← keyword "const"
    let label ← name
    let colon ← operator ":"
    let type ← inner.typeCode true
    let sign ← optionalOperator "="
    let value ←
      if sign.isEmpty then pure []
      else if ← sees startsName then name
      else if ← sees startsConstantArgument then constantArgument inner
      else fail
    return ⟨false, attributes ++ mark ++ label ++ colon ++ type ++ sign ++ value⟩
  if startsWord "_" lexemes then return ⟨false, attributes ++ (← anyWord)⟩
  let label ← name
  let bounds ← namedBounds (startsAnyOperator [",", ">", "="]) (nameBound inner)
  let sign ← optionalOperator "="
  let value ← if sign.isEmpty then pure [] else inner.typeCode true
  return ⟨false, attributes ++ label ++ bounds ++ sign ++ value⟩

/-- The parameters of a definition. -/
def generics (inner : Inner) : Reader Code := do
  if !(← sees (startsOperator "<")) then return []
  let _ ← operator "<"
  let parameters ← listed (startsOperator ">") "," (genericParameter inner)
  let _ ← operator ">"
  return if parameters.isEmpty then [] else Argument.write parameters

/-- Parameters come next, and not a path inside of a type. -/
def startsGenerics (lexemes : List Lexeme) : Bool :=
  let second := lexemes.drop 1
  let third := lexemes.drop 2
  startsOperator "<" lexemes &&
    (startsAnyOperator [">", "#"] second || startsWord "const" second ||
      ((startsLifetime second || startsName second) &&
        (startsAnyOperator [">", ",", "="] third ||
          (startsOperator ":" third && !startsOperator "::" third))))

/-- The conditions, or the bounds of one, end here. -/
def endsConditions (lexemes : List Lexeme) : Bool :=
  lexemes.isEmpty || startsGroup .brace lexemes || startsAnyOperator [",", ";", "="] lexemes ||
    (startsOperator ":" lexemes && !startsOperator "::" lexemes)

/-- A condition on a lifetime or a type. -/
def condition (inner : Inner) : Reader Code := do
  let lexemes ← ahead
  if startsLifetime lexemes && startsOperator ":" (lexemes.drop 1) then
    let label ← lifetime
    let colon ← operator ":"
    return label ++ colon ++ (← sumOf endsConditions lifetime)
  let lifetimes ← optionalForLifetimes inner
  let type ← inner.typeCode true
  let colon ← operator ":"
  return lifetimes ++ type ++ colon ++ (← sumOf endsConditions (nameBound inner))

/-- Conditions with commas between them, as many as `fuel` at most. -/
def conditionList (inner : Inner) : Nat → Reader Code
  | 0 => fail
  | fuel + 1 => do
    if ← sees endsConditions then return []
    let code ← condition inner
    let comma ← optionalOperator ","
    if comma.isEmpty then return code
    return code ++ comma ++ (← conditionList inner fuel)

/-- The conditions of a definition. -/
def conditions (inner : Inner) : Reader Code := do
  let mark ← optionalWord "where"
  if mark.isEmpty then return []
  if ← sees startsGenerics then fail
  let list ← conditionList inner ((← ahead).length + 1)
  return if list.isEmpty then [] else mark ++ list

/-! ## functions -/

/-- What a method is called on comes next. -/
def startsReceiver (lexemes : List Lexeme) : Bool :=
  let isReference := startsOperator "&" lexemes
  let rest := if isReference then lexemes.drop 1 else lexemes
  let rest := if isReference && startsLifetime rest then rest.drop 1 else rest
  let rest := if startsWord "mut" rest then rest.drop 1 else rest
  startsWord "self" rest && (isReference || !startsOperator "::" (rest.drop 1))

/-- What a method is called on. -/
def receiver (inner : Inner) : Reader Code := do
  let mark ← optionalOperator "&"
  let lifetime ← if mark.isEmpty then pure [] else optionalLifetime
  let mutability ← optionalWord "mut"
  let label ← keyword "self"
  let colon ← if mark.isEmpty then optionalOperator ":" else pure []
  let type ← if colon.isEmpty then pure [] else inner.typeCode true
  return mark ++ lifetime ++ mutability ++ label ++ colon ++ type

/-- A parameter of a function, and whether it stands for any number of them. A type with arguments may
stand alone. -/
def functionParameter (inner : Inner) (isFirst : Bool) : Reader (Code × Bool) := do
  let attributes ← attributes inner
  let lexemes ← ahead
  if startsOperator "..." lexemes then return (attributes ++ (← operator "..."), true)
  if startsReceiver lexemes then
    if isFirst then return (attributes ++ (← receiver inner), false) else fail
  if startsName lexemes && startsOperator "<" (lexemes.drop 1) then
    return (attributes ++ Code.word "_" ++ Code.word ":" ++ (← inner.typeCode true), false)
  let pattern ← inner.pattern
  let label := pattern ++ (← operator ":")
  if ← sees (startsOperator "...") then
    return (attributes ++ label ++ (← operator "..."), true)
  return (attributes ++ label ++ (← inner.typeCode true), false)

/-- The parameters of a function, up to the end. -/
def functionParameters (inner : Inner) (isFirst : Bool) : Nat → Reader Code
  | 0 => fail
  | fuel + 1 => do
    if ← atEnd then return []
    let (code, isLast) ← functionParameter inner isFirst
    if isLast then return code ++ (← optionalOperator ",")
    if ← atEnd then return code
    return code ++ (← operator ",") ++ (← functionParameters inner false fuel)

/-- How functions are called from other languages. -/
def convention : Reader Code :=
  optional (startsWord "extern") do
    return (← keyword "extern") ++ (← optional startsText constant)

/-- A function without its body. With `safe`, that word may stand before it. -/
def functionHead (inner : Inner) (safe : Bool) : Reader Code := do
  let constant ← optionalWord "const"
  let async ← optionalWord "async"
  let safety ←
    if safe && (← sees (startsWord "safe")) then anyWord else optionalWord "unsafe"
  let convention ← convention
  let mark ← keyword "fn"
  let label ← name
  let generics ← generics inner
  let inputs ← grouped .parenthesis do functionParameters inner true ((← ahead).length + 1)
  let arrow ← optionalOperator "->"
  let result ← if arrow.isEmpty then pure [] else inner.typeCode true
  return constant ++ async ++ safety ++ convention ++ mark ++ label ++ generics ++ inputs ++ arrow ++
    result ++ (← conditions inner)

/-- A function comes next, after words that tell how it may be called. -/
def startsFunctionHead (safe : Bool) (lexemes : List Lexeme) : Bool :=
  let skip (words : List String) (lexemes : List Lexeme) : List Lexeme :=
    if startsOneOf words lexemes then lexemes.drop 1 else lexemes
  let safety := if safe then ["unsafe", "safe"] else ["unsafe"]
  let rest := skip safety (skip ["async"] (skip ["const"] lexemes))
  let rest :=
    if startsWord "extern" rest then
      if startsText (rest.drop 1) then rest.drop 2 else rest.drop 1
    else rest
  startsWord "fn" rest

/-! ## fields -/

/-- A field with a name. -/
def namedField (inner : Inner) : Reader Code := do
  let attributes ← attributes inner
  let visible ← visibility
  let label ← name
  return attributes ++ visible ++ label ++ (← operator ":") ++ (← inner.typeCode true)

def namedFields (inner : Inner) : Reader Code := grouped .brace (commaList (namedField inner))

/-- Fields without names. -/
def plainFields (inner : Inner) : Reader Code :=
  grouped .parenthesis <| commaList do
    return (← attributes inner) ++ (← visibility) ++ (← inner.typeCode true)

/-- A variant of an enumeration. What it says of visibility is dropped. -/
def variant (inner : Inner) : Reader Code := do
  let attributes ← attributes inner
  let _ ← visibility
  let label ← name
  let lexemes ← ahead
  let fields ←
    if startsGroup .brace lexemes then namedFields inner
    else optional (startsGroup .parenthesis) (plainFields inner)
  let sign ← optionalOperator "="
  let value ← if sign.isEmpty then pure [] else inner.expressionCode true
  return attributes ++ label ++ fields ++ sign ++ value

/-- A record type, after its visibility. -/
def recordDefinition (inner : Inner) : Reader Code := do
  let mark ← keyword "struct"
  let label ← name
  let head := mark ++ label ++ (← generics inner)
  let before ← ahead
  let restrictions ← conditions inner
  let lexemes ← ahead
  if !startsWord "where" before && startsGroup .parenthesis lexemes then
    let fields ← plainFields inner
    return head ++ fields ++ (← conditions inner) ++ (← operator ";")
  if startsGroup .brace lexemes then return head ++ restrictions ++ (← namedFields inner)
  return head ++ restrictions ++ (← operator ";")

/-! ## members of other definitions -/

/-- The path of an invocation comes next. -/
def startsRules (lexemes : List Lexeme) : Bool :=
  startsName lexemes || startsOperator "::" lexemes || startsOneOf ["self", "super", "crate"] lexemes

/-- An invocation that stands for definitions. Without braces it ends with a semicolon. -/
def rules (named : Bool) : Reader Code := do
  let head ← plainPath
  let mark ← operator "!"
  let label ←
    if named && (← sees fun lexemes => startsName lexemes || startsWord "try" lexemes) then anyWord
    else pure []
  let hasBraces ← sees (startsGroup .brace)
  let arguments ← anyGroup
  let ending ← if hasBraces then pure [] else operator ";"
  return head ++ mark ++ label ++ arguments ++ ending

/-- The name of a type among members, perhaps with bounds and the type that it stands for. -/
def typeMember (inner : Inner) : Reader Code := do
  let mark ← keyword "type"
  let label ← name
  let generics ← generics inner
  let bounds ←
    namedBounds (fun lexemes => startsWord "where" lexemes || startsAnyOperator ["=", ";"] lexemes)
      (nameBound inner)
  let sign ← optionalOperator "="
  let type ← if sign.isEmpty then pure [] else inner.typeCode true
  let restrictions ← conditions inner
  return mark ++ label ++ generics ++ bounds ++ sign ++ type ++ restrictions ++ (← operator ";")

/-- A constant. One with parameters or without a value is kept as it is written where a value is
`needed`. -/
def constantDefinition (inner : Inner) (needed : Bool) : Reader Code := do
  let before ← ahead
  let mark ← keyword "const"
  let label ← if ← sees (startsWord "_") then anyWord else name
  let parameters ← generics inner
  let colon ← operator ":"
  let type ← inner.typeCode true
  let sign ← optionalOperator "="
  let value ← if sign.isEmpty then pure [] else inner.expressionCode true
  let restrictions ← conditions inner
  let ending ← operator ";"
  let after ← ahead
  if needed && (sign.isEmpty || !parameters.isEmpty || !restrictions.isEmpty) then
    return written (before.take (before.length - after.length))
  return mark ++ label ++ parameters ++ colon ++ type ++ sign ++ value ++ restrictions ++ ending

/-- A member of a trait or an implementation. -/
def memberDefinition (inner : Inner) : Reader Code := do
  let attributes ← attributes inner
  let visible ← visibility
  let default ←
    if ← sees fun lexemes => startsWord "default" lexemes && !startsOperator "!" (lexemes.drop 1) then
      anyWord
    else pure []
  let lexemes ← ahead
  let code ←
    if startsFunctionHead false lexemes then do
      let head ← functionHead inner false
      if ← sees (startsOperator ";") then pure (head ++ (← operator ";"))
      else pure (head ++ (← attributedBlock inner))
    else if startsWord "const" lexemes then constantDefinition inner false
    else if startsWord "type" lexemes then typeMember inner
    else if startsRules lexemes && visible.isEmpty && default.isEmpty then rules false
    else fail
  return attributes ++ visible ++ default ++ code

/-- A member of a block of foreign definitions. -/
def foreignMember (inner : Inner) : Reader Code := do
  let attributes ← attributes inner
  let visible ← visibility
  let lexemes ← ahead
  let code ←
    if startsFunctionHead true lexemes then
      pure ((← functionHead inner true) ++ (← operator ";"))
    else if startsWord "static" lexemes then do
      let mark ← keyword "static"
      let mutability ← optionalWord "mut"
      let label ← name
      let colon ← operator ":"
      pure (mark ++ mutability ++ label ++ colon ++ (← inner.typeCode true) ++ (← operator ";"))
    else if startsWord "type" lexemes then typeMember inner
    else if startsRules lexemes && visible.isEmpty then rules false
    else fail
  return attributes ++ visible ++ code

/-- Members in braces. -/
def members (inner : Inner) (member : Reader Code) : Reader Code :=
  grouped .brace do
    return (← innerAttributes inner) ++ (← repeated (!List.isEmpty ·) member)

/-! ## names from elsewhere -/

/-- A new name for a name. -/
def newName : Reader Code :=
  optional (startsWord "as") do
    return (← keyword "as") ++ (← if ← sees (startsWord "_") then anyWord else name)

/-- Names that are used; `fuel` bounds how deep they stand. -/
def useTree : Nat → Reader Code
  | 0 => fail
  | fuel + 1 => do
    let lexemes ← ahead
    if startsName lexemes || startsOneOf ["self", "super", "crate", "try"] lexemes then
      let label ← anyWord
      let mark ← optionalOperator "::"
      if mark.isEmpty then return label ++ (← newName)
      return label ++ mark ++ (← useTree fuel)
    if startsOperator "*" lexemes then operator "*"
    else grouped .brace (commaList (useTree fuel))

/-- Names that are used. -/
def useDefinition : Reader Code := do
  let mark ← keyword "use"
  let separator ← optionalOperator "::"
  let tree ← useTree ((← ahead).length + 1)
  return mark ++ separator ++ tree ++ (← operator ";")

/-! ## traits and implementations -/

/-- A trait, or another name for traits. -/
def traitDefinition (inner : Inner) : Reader Code := do
  let safety ← optionalWord "unsafe"
  let auto ← optionalWord "auto"
  let mark ← keyword "trait"
  let label ← name
  let head := safety ++ auto ++ mark ++ label ++ (← generics inner)
  let sign ← optionalOperator "="
  if !sign.isEmpty then
    let bounds ←
      listedCode (fun lexemes => startsWord "where" lexemes || startsOperator ";" lexemes) "+"
        (nameBound inner)
    return head ++ sign ++ bounds ++ (← conditions inner) ++ (← operator ";")
  let bounds ←
    namedBounds (fun lexemes => startsWord "where" lexemes || startsGroup .brace lexemes)
      (nameBound inner)
  return head ++ bounds ++ (← conditions inner) ++ (← members inner (memberDefinition inner))

/-- An implementation of a trait or of a type's own functions. -/
def implementation (inner : Inner) : Reader Code := do
  let default ← optionalWord "default"
  let safety ← optionalWord "unsafe"
  let mark ← keyword "impl"
  let parameters ← if ← sees startsGenerics then generics inner else pure []
  let constant ← if ← sees (startsWord "const") then anyWord else pure []
  let polarity ←
    if ← sees fun lexemes => startsOperator "!" lexemes && !startsGroup .brace (lexemes.drop 1) then
      operator "!"
    else pure []
  let first ← inner.typeCode true
  let separator ← optionalWord "for"
  if separator.isEmpty && !polarity.isEmpty then fail
  let owner ← if separator.isEmpty then pure [] else inner.typeCode true
  return default ++ safety ++ mark ++ parameters ++ constant ++ polarity ++ first ++ separator ++
    owner ++ (← conditions inner) ++ (← members inner (memberDefinition inner))

/-! ## definitions -/

/-- A definition after its attributes and visibility. -/
def definitionKind (inner : Inner) (visible : Bool) : Reader Code := do
  let lexemes ← ahead
  let rest := lexemes.drop 1
  if startsFunctionHead false lexemes then
    let head ← functionHead inner false
    if ← sees (startsOperator ";") then return head ++ (← operator ";")
    return head ++ (← attributedBlock inner)
  if startsWord "extern" lexemes && startsWord "crate" rest then
    let mark ← keyword "extern"
    let library ← keyword "crate"
    let label ← if ← sees (startsWord "self") then anyWord else name
    return mark ++ library ++ label ++ (← newName) ++ (← operator ";")
  if startsWord "extern" lexemes || (startsWord "unsafe" lexemes && startsWord "extern" rest) then
    return (← optionalWord "unsafe") ++ (← convention) ++ (← members inner (foreignMember inner))
  if startsWord "use" lexemes then useDefinition
  else if startsWord "static" lexemes then
    let mark ← keyword "static"
    let mutability ← optionalWord "mut"
    let label ← name
    let colon ← operator ":"
    let type ← inner.typeCode true
    let sign ← operator "="
    return mark ++ mutability ++ label ++ colon ++ type ++ sign ++ (← inner.expressionCode true) ++
      (← operator ";")
  else if startsWord "const" lexemes then constantDefinition inner true
  else if startsWord "mod" lexemes || (startsWord "unsafe" lexemes && startsWord "mod" rest) then
    let safety ← optionalWord "unsafe"
    let mark ← keyword "mod"
    let label ← if ← sees (startsWord "try") then anyWord else name
    if ← sees (startsOperator ";") then return safety ++ mark ++ label ++ (← operator ";")
    return safety ++ mark ++ label ++ (← members inner inner.definition)
  else if startsWord "type" lexemes then
    let mark ← keyword "type"
    let label ← name
    let parameters ← generics inner
    let restrictions ← conditions inner
    let sign ← operator "="
    let type ← inner.typeCode true
    return mark ++ label ++ parameters ++ restrictions ++ sign ++ type ++ (← operator ";")
  else if startsWord "struct" lexemes then recordDefinition inner
  else if startsWord "enum" lexemes then
    let mark ← keyword "enum"
    let label ← name
    let parameters ← generics inner
    let restrictions ← conditions inner
    return mark ++ label ++ parameters ++ restrictions ++
      (← grouped .brace (commaList (variant inner)))
  else if startsWord "union" lexemes && startsName rest then
    let mark ← keyword "union"
    let label ← name
    let parameters ← generics inner
    let restrictions ← conditions inner
    return mark ++ label ++ parameters ++ restrictions ++ (← namedFields inner)
  else if startsWord "trait" lexemes ||
      (startsOneOf ["unsafe", "auto"] lexemes && startsOneOf ["trait", "auto"] rest) then
    traitDefinition inner
  else if startsWord "impl" lexemes || startsOneOf ["unsafe", "default"] lexemes then
    implementation inner
  else if startsWord "macro" lexemes then
    asWritten do
      let _ ← keyword "macro"
      let _ ← name
      let _ ← optional (startsGroup .parenthesis) anyGroup
      if ← sees (startsGroup .brace) then anyGroup else fail
  else if !visible && startsRules lexemes then rules true
  else fail

/-- A definition. -/
def definitionReader (inner : Inner) : Reader Code := do
  let attributes ← attributes inner
  let visible ← visibility
  return attributes ++ visible ++ (← definitionKind inner !visible.isEmpty)

end DaoForge.Code
