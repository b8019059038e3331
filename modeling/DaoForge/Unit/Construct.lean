import DaoForge.Unit.Value

/-!
# DaoForge.Unit.Construct

Expressions that build a struct, by its constructor function or as a literal.

A property that is not stored has no value: a literal takes the default of its type, and a constructor
function cannot be called. An optional embedded struct is absent if all its stored columns are NULL.
-/

namespace DaoForge

/-- An expression that builds a value. -/
inductive Build where
  | read (read : Read)
  | variable (name : Ident)
  /-- The default of the type. -/
  | default
  | call (owner : Code) (function : Ident) (arguments : List Build)
  | literal (owner : Code) (fields : List (Ident × Build))
  /-- Absent if all the columns are NULL. -/
  | unlessNull (columns : List String) (value : Build)
  deriving Repr

/-- Builds a struct. `argument` gives the value of a property, none if it is not stored. -/
def Construction.build (owner : String) (c : Construction)
    (argument : String → Except GenerationError (Option Build)) : Except GenerationError Build := do
  let path ← Code.ofPath owner
  match c.function with
  | some function =>
    let function ← Ident.of function
    let arguments ← c.parameters.mapM fun parameter => do
      match ← argument parameter with
      | some value => pure value
      | none => throw (.unmatchedConstructorParameter owner parameter)
    return .call path function arguments
  | none =>
    let fields ← c.parameters.mapM fun parameter => do
      let field ← Ident.of parameter
      return (field, (← argument parameter).getD .default)
    return .literal path fields

/-- The value of the first property of a name. -/
def argumentNamed (owner : String)
    (arguments : List (String × Except GenerationError (Option Build))) (parameter : String) :
    Except GenerationError (Option Build) :=
  match arguments.find? fun a => a.1 == parameter with
  | some (_, value) => value
  | none => .error (.unmatchedConstructorParameter owner parameter)

namespace Member

mutual

/-- The value of a member, read from the row; none if it is not stored. -/
def argument : Member → Except GenerationError (Option Build)
  | .column c =>
    match c.mapping with
    | some mapping =>
      if c.isStored then (Read.of (.column c.name) c.type mapping).map (some ∘ Build.read)
      else .ok none
    | none => .ok none
  | .embedded e members => do
    let value ← e.construction.build e.type.name (argumentNamed e.type.name (arguments members))
    if e.isNullable then
      return some (.unlessNull (((columnsOf members).filter Column.isStored).map Column.name) value)
    else return some value

/-- The values of members, by property. -/
def arguments : List Member → List (String × Except GenerationError (Option Build))
  | [] => []
  | m :: rest => (m.property, argument m) :: arguments rest

end

end Member

/-- Builds an entity from the current row. -/
def Entity.build (e : Entity) : Except GenerationError Build :=
  e.construction.build e.declaration (argumentNamed e.declaration (Member.arguments e.members))

/-! ## code -/

namespace Build

mutual

def code (n : Naming) : Build → Code
  | .read value => value.code n
  | .variable name => name.code
  | .default => Code.words ":: core :: default :: Default :: default ()"
  | .call owner function arguments =>
    owner ++ Code.word "::" ++ function.code ++ Code.parens (Code.commas (codes n arguments))
  | .literal owner fields => owner ++ Code.braces (Code.commas (fieldCodes n fields))
  | .unlessNull columns value =>
    Code.word "if" ++ n.runtimePath "all_null" ++
      Code.parens (Code.words "cursor , &" ++ Code.brackets (Code.commas (columns.map Code.string))) ++
      Code.word "?" ++ Code.braces (Code.word "None") ++ Code.word "else" ++
      Code.braces (Code.word "Some" ++ Code.parens (code n value))

def codes (n : Naming) : List Build → List Code
  | [] => []
  | b :: rest => code n b :: codes n rest

def fieldCodes (n : Naming) : List (Ident × Build) → List Code
  | [] => []
  | (field, value) :: rest =>
    (field.code ++ Code.word ":" ++ code n value) :: fieldCodes n rest

end

end Build

end DaoForge
