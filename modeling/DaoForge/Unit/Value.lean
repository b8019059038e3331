import DaoForge.Unit.Naming

/-!
# DaoForge.Unit.Value

Values between rows, properties and arguments.

* A `Read` takes a value out of the current row. A native value is read as its own type, any other
  as its storage type, and then decoded by its adapter.
* A `ColumnArgument` takes a column's value out of an entity, as an argument of a statement. The way
  leads through the embedded structs; at an optional one the rest of the way is taken inside the
  option, and an absent struct gives NULL.
* A `BoundArgument` is a parameter of a function as an argument of its statement.
-/

namespace DaoForge

/-- Where a value is in a row. -/
inductive RowSource where
  /-- The column of a name. -/
  | column (name : String)
  | first
  deriving DecidableEq, Repr

/-- How a value of a row is read. -/
inductive Read where
  | native (source : RowSource) (type : Code)
  | adapted (source : RowSource) (adapter : Ident) (storage : Code) (isNullable : Bool)
  deriving Repr

namespace Read

/-- Reads a value of a type that is stored with a mapping. -/
def of (source : RowSource) (type : TypeExpr) : Mapping → Except GenerationError Read
  | .native _ => return .native source (← Code.ofType type)
  | .adapted key => do
    let field ← key.field
    return .adapted source field (← Code.ofType key.storageType) type.nullable

/-- A value of a row, as one of the types that the library reads. -/
def raw (n : Naming) (type : Code) : RowSource → Code
  | .column name =>
    n.runtimePath "read :: <" ++ type ++ Code.word ">" ++
      Code.parens (Code.words "cursor ," ++ Code.string name) ++ Code.word "?"
  | .first =>
    n.runtimePath "read_at :: <" ++ type ++ Code.word ">" ++ Code.parens (Code.words "cursor , 0") ++
      Code.word "?"

def code (n : Naming) : Read → Code
  | .native source type => raw n type source
  | .adapted source adapter storage true =>
    raw n (Code.words "Option <" ++ storage ++ Code.word ">") source ++ Code.words ". map" ++
      Code.parens (Code.words "| value | self ." ++ adapter.code ++ Code.words ". decode" ++
        Code.parens (Code.word "value")) ++
      Code.words ". transpose () ?"
  | .adapted source adapter storage false =>
    Code.words "self ." ++ adapter.code ++ Code.words ". decode" ++
      Code.parens (raw n storage source) ++ Code.word "?"

end Read

/-! ## bound values -/

/-- The adapter field of a mapping, if it needs one. -/
def Mapping.field? : Mapping → Except GenerationError (Option Ident)
  | .native _ => return none
  | .adapted key => return some (← key.field)

/-- A parameter as an argument. -/
structure BoundArgument where
  name : Ident
  isNullable : Bool
  adapter : Option Ident
  deriving Repr

namespace Code

/-- A value of a type that the library binds, behind a reference. -/
def bindNative (n : Naming) (value : Code) : Code :=
  n.runtimePath "ToSqlValue :: to_sql_value" ++ parens (word "&" ++ value)

/-- The stored form of a value behind a reference. -/
def encodeValue (adapter : Ident) (value : Code) : Code :=
  words "self ." ++ adapter.code ++ words ". encode" ++ parens value

/-- The stored form of the value in an option. -/
def mapEncode (adapter : Ident) : Code :=
  words ". map" ++ parens (words "| value |" ++ encodeValue adapter (word "value"))

def fromStored (n : Naming) (value : Code) : Code := n.runtimePath "SqlValue :: from" ++ parens value

/-- A place with a value, as an argument. -/
def bindPlace (n : Naming) (place : Code) (isNullable : Bool) : Option Ident → Code
  | none => bindNative n place
  | some adapter =>
    if isNullable then fromStored n (place ++ words ". as_ref ()" ++ mapEncode adapter)
    else fromStored n (encodeValue adapter (word "&" ++ place))

/-- An option of a reference to a value, as an argument. -/
def bindOption (n : Naming) (option : Code) : Option Ident → Code
  | none => bindNative n option
  | some adapter => fromStored n (option ++ mapEncode adapter)

end Code

def BoundArgument.code (n : Naming) (a : BoundArgument) : Code :=
  Code.bindPlace n a.name.code a.isNullable a.adapter

/-! ## values of an entity -/

/-- An embedded property on the way to a column. -/
structure Step where
  property : Ident
  isOptional : Bool
  deriving DecidableEq, Repr

/-- A column of an entity as an argument. -/
structure ColumnArgument where
  /-- Embedded properties, from the entity inward. -/
  embeddings : List Step
  property : Ident
  isNullable : Bool
  adapter : Option Ident
  deriving Repr

namespace Member

mutual

/-- The embeddings around the first stored column of a name. -/
def pathTo? (name : String) : Member → Option (List Embedding)
  | .column c => if c.name == name && c.isStored then some [] else none
  | .embedded e members => (pathIn? name members).map (e :: ·)

def pathIn? (name : String) : List Member → Option (List Embedding)
  | [] => none
  | m :: rest =>
    match pathTo? name m with
    | some path => some path
    | none => pathIn? name rest

end

end Member

/-- A place in an entity, or an option of a reference to one. -/
inductive Place where
  | direct (code : Code)
  | option (code : Code)

namespace Place

/-- A property of the struct at a place. -/
def property (place : Place) (name : Ident) (isOptional : Bool) : Place :=
  match place, isOptional with
  | .direct code, false => .direct (code ++ Code.word "." ++ name.code)
  | .direct code, true => .option (code ++ Code.word "." ++ name.code ++ Code.words ". as_ref ()")
  | .option code, false =>
    .option (code ++ Code.words ". map" ++
      Code.parens (Code.words "| value | & value ." ++ name.code))
  | .option code, true =>
    .option (code ++ Code.words ". and_then" ++
      Code.parens (Code.words "| value | value ." ++ name.code ++ Code.words ". as_ref ()"))

end Place

namespace ColumnArgument

/-- The argument for a column of an entity. -/
def of (e : Entity) (c : Column) : Except GenerationError ColumnArgument := do
  match c.mapping with
  | none => throw (.uncoveredMember (c.embeddedIn.getD "") c.property)
  | some mapping =>
    let embeddings ← ((Member.pathIn? c.name e.members).getD []).mapM fun embedding => do
      return ⟨← Ident.of embedding.property, embedding.isNullable⟩
    let property ← Ident.of c.property
    return ⟨embeddings, property, c.type.nullable, ← mapping.field?⟩

/-- The struct that owns the column. -/
def owner (a : ColumnArgument) : Place :=
  a.embeddings.foldl (fun place step => place.property step.property step.isOptional)
    (.direct (Code.word "entity"))

def code (n : Naming) (a : ColumnArgument) : Code :=
  match a.owner with
  | .direct place =>
    Code.bindPlace n (place ++ Code.word "." ++ a.property.code) a.isNullable a.adapter
  | .option place =>
    match (Place.option place).property a.property a.isNullable with
    | .direct code | .option code => Code.bindOption n code a.adapter

end ColumnArgument

end DaoForge
