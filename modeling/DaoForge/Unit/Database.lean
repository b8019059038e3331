import DaoForge.Unit.Dao

/-!
# DaoForge.Unit.Database

The two units of a database: its schema, and its implementation. The implementation owns one instance
of each adapter, mapper, queries holder and DAO. They are created in that order, each from those
before it, and shared.
-/

namespace DaoForge

/-! ## schema -/

/-- A schema unit. -/
structure SchemaUnit where
  name : Ident
  declaration : String
  version : Int64
  /-- The table units, in the order in which the tables are created. -/
  tables : List Ident
  deriving Repr

def SchemaUnit.of (n : Naming) (d : Database) : Except GenerationError SchemaUnit := do
  return {
    name := ← Ident.of (n.schema d)
    declaration := d.declaration
    version := d.version
    tables := ← d.entities.mapM fun e => Ident.of (n.table e) }

/-! ## implementation -/

/-- How an adapter is created. -/
inductive AdapterInstance where
  /-- The default of a converter type. -/
  | converter (type : Code)
  /-- The built-in adapter of an integer type. -/
  | integer (type : Code)
  | boolean
  | float
  deriving Repr

/-- The adapters that a generated mapper is constructed with. -/
structure MapperWiring where
  entity : Entity
  adapters : List AdapterKey
  deriving Repr

/-- What a generated queries holder is constructed with, after the driver. -/
structure QueriesWiring where
  dao : Dao
  adapters : List AdapterKey
  mappers : List Entity
  deriving Repr

/-- A mapper or a queries holder that is created. -/
structure Creation where
  unit : Ident
  field : Ident
  /-- Fields that are shared with it, in the order in which its constructor takes them. -/
  arguments : List Ident
  deriving Repr

/-- A DAO that is created and given out. -/
structure GetterUnit where
  /-- The function of the trait, and the field. -/
  function : Ident
  implementation : Ident
  /-- Field of the queries holder behind it. -/
  holder : Ident
  daoTrait : Code
  deriving Repr

/-- A database unit. -/
structure DatabaseUnit where
  name : Ident
  schema : Ident
  declaration : String
  databaseTrait : Code
  adapters : List (AdapterField × AdapterInstance)
  mappers : List Creation
  queries : List Creation
  getters : List GetterUnit
  deriving Repr

/-- How a database creates an adapter. A converter that it lists is preferred to a built-in adapter. -/
def Database.adapterInstance (d : Database) (key : AdapterKey) : Except SpecError AdapterInstance :=
  match d.converterFor? key with
  | some converter =>
    match Code.ofType converter.converter with
    | .ok type => .ok (.converter type)
    | .error error => .error (.generation error)
  | none =>
    match key.builtin? with
    | some .integer =>
      match Code.ofType key.sourceType with
      | .ok type => .ok (.integer type)
      | .error error => .error (.generation error)
    | some .boolean => .ok .boolean
    | some .float => .ok .float
    | none =>
      .error (.resolution (.missingTypeConverter key.sourceType.source (Constant.name key.affinity)))

/-- An error of composition as an error of any family. -/
def composing {α : Type} (result : Except GenerationError α) : Except SpecError α :=
  result.mapError .generation

/-- The adapters that some mappers and queries holders are constructed with, each once. -/
def wiredAdapters (mappers : List MapperWiring) (queries : List QueriesWiring) : List AdapterKey :=
  distinct (mappers.flatMap MapperWiring.adapters ++ queries.flatMap QueriesWiring.adapters)

def MapperWiring.create (n : Naming) (w : MapperWiring) : Except GenerationError Creation := do
  let unit ← Ident.of (n.mapper w.entity)
  let field ← w.entity.mapperField
  return ⟨unit, field, ← w.adapters.mapM AdapterKey.field⟩

/-- Every mapper that is passed on must be among those that are created. -/
def QueriesWiring.create (n : Naming) (mappers : List MapperWiring) (w : QueriesWiring) :
    Except GenerationError Creation := do
  let unit ← Ident.of (n.queries w.dao)
  let field ← w.dao.queriesField
  let adapters ← w.adapters.mapM AdapterKey.field
  let passed ← w.mappers.mapM fun e => do
    if mappers.any fun m => m.entity.declaration == e.declaration then e.mapperField
    else throw (.missingMapper e.declaration)
  return ⟨unit, field, adapters ++ passed⟩

def DaoGetter.unit (n : Naming) (g : DaoGetter) : Except GenerationError GetterUnit := do
  let function ← Ident.of g.function
  let implementation ← Ident.of (n.dao g.dao)
  let holder ← g.dao.queriesField
  return ⟨function, implementation, holder, ← Code.ofPath g.dao.declaration⟩

def DatabaseUnit.of (n : Naming) (d : Database) (mappers : List MapperWiring)
    (queries : List QueriesWiring) : Except SpecError DatabaseUnit := do
  let name ← composing (Ident.of (n.database d))
  let schema ← composing (Ident.of (n.schema d))
  let databaseTrait ← composing (Code.ofPath d.declaration)
  let adapters ← (wiredAdapters mappers queries).mapM fun key => do
    return (← composing (AdapterField.of key), ← d.adapterInstance key)
  let ofMappers ← composing (mappers.mapM (MapperWiring.create n))
  let ofQueries ← composing (queries.mapM (QueriesWiring.create n mappers))
  let getters ← composing (d.getters.mapM (DaoGetter.unit n))
  return {
    name, schema, declaration := d.declaration, databaseTrait, adapters
    mappers := ofMappers, queries := ofQueries, getters }

/-! ## code -/

def SchemaUnit.code (n : Naming) (u : SchemaUnit) : Code :=
  let creations := u.tables.flatMap fun table =>
    table.sibling ++ Code.words ":: create (driver) ? ;"
  Code.comment (" Schema of [" ++ quoted u.declaration ++ "].") ++
    Code.word "#" ++ Code.brackets (Code.words "derive (Debug , Clone , Copy , Default)") ++
    Code.words "pub struct" ++ u.name.code ++ Code.words "; impl" ++ u.name.code ++
    Code.braces (Code.words "pub const VERSION : i64 =" ++ Code.int64 u.version ++ Code.word ";") ++
    Code.word "impl" ++ n.runtimePath "SqlSchema for" ++ u.name.code ++ Code.braces (
      Code.words "fn version (& self) -> i64" ++ Code.braces (Code.words "Self :: VERSION") ++
      Code.words "fn create" ++ Code.parens (Code.words "& self , driver :" ++ n.driverType) ++
        Code.word "->" ++ n.resultType (Code.parens []) ++
        Code.braces (Code.words "driver . transaction" ++ Code.parens (Code.words "& mut ||" ++
          Code.braces (creations ++ okUnit))) ++
      Code.words "fn migrate" ++
        Code.parens (Code.words "& self , _driver :" ++ n.driverType ++
          Code.words ", old_version : i64 , new_version : i64 ,") ++
        Code.word "->" ++ n.resultType (Code.parens []) ++
        Code.braces (Code.word "Err" ++ Code.parens (
          n.runtimePath "KabinError :: MigrationUnsupported" ++
            Code.braces (Code.words "from : old_version , to : new_version ,"))))

def AdapterInstance.code (n : Naming) : AdapterInstance → Code
  | .converter type =>
    Code.word "<" ++ type ++ Code.words "as :: core :: default :: Default > :: default ()"
  | .integer type => n.runtimePath "IntegerAdapter :: <" ++ type ++ Code.words "> :: new ()"
  | .boolean => n.runtimePath "BooleanAdapter"
  | .float => n.runtimePath "FloatAdapter"

/-- A variable that is set. -/
def Code.letBe (target value : Code) : Code :=
  word "let" ++ target ++ word "=" ++ value ++ word ";"

/-- An instance of a unit beside this one. -/
def Code.newUnit (unit : Ident) (arguments : List Code) : Code :=
  unit.sibling ++ words ":: new" ++ parens (commas arguments)

namespace Creation

def typedField (c : Creation) : Code := Code.typed c.field (Code.shared c.unit.sibling)

/-- The line that creates the instance; `leading` are arguments before those that are shared. -/
def setup (leading : List Code) (c : Creation) : Code :=
  Code.letBe c.field.code <| Code.newShared <|
    Code.newUnit c.unit (leading ++ c.arguments.map Code.cloneShared)

end Creation

namespace DatabaseUnit

/-- The fields after the driver and the schema, in the order in which they are created. -/
def fieldNames (u : DatabaseUnit) : List Ident :=
  u.adapters.map (fun a => a.1.name) ++ u.mappers.map Creation.field ++
    u.queries.map Creation.field ++ u.getters.map GetterUnit.function

/-- The fields after the driver and the schema, with their types. -/
def fields (n : Naming) (u : DatabaseUnit) : List Code :=
  u.adapters.map (fun a => Code.typed a.1.name (n.adapterType a.1)) ++
    u.mappers.map Creation.typedField ++ u.queries.map Creation.typedField ++
    u.getters.map fun g => Code.typed g.function g.implementation.sibling

/-- The lines that create what the fields hold. -/
def setup (n : Naming) (u : DatabaseUnit) : Code :=
  u.adapters.flatMap (fun a =>
      Code.letBe (Code.typed a.1.name (n.adapterType a.1)) (Code.newShared (a.2.code n))) ++
    u.mappers.flatMap (Creation.setup []) ++
    u.queries.flatMap (Creation.setup [Code.cloneShared ⟨"driver", false⟩]) ++
    u.getters.flatMap fun g =>
      Code.letBe g.function.code (Code.newUnit g.implementation [Code.cloneShared g.holder])

def code (n : Naming) (u : DatabaseUnit) : Code :=
  let schema := u.schema.sibling
  let getters := u.getters.flatMap fun g =>
    Code.word "fn" ++ g.function.code ++ Code.words "(& self) -> & dyn" ++ g.daoTrait ++
      Code.braces (Code.words "& self ." ++ g.function.code)
  Code.comment (" Generated implementation of [" ++ quoted u.declaration ++ "].") ++
    Code.word "#" ++ Code.brackets (Code.words "allow (dead_code)") ++
    Code.words "pub struct" ++ u.name.code ++ Code.braces (
      Code.words "driver :" ++ n.sharedDriverType ++ Code.words ", schema :" ++ schema ++
        Code.word "," ++ Code.commasAfter (u.fields n)) ++
    Code.word "impl" ++ u.name.code ++ Code.braces (
      Code.words "pub fn new" ++ Code.parens (Code.words "driver :" ++ n.sharedDriverType) ++
        Code.words "-> Self" ++
        Code.braces (u.setup n ++ Code.word "Self" ++ Code.braces (
          Code.words "driver , schema :" ++ schema ++ Code.word "," ++
            Code.commasAfter (u.fieldNames.map Ident.code)))) ++
    Code.word "impl" ++ n.runtimePath "KabinDatabase for" ++ u.name.code ++ Code.braces (
      Code.words "type Schema =" ++ schema ++ Code.word ";" ++
      Code.words "fn driver (& self) -> &" ++ n.sharedDriverType ++
        Code.braces (Code.words "& self . driver") ++
      Code.words "fn schema (& self) -> & Self :: Schema" ++
        Code.braces (Code.words "& self . schema")) ++
    Code.word "impl" ++ u.databaseTrait ++ Code.word "for" ++ u.name.code ++ Code.braces getters

end DatabaseUnit

end DaoForge
