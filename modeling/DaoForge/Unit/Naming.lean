import DaoForge.Code.Grammar
import DaoForge.Options
import DaoForge.Schema.Database
import DaoForge.Text.SnakeCase

/-!
# DaoForge.Unit.Naming

Names in generated code. A unit is named for the declaration it belongs to, with a suffix that tells
the kind; its module is the name in snake case. Fields are named for what they hold.
-/

namespace DaoForge

/-- How units are named, and where the run-time library is. -/
structure Naming where
  /-- Absolute path of the run-time library. -/
  runtime : Code
  suffixes : Suffixes
  /-- Path of the module that holds the units. -/
  outputModule : String
  deriving Repr

namespace Naming

/-- The naming that options ask for. -/
def ofOptions (o : Options) : Except OptionError Naming := do
  o.validate
  match Code.ofPath (dropLeadingSeparator o.runtimeCrate) with
  | .ok path => return ⟨Code.word "::" ++ path, o.suffixes, o.outputModule⟩
  | .error cause => throw (.unusableRuntime cause)

/-! ## units -/

def table (n : Naming) (e : Entity) : String := e.simpleName ++ n.suffixes.table

def mapper (n : Naming) (e : Entity) : String := e.simpleName ++ n.suffixes.mapper

def queries (n : Naming) (d : Dao) : String := d.simpleName ++ n.suffixes.queries

def dao (n : Naming) (d : Dao) : String := d.simpleName ++ n.suffixes.dao

def schema (n : Naming) (d : Database) : String := d.simpleName ++ n.suffixes.schema

def database (n : Naming) (d : Database) : String := d.simpleName ++ n.suffixes.database

/-- Qualified name of a unit. -/
def qualified (n : Naming) (unit : String) : String := n.outputModule ++ "::" ++ unit

end Naming

/-! ## fields -/

namespace AdapterKey

/-- Name of the field that holds the adapter. -/
def fieldName (key : AdapterKey) : String :=
  snakeCase key.sourceType.source ++ "_" ++ snakeCase key.storageType.source ++ "_adapter"

/-- Identifier of the field that holds the adapter. -/
def field (key : AdapterKey) : Except GenerationError Ident := Ident.of key.fieldName

end AdapterKey

/-- Identifier of the field that holds an entity's mapper. -/
def Entity.mapperField (e : Entity) : Except GenerationError Ident :=
  Ident.of (snakeCase e.simpleName ++ "_mapper")

/-- Identifier of the field that holds a DAO's queries. -/
def Dao.queriesField (d : Dao) : Except GenerationError Ident :=
  Ident.of (snakeCase d.simpleName ++ "_queries")

/-- Identifier of the function that loads the relations of a compound. -/
def Compound.loaderName (c : Compound) : Except GenerationError Ident :=
  Ident.of ("load_" ++ snakeCase c.simpleName)

/-! ## adapters as fields -/

/-- A field that holds an adapter. -/
structure AdapterField where
  key : AdapterKey
  name : Ident
  /-- The type that is converted. -/
  source : Code
  storage : Code
  deriving Repr

namespace AdapterField

/-- The field for an adapter. -/
def of (key : AdapterKey) : Except GenerationError AdapterField := do
  let name ← key.field
  return ⟨key, name, ← Code.ofType key.sourceType, ← Code.ofType key.storageType⟩

end AdapterField

/-! ## shared pieces of code -/

/-- A shared pointer to a type. -/
def Code.shared (inner : Code) : Code := Code.words ":: std :: sync :: Arc <" ++ inner ++ Code.word ">"

/-- A new shared pointer to a value. -/
def Code.newShared (value : Code) : Code :=
  Code.words ":: std :: sync :: Arc :: new" ++ Code.parens value

/-- Another pointer to a shared value. -/
def Code.cloneShared (name : Ident) : Code :=
  Code.words ":: std :: sync :: Arc :: clone" ++ Code.parens (Code.word "&" ++ name.code)

namespace Naming

/-- A path into the run-time library. -/
def runtimePath (n : Naming) (path : String) : Code := n.runtime ++ Code.words (":: " ++ path)

/-- The result type of the run-time library. -/
def resultType (n : Naming) (inner : Code) : Code :=
  n.runtimePath "Result <" ++ inner ++ Code.word ">"

/-- The type of a field that holds an adapter. -/
def adapterType (n : Naming) (f : AdapterField) : Code :=
  Code.words ":: std :: sync :: Arc < dyn" ++ n.runtimePath "ColumnAdapter <" ++ f.source ++
    Code.word "," ++ f.storage ++ Code.word ">>"

/-- The type of a reference to a driver. -/
def driverType (n : Naming) : Code := Code.words "& dyn" ++ n.runtimePath "SqlDriver"

/-- The type of a shared driver. -/
def sharedDriverType (n : Naming) : Code :=
  Code.shared (Code.word "dyn" ++ n.runtimePath "SqlDriver")

end Naming

/-- A unit beside the one that refers to it. -/
def Ident.sibling (i : Ident) : Code := Code.words "super ::" ++ i.code

end DaoForge
