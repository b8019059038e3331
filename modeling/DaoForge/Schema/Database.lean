import DaoForge.Schema.Dao

/-!
# DaoForge.Schema.Database

A resolved database: its tables, the functions that give out its DAOs, the adapters that its mappers
and queries need, and the converters that provide those that are not built in.
-/

namespace DaoForge

/-- A function of a database that returns a DAO. -/
structure DaoGetter where
  function : String
  dao : Dao
  deriving Repr

/-- A converter, and the adapter it provides. -/
structure Converter where
  converter : TypeExpr
  reference : AdapterKey
  deriving DecidableEq, Repr

/-- A resolved database. -/
structure Database where
  declaration : String
  version : Int64
  /-- The listed entities, each once, in the order listed. -/
  entities : List Entity
  getters : List DaoGetter
  converters : List Converter
  /-- The adapters that mappers and queries need, in the order of first use. -/
  adapters : List AdapterKey
  deriving Repr

namespace Database

def simpleName (d : Database) : String := DaoForge.simpleName d.declaration

/-- The converter that provides an adapter. -/
def converterFor? (d : Database) (reference : AdapterKey) : Option Converter :=
  d.converters.find? fun c => c.reference == reference

end Database

/-! ## documents -/

def DaoGetter.toTree (g : DaoGetter) : Tree :=
  .record [("function", .text g.function), ("dao", .text g.dao.declaration)]

def Converter.toTree (c : Converter) : Tree :=
  .record [("converter", c.converter.toTree), ("reference", c.reference.toTree)]

def Database.toTree (d : Database) : Tree :=
  .record [("declaration", .text d.declaration), ("version", .int d.version.toInt),
    ("entities", .list (d.entities.map Entity.toTree)),
    ("dao_getters", .list (d.getters.map DaoGetter.toTree)),
    ("type_converters", .list (d.converters.map Converter.toTree)),
    ("adapters", .list (d.adapters.map AdapterKey.toTree))]

end DaoForge
