import DaoForge.Code.Token
import DaoForge.Tree.Basic

/-!
# DaoForge.Unit.Basic

Units of generated code: one source file each.
-/

namespace DaoForge

/-- What a unit holds. -/
inductive UnitKind where
  | table
  | mapper
  | queries
  | dao
  | database
  | schema
  deriving DecidableEq, Repr

namespace UnitKind

def name : UnitKind → String
  | .table => "table"
  | .mapper => "mapper"
  | .queries => "queries"
  | .dao => "dao"
  | .database => "database"
  | .schema => "schema"

/-- The kind of a name. -/
def ofName? (name : String) : Option UnitKind :=
  [table, mapper, queries, dao, database, schema].find? fun kind => kind.name == name

end UnitKind

/-- A unit that is ready to be written. -/
structure GeneratedUnit where
  /-- Name of the type that the unit defines. -/
  name : String
  qualifiedName : String
  /-- Name of the module, and of the file. -/
  module : String
  kind : UnitKind
  source : String
  deriving DecidableEq, Repr

namespace GeneratedUnit

def fileName (u : GeneratedUnit) : String := u.module ++ ".rs"

def toTree (u : GeneratedUnit) : Tree :=
  .record [("name", .text u.name), ("qualified_name", .text u.qualifiedName),
    ("module", .text u.module), ("kind", .text u.kind.name), ("source", .text u.source)]

end GeneratedUnit

/-- The first line of every generated file. -/
def generatedHeader : String := "// @generated by kabin"

/-- The text of a unit's file: the header, a blank line, and the code. -/
def sourceText (code : Code) : String := generatedHeader ++ "\n\n" ++ code.render ++ "\n"

end DaoForge
