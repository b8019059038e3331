import DaoForge.Schema.Dao
import DaoForge.Sql.Definition

/-!
# DaoForge.Sql.Write

The statements that insert, update and delete one row. Each value has one anonymous placeholder.

* An insert names every stored column, in order. A key that the database generates is written as
  `nullif(?, 0)`, so that a zero asks for a new one.
* An update assigns the columns outside the key, then finds the row by its key.
* A delete finds the row by its key.
-/

namespace DaoForge.Sql

/-- A column of an insert. -/
structure InsertItem where
  column : String
  /-- A zero asks for a generated value. -/
  isGenerated : Bool
  deriving DecidableEq, Repr

/-- A statement that writes one row. -/
inductive WriteStatement where
  | insert (onConflict : ConflictStrategy) (table : String) (items : List InsertItem)
  | update (onConflict : ConflictStrategy) (table : String) (assigned key : List String)
  | delete (table : String) (key : List String)
  deriving DecidableEq, Repr

/-! ## text -/

def InsertItem.value (i : InsertItem) : String := if i.isGenerated then "nullif(?, 0)" else "?"

/-- What stands between a verb and its object: the strategy, unless it is the default. -/
def orClause (strategy : ConflictStrategy) : String :=
  match conflictKeyword? strategy with
  | none => ""
  | some keyword => "OR " ++ keyword ++ " "

/-- A column set to, or compared with, a value. -/
def equals (column : String) : String := quote column ++ " = ?"

/-- The row with the given key. -/
def keyCondition (key : List String) : String := " AND ".intercalate (key.map equals)

namespace WriteStatement

def text : WriteStatement → String
  | .insert onConflict table items =>
    "INSERT " ++ orClause onConflict ++ "INTO " ++ quote table ++ " (" ++
      quoteAll (items.map InsertItem.column) ++ ") VALUES (" ++
      commaList (items.map InsertItem.value) ++ ")"
  | .update onConflict table assigned key =>
    "UPDATE " ++ orClause onConflict ++ quote table ++ " SET " ++ commaList (assigned.map equals) ++
      " WHERE " ++ keyCondition key
  | .delete table key => "DELETE FROM " ++ quote table ++ " WHERE " ++ keyCondition key

/-- The columns whose values are bound, in the order of the placeholders. -/
def boundColumns : WriteStatement → List String
  | .insert _ _ items => items.map InsertItem.column
  | .update _ _ assigned key => assigned ++ key
  | .delete _ key => key

end WriteStatement

end DaoForge.Sql

/-! ## statements of an entity -/

namespace DaoForge

namespace Entity

/-- The columns that an update assigns. -/
def assignedColumns (e : Entity) : List Column := e.storedColumns.filter fun c => !c.isPrimaryKey

/-- The statement that inserts a row. -/
def insertStatement (e : Entity) (onConflict : ConflictStrategy) : Sql.WriteStatement :=
  .insert onConflict e.tableName <| e.storedColumns.map fun c =>
    ⟨c.name, c.isPrimaryKey && e.primaryKey.autoGenerate⟩

/-- The statement that updates a row. -/
def updateStatement (e : Entity) (onConflict : ConflictStrategy) : Sql.WriteStatement :=
  .update onConflict e.tableName (e.assignedColumns.map Column.name) e.primaryKey.columns

/-- The statement that deletes a row. -/
def deleteStatement (e : Entity) : Sql.WriteStatement := .delete e.tableName e.primaryKey.columns

end Entity

/-- The statement that an operation runs for each entity it is given. -/
def OperationKind.writeStatement? : OperationKind → Option Sql.WriteStatement
  | .raw _ => none
  | .insert operation => some (operation.entity.insertStatement operation.onConflict)
  | .update operation => some (operation.entity.updateStatement operation.onConflict)
  | .delete operation => some operation.entity.deleteStatement

end DaoForge
