import DaoForge.Schema.Compound
import DaoForge.Sql.Definition

/-!
# DaoForge.Sql.Select

The statement that finds the rows of a relation for one parent. It has one placeholder, for the
parent's key. A relation through a junction looks the related keys up in the junction's table.
-/

namespace DaoForge

/-- The condition that a related row meets. -/
def Relation.condition (r : Relation) : String :=
  match r.junction with
  | none => Sql.quote r.entityColumn ++ " = ?"
  | some junction =>
    Sql.quote r.entityColumn ++ " IN (SELECT " ++ Sql.quote junction.entityColumn ++ " FROM " ++
      Sql.quote junction.table ++ " WHERE " ++ Sql.quote junction.parentColumn ++ " = ?)"

/-- The statement that selects the related rows of one parent. -/
def Relation.select (r : Relation) : String :=
  "SELECT " ++ Sql.quoteAll r.selectedColumns ++ " FROM " ++ Sql.quote r.entityTable ++ " WHERE " ++
    r.condition

end DaoForge
