import DaoForge.Query.RawQuery
import DaoForge.Schema.Compound

/-!
# DaoForge.Schema.Dao

A resolved DAO: one operation for each abstract function of the trait, with the way its parameters
reach the statement and the shape of its result.
-/

namespace DaoForge

/-- What a row becomes. -/
inductive RowType where
  | entity (entity : Entity)
  | compound (compound : Compound)
  /-- The first column of the row. -/
  | scalar (type : TypeExpr) (mapping : Mapping)
  deriving Repr

/-- What a function returns. -/
inductive ReturnShape where
  | unit
  /-- The number of rows that were changed, as an integer type. -/
  | affectedRows (type : TypeExpr)
  /-- Exactly one row. -/
  | single (row : RowType)
  /-- At most one row. -/
  | optional (row : RowType)
  | list (row : RowType)
  deriving Repr

/-- Whether the declared return type is a `Result`. -/
inductive ReturnWrapping where
  /-- It is not: an error stops the program. -/
  | plain
  /-- It is, with the library's own error. -/
  | result
  /-- It is, with an error type that the library's converts into. -/
  | resultWith (error : TypeExpr)
  deriving DecidableEq, Repr

/-- The result of a function. -/
structure ReturnSpec where
  /-- The type as it is declared. -/
  declared : TypeExpr
  wrapping : ReturnWrapping
  shape : ReturnShape
  deriving Repr

/-- How an argument reaches the statement. -/
inductive Binding where
  /-- One placeholder and one value. -/
  | value (mapping : Mapping)
  /-- A list, with a placeholder for each element. -/
  | list (mapping : Mapping)
  /-- The entity that is written. -/
  | entity (entity : Entity)
  /-- A list of entities, written in one transaction. -/
  | entityList (entity : Entity)
  deriving Repr

/-- A parameter of an operation. -/
structure BoundParameter where
  name : String
  type : TypeExpr
  binding : Binding
  deriving Repr

/-- What an insert, update or delete works on. -/
structure EntityOperation where
  entity : Entity
  /-- Parameter that carries the entity. -/
  parameter : String
  isList : Bool
  /-- Always the default for deletes. -/
  onConflict : ConflictStrategy
  deriving Repr

/-- What a function does. -/
inductive OperationKind where
  | raw (query : RawQuery)
  | insert (operation : EntityOperation)
  | update (operation : EntityOperation)
  | delete (operation : EntityOperation)
  deriving Repr

/-- One function of a DAO. -/
structure Operation where
  function : String
  parameters : List BoundParameter
  returns : ReturnSpec
  kind : OperationKind
  deriving Repr

/-- A resolved DAO. -/
structure Dao where
  declaration : String
  /-- One operation for each abstract function, in declaration order. -/
  operations : List Operation
  deriving Repr

/-! ## what an operation touches -/

namespace RowType

def compound? : RowType → Option Compound
  | .compound c => some c
  | _ => none

/-- Type of one row. -/
def type : RowType → TypeExpr
  | .entity e => e.type
  | .compound c => TypeExpr.ofName c.declaration
  | .scalar t _ => t

/-- The entities a row is read from. -/
def entities : RowType → List Entity
  | .entity e => [e]
  | .compound c => c.entities
  | .scalar _ _ => []

/-- The adapters that reading a row needs, those of entities apart. -/
def adapters : RowType → List AdapterKey
  | .entity _ => []
  | .scalar _ mapping => mapping.adapter?.toList
  | .compound c =>
    c.relations.filterMap fun relation =>
      match relation.element with
      | .scalar _ _ mapping => mapping.adapter?
      | .entity => none

end RowType

namespace ReturnShape

def rowType? : ReturnShape → Option RowType
  | .single row | .optional row | .list row => some row
  | .unit | .affectedRows _ => none

def returnsRows (shape : ReturnShape) : Bool := shape.rowType?.isSome

end ReturnShape

/-- The mapping of a bound value. -/
def Binding.mapping? : Binding → Option Mapping
  | .value mapping | .list mapping => some mapping
  | .entity _ | .entityList _ => none

namespace OperationKind

/-- Name of the kind. -/
def name : OperationKind → String
  | .raw _ => "query"
  | .insert _ => "insert"
  | .update _ => "update"
  | .delete _ => "delete"

/-- The entity that is written. -/
def target? : OperationKind → Option Entity
  | .raw _ => none
  | .insert operation | .update operation | .delete operation => some operation.entity

end OperationKind

namespace Operation

def parameter? (o : Operation) (name : String) : Option BoundParameter :=
  o.parameters.find? fun p => p.name == name

/-- What a row becomes, if the operation returns rows. -/
def rowType? (o : Operation) : Option RowType := o.returns.shape.rowType?

/-- The entities the operation writes or reads. -/
def entities (o : Operation) : List Entity :=
  o.kind.target?.toList ++ (o.rowType?.map RowType.entities).getD []

/-- The adapters for parameters and results, those of entities apart. -/
def adapters (o : Operation) : List AdapterKey :=
  o.parameters.filterMap (fun p => p.binding.mapping?.bind Mapping.adapter?) ++
    (o.rowType?.map RowType.adapters).getD []

end Operation

/-- Items with distinct keys, the first of each key. -/
def distinctBy {α β : Type} [DecidableEq β] (key : α → β) (items : List α) : List α :=
  items.foldl (fun taken item =>
    if key item ∈ taken.map key then taken else taken ++ [item]) []

namespace Dao

def simpleName (d : Dao) : String := DaoForge.simpleName d.declaration

/-- The entities that the operations touch, in the order of first use. -/
def entities (d : Dao) : List Entity :=
  distinctBy Entity.declaration (d.operations.flatMap Operation.entities)

/-- The compounds that rows become, in the order of first use. -/
def compounds (d : Dao) : List Compound :=
  distinctBy Compound.declaration
    (d.operations.filterMap fun o => o.rowType?.bind RowType.compound?)

/-- The adapters that operations use themselves, in the order of first use. Those inside mappers
belong to the entities. -/
def adapters (d : Dao) : List AdapterKey := distinct (d.operations.flatMap Operation.adapters)

end Dao

/-! ## documents -/

def RowType.toTree : RowType → Tree
  | .entity e => .tagged "entity" (.text e.declaration)
  | .compound c => .tagged "compound" (.text c.declaration)
  | .scalar t mapping =>
    .tagged "scalar" (.record [("ty", t.toTree), ("mapping", mapping.toTree)])

def ReturnShape.toTree : ReturnShape → Tree
  | .unit => .text "unit"
  | .affectedRows t => .tagged "affected_rows" t.toTree
  | .single row => .tagged "single" row.toTree
  | .optional row => .tagged "optional" row.toTree
  | .list row => .tagged "list" row.toTree

def ReturnWrapping.toTree : ReturnWrapping → Tree
  | .plain => .text "plain"
  | .result => .text "result"
  | .resultWith error => .tagged "result_with" error.toTree

def ReturnSpec.toTree (r : ReturnSpec) : Tree :=
  .record [("declared", r.declared.toTree), ("wrapping", r.wrapping.toTree),
    ("shape", r.shape.toTree)]

def Binding.toTree : Binding → Tree
  | .value mapping => .tagged "value" mapping.toTree
  | .list mapping => .tagged "list" mapping.toTree
  | .entity e => .tagged "entity" (.text e.declaration)
  | .entityList e => .tagged "entity_list" (.text e.declaration)

def BoundParameter.toTree (p : BoundParameter) : Tree :=
  .record [("name", .text p.name), ("ty", p.type.toTree), ("binding", p.binding.toTree)]

def EntityOperation.toTree (o : EntityOperation) : Tree :=
  .record [("entity", .text o.entity.declaration), ("parameter", .text o.parameter),
    ("is_list", .bool o.isList), ("on_conflict", constantTree o.onConflict)]

def OperationKind.toTree : OperationKind → Tree
  | .raw query => .tagged "raw" query.toTree
  | .insert operation => .tagged "insert" operation.toTree
  | .update operation => .tagged "update" operation.toTree
  | .delete operation => .tagged "delete" operation.toTree

def Operation.toTree (o : Operation) : Tree :=
  .record [("function", .text o.function),
    ("parameters", .list (o.parameters.map BoundParameter.toTree)),
    ("returns", o.returns.toTree), ("kind", o.kind.toTree)]

def Dao.toTree (d : Dao) : Tree :=
  .record [("declaration", .text d.declaration),
    ("queries", .list (d.operations.map Operation.toTree))]

end DaoForge
