import DaoForge.Schema.Entity

/-!
# DaoForge.Schema.Compound

A resolved compound: a struct that is no table itself, with one embedded entity and any number of
relations, whose rows are loaded beside the entity's by matching two columns.
-/

namespace DaoForge

/-- How many rows a relation yields. -/
inductive Cardinality where
  /-- At most one, for an optional property. -/
  | one
  /-- Any number, for a list. -/
  | many
  deriving DecidableEq, Repr

/-- What one related row becomes. -/
inductive RelationElement where
  /-- The related entity. -/
  | entity
  /-- One projected column. -/
  | scalar (column : String) (type : TypeExpr) (mapping : Mapping)
  deriving DecidableEq, Repr

/-- Link table of a relation between many and many. -/
structure Junction where
  entity : Entity
  table : String
  /-- Column that holds the parent's key. -/
  parentColumn : String
  /-- Column that holds the related entity's key. -/
  entityColumn : String
  deriving Repr

/-- A relation of a compound. -/
structure Relation where
  property : String
  /-- Column of the compound's own entity. -/
  parentColumn : String
  entity : Entity
  entityTable : String
  /-- Column of the related entity. -/
  entityColumn : String
  cardinality : Cardinality
  junction : Option Junction
  /-- Projected columns; empty selects whole rows. -/
  projection : List String
  element : RelationElement
  deriving Repr

/-- A resolved compound. -/
structure Compound where
  declaration : String
  /-- The property that embeds the entity. -/
  mainProperty : String
  main : Entity
  relations : List Relation
  construction : Construction
  deriving Repr

/-- The columns a relation selects. -/
def Relation.selectedColumns (r : Relation) : List String :=
  match r.element with
  | .scalar column _ _ => [column]
  | .entity => r.entity.storedColumns.map Column.name

/-- The entities a relation reads. -/
def Relation.entities (r : Relation) : List Entity :=
  match r.junction with
  | some junction => [r.entity, junction.entity]
  | none => [r.entity]

namespace Compound

def simpleName (c : Compound) : String := DaoForge.simpleName c.declaration

/-- The entities a compound reads, its own first. -/
def entities (c : Compound) : List Entity := c.main :: c.relations.flatMap Relation.entities

end Compound

/-! ## documents -/

def Cardinality.toTree : Cardinality → Tree
  | .one => .text "one"
  | .many => .text "many"

def RelationElement.toTree : RelationElement → Tree
  | .entity => .text "entity"
  | .scalar column type mapping =>
    .tagged "scalar" <| .record
      [("column", .text column), ("ty", type.toTree), ("mapping", mapping.toTree)]

def Junction.toTree (j : Junction) : Tree :=
  .record [("entity", .text j.entity.declaration), ("table", .text j.table),
    ("parent_column", .text j.parentColumn), ("entity_column", .text j.entityColumn)]

def Relation.toTree (r : Relation) : Tree :=
  .record [("property", .text r.property), ("relation", .record
    [("parent_column", .text r.parentColumn), ("entity", .text r.entity.declaration),
      ("entity_table", .text r.entityTable), ("entity_column", .text r.entityColumn),
      ("cardinality", r.cardinality.toTree), ("junction", .ofOption Junction.toTree r.junction),
      ("projection", .texts r.projection), ("element", r.element.toTree)])]

def Compound.toTree (c : Compound) : Tree :=
  .record [("declaration", .text c.declaration), ("main_property", .text c.mainProperty),
    ("main", .text c.main.declaration), ("relations", .list (c.relations.map Relation.toTree)),
    ("constructor", c.construction.toTree)]

end DaoForge
