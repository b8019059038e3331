import DaoForge.Schema.Storage

/-!
# DaoForge.Schema.Entity

A resolved table: its members, key, foreign keys, indices and the way its struct is built. An embedded
struct nests its own members; `Entity.columns` flattens them.

A column that is left out of the table stays a member, because the struct it belongs to still has the
property. `Entity.storedColumns` are the columns of the table.
-/

namespace DaoForge

/-- Why a property has no column in the table. -/
inductive IgnoreReason where
  /-- It is annotated so. -/
  | marked
  /-- The entity lists it. -/
  | listed
  deriving DecidableEq, Repr

/-- A column, or a property that is left out of the table. -/
structure Column where
  /-- Property on the struct that declares it. -/
  property : String
  type : TypeExpr
  /-- Column name, with the prefixes of enclosing embeddings. -/
  name : String
  /-- How it is stored; none if it is left out. -/
  mapping : Option Mapping
  isNullable : Bool
  defaultValue : Option String := none
  collate : Collation
  index : Bool := false
  ignore : Option IgnoreReason := none
  isPrimaryKey : Bool := false
  /-- Property path of the enclosing embedding, joined by dots. -/
  embeddedIn : Option String
  deriving DecidableEq, Repr

/-- How a struct is built: by an associated function, or as a literal. -/
structure Construction where
  function : Option String
  /-- Property names in argument order. -/
  parameters : List String
  deriving DecidableEq, Repr

/-- An embedded property, without its members. -/
structure Embedding where
  property : String
  type : TypeExpr
  /-- What the names of its columns begin with, enclosing prefixes included. -/
  columnPrefix : String
  isNullable : Bool
  construction : Construction
  deriving DecidableEq, Repr

/-- A property of an entity or of an embedded struct. -/
inductive Member where
  | column (column : Column)
  | embedded (embedding : Embedding) (members : List Member)
  deriving Repr

structure PrimaryKey where
  /-- Column names in key order. -/
  columns : List String
  autoGenerate : Bool := false
  onConflict : ConflictStrategy := .abort
  deriving DecidableEq, Repr

structure ForeignKey where
  /-- Qualified name of the entity that is referred to. -/
  entity : String
  table : String
  parentColumns : List String
  childColumns : List String
  onDelete : ForeignKeyAction
  onUpdate : ForeignKeyAction
  deferred : Bool
  deriving DecidableEq, Repr

structure Index where
  name : String
  unique : Bool
  columns : List String
  /-- Empty, or one order for each column. -/
  orders : List IndexOrder
  deriving DecidableEq, Repr

/-- A resolved table. -/
structure Entity where
  declaration : String
  tableName : String
  /-- Properties in declaration order. -/
  members : List Member
  primaryKey : PrimaryKey
  foreignKeys : List ForeignKey := []
  indices : List Index := []
  construction : Construction
  deriving Repr

/-! ## columns -/

namespace Column

/-- The column is in the table. -/
def isStored (c : Column) : Bool := c.ignore.isNone

def affinity? (c : Column) : Option Affinity := c.mapping.map Mapping.affinity

def adapter? (c : Column) : Option AdapterKey := c.mapping.bind Mapping.adapter?

end Column

namespace Member

mutual

/-- The columns of a member, flattened in declaration order. -/
def columns : Member → List Column
  | .column c => [c]
  | .embedded _ members => columnsOf members

/-- The columns of several members. -/
def columnsOf : List Member → List Column
  | [] => []
  | m :: rest => columns m ++ columnsOf rest

end

theorem columnsOf_eq_flatMap (members : List Member) : columnsOf members = members.flatMap columns := by
  induction members with
  | nil => rfl
  | cons m rest ih => simp [columnsOf, ih]

/-- The property of a member. -/
def property : Member → String
  | .column c => c.property
  | .embedded e _ => e.property

/-- Something of the member is in the table. -/
def isStored : Member → Bool
  | .column c => c.isStored
  | .embedded _ _ => true

end Member

/-- Adds an item at the end unless it is there. -/
def addNew {α : Type} [DecidableEq α] (items : List α) (item : α) : List α :=
  if item ∈ items then items else items ++ [item]

/-- The items in the order of their first occurrence. -/
def distinct {α : Type} [DecidableEq α] (items : List α) : List α := items.foldl addNew []

namespace Entity

def simpleName (e : Entity) : String := DaoForge.simpleName e.declaration

/-- The entity's struct as a type expression. -/
def type (e : Entity) : TypeExpr := TypeExpr.ofName e.declaration

/-- Every column, those left out of the table too. -/
def columns (e : Entity) : List Column := Member.columnsOf e.members

/-- The columns of the table. -/
def storedColumns (e : Entity) : List Column := e.columns.filter Column.isStored

/-- The table's column of a name. -/
def column? (e : Entity) (name : String) : Option Column :=
  e.storedColumns.find? fun c => c.name == name

/-- The columns of the primary key, in key order. -/
def keyColumns (e : Entity) : List Column := e.primaryKey.columns.filterMap e.column?

/-- The adapters that the table's columns need, in the order of first use. -/
def adapters (e : Entity) : List AdapterKey := distinct (e.storedColumns.filterMap Column.adapter?)

end Entity

def PrimaryKey.isComposite (key : PrimaryKey) : Bool := 1 < key.columns.length

/-! ## documents -/

def IgnoreReason.toTree : IgnoreReason → Tree
  | .marked => .text "annotation"
  | .listed => .text "ignored_columns"

def Construction.toTree (c : Construction) : Tree :=
  .record [("function", .ofOption .text c.function), ("parameters", .texts c.parameters)]

def Column.toTree (c : Column) : Tree :=
  .record [("property", .text c.property), ("ty", c.type.toTree), ("name", .text c.name),
    ("mapping", .ofOption Mapping.toTree c.mapping), ("is_nullable", .bool c.isNullable),
    ("default_value", .ofOption .text c.defaultValue), ("collate", constantTree c.collate),
    ("index", .bool c.index), ("ignore", .ofOption IgnoreReason.toTree c.ignore),
    ("is_primary_key", .bool c.isPrimaryKey), ("embedded_in", .ofOption .text c.embeddedIn)]

mutual

def Member.toTree : Member → Tree
  | .column c => .tagged "column" c.toTree
  | .embedded e members =>
    .tagged "embedded" <| .record
      [("property", .text e.property), ("ty", e.type.toTree), ("prefix", .text e.columnPrefix),
        ("is_nullable", .bool e.isNullable), ("members", .list (Member.toTrees members)),
        ("constructor", e.construction.toTree)]

def Member.toTrees : List Member → List Tree
  | [] => []
  | m :: rest => m.toTree :: Member.toTrees rest

end

def PrimaryKey.toTree (key : PrimaryKey) : Tree :=
  .record [("columns", .texts key.columns), ("auto_generate", .bool key.autoGenerate),
    ("on_conflict", constantTree key.onConflict)]

def ForeignKey.toTree (key : ForeignKey) : Tree :=
  .record [("entity", .text key.entity), ("table", .text key.table),
    ("parent_columns", .texts key.parentColumns), ("child_columns", .texts key.childColumns),
    ("on_delete", constantTree key.onDelete), ("on_update", constantTree key.onUpdate),
    ("deferred", .bool key.deferred)]

def Index.toTree (i : Index) : Tree :=
  .record [("name", .text i.name), ("unique", .bool i.unique), ("columns", .texts i.columns),
    ("orders", .list (i.orders.map constantTree))]

def Entity.toTree (e : Entity) : Tree :=
  .record [("declaration", .text e.declaration), ("table_name", .text e.tableName),
    ("members", .list (Member.toTrees e.members)), ("primary_key", e.primaryKey.toTree),
    ("foreign_keys", .list (e.foreignKeys.map ForeignKey.toTree)),
    ("indices", .list (e.indices.map Index.toTree)), ("constructor", e.construction.toTree)]

end DaoForge
