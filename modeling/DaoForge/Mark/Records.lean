import DaoForge.Mark.Reading

/-!
# DaoForge.Mark.Records

The annotation vocabulary: one record for each annotation, with its attributes, their defaults and
its form in a document. Attributes are checked in the order in which a record lists them, so of two
faults the one listed first is reported.
-/

namespace DaoForge

/-- Names of constants in a document. -/
def constantTree {α : Type} [Constant α] (a : α) : Tree := .text (Constant.name a)

/-! ## table structure -/

/-- An index of a table. -/
structure IndexMark where
  /-- Empty derives the name from the table and the columns. -/
  name : String := ""
  unique : Bool := false
  columns : List String
  /-- Empty, or one order for each column. -/
  orders : List IndexOrder := []
  deriving DecidableEq, Repr

instance : MarkRecord IndexMark where
  name := "Index"
  parse a := do
    let name := (← a.textArgument "name").getD ""
    let unique := (← a.boolArgument "unique").getD false
    let columns ← a.textsArgument "columns"
    if columns.isEmpty then throw .emptyIndexColumns
    let orders ← a.constantsArgument IndexOrder "orders"
    if !orders.isEmpty && orders.length != columns.length then
      throw (.indexOrderMismatch name columns.length orders.length)
    return { name, unique, columns, orders }

def IndexMark.toTree (r : IndexMark) : Tree :=
  .record [("name", .text r.name), ("unique", .bool r.unique), ("columns", .texts r.columns),
    ("orders", .list (r.orders.map constantTree))]

/-- A foreign key of a table. -/
structure ForeignKeyMark where
  entity : TypeExpr
  parentColumns : List String
  childColumns : List String
  onDelete : ForeignKeyAction := .noAction
  onUpdate : ForeignKeyAction := .noAction
  deferred : Bool := false
  deriving DecidableEq, Repr

instance : MarkRecord ForeignKeyMark where
  name := "ForeignKey"
  parse a := do
    let entity ← a.require "entity" (← a.typeArgument "entity")
    let parentColumns ← a.textsArgument "parentColumns"
    let childColumns ← a.textsArgument "childColumns"
    if parentColumns.isEmpty || parentColumns.length != childColumns.length then
      throw (.foreignKeyColumnMismatch entity.name)
    let onDelete ← a.constantArgument ForeignKeyAction "onDelete"
    let onUpdate ← a.constantArgument ForeignKeyAction "onUpdate"
    let deferred := (← a.boolArgument "deferred").getD false
    return { entity, parentColumns, childColumns, onDelete, onUpdate, deferred }

def ForeignKeyMark.toTree (r : ForeignKeyMark) : Tree :=
  .record [("entity", r.entity.toTree), ("parent_columns", .texts r.parentColumns),
    ("child_columns", .texts r.childColumns), ("on_delete", constantTree r.onDelete),
    ("on_update", constantTree r.onUpdate), ("deferred", .bool r.deferred)]

/-- Marks a struct as a table. -/
structure EntityMark where
  /-- Empty takes the struct's simple name. -/
  tableName : String := ""
  indices : List IndexMark := []
  /-- Properties left out of the table. -/
  ignoredColumns : List String := []
  /-- Columns of a composite key, in key order. -/
  primaryKeys : List String := []
  foreignKeys : List ForeignKeyMark := []
  deriving DecidableEq, Repr

instance : MarkRecord EntityMark where
  name := "Entity"
  parse a := do
    let tableName := (← a.textArgument "tableName").getD ""
    let indices ← a.nestedListArgument IndexMark "indices"
    let ignoredColumns ← a.textsArgument "ignoredColumns"
    let primaryKeys ← a.textsArgument "primaryKeys"
    let foreignKeys ← a.nestedListArgument ForeignKeyMark "foreignKeys"
    return { tableName, indices, ignoredColumns, primaryKeys, foreignKeys }

def EntityMark.toTree (r : EntityMark) : Tree :=
  .record [("table_name", .text r.tableName),
    ("indices", .list (r.indices.map IndexMark.toTree)),
    ("ignored_columns", .texts r.ignoredColumns), ("primary_keys", .texts r.primaryKeys),
    ("foreign_keys", .list (r.foreignKeys.map ForeignKeyMark.toTree))]

/-- Overrides for the column of a property. -/
structure ColumnInfoMark where
  /-- Empty takes the property's name. -/
  name : String := ""
  typeAffinity : Affinity := .undefined
  /-- Creates an index on this column alone. -/
  index : Bool := false
  collate : Collation := .unspecified
  /-- SQL literal of the column's default. -/
  defaultValue : Option String := none
  deriving DecidableEq, Repr

instance : MarkRecord ColumnInfoMark where
  name := "ColumnInfo"
  parse a := do
    let name := (← a.textArgument "name").getD ""
    let typeAffinity ← a.constantArgument Affinity "typeAffinity"
    let index := (← a.boolArgument "index").getD false
    let collate ← a.constantArgument Collation "collate"
    let defaultValue ← a.literalArgument "defaultValue"
    return { name, typeAffinity, index, collate, defaultValue }

def ColumnInfoMark.toTree (r : ColumnInfoMark) : Tree :=
  .record [("name", .text r.name), ("type_affinity", constantTree r.typeAffinity),
    ("index", .bool r.index), ("collate", constantTree r.collate),
    ("default_value", .ofOption .text r.defaultValue)]

/-- Marks a property as the primary key. -/
structure PrimaryKeyMark where
  autoGenerate : Bool := false
  onConflict : ConflictStrategy := .abort
  deriving DecidableEq, Repr

instance : MarkRecord PrimaryKeyMark where
  name := "PrimaryKey"
  parse a := do
    let autoGenerate := (← a.boolArgument "autoGenerate").getD false
    let onConflict ← a.constantArgument ConflictStrategy "onConflict"
    return { autoGenerate, onConflict }

def PrimaryKeyMark.toTree (r : PrimaryKeyMark) : Tree :=
  .record [("auto_generate", .bool r.autoGenerate), ("on_conflict", constantTree r.onConflict)]

/-- Puts the columns of another struct into the table. -/
structure EmbeddedMark where
  /-- What the names of the embedded columns begin with. -/
  columnPrefix : String := ""
  deriving DecidableEq, Repr

instance : MarkRecord EmbeddedMark where
  name := "Embedded"
  parse a := do
    return { columnPrefix := (← a.textArgument "prefix").getD "" }

def EmbeddedMark.toTree (r : EmbeddedMark) : Tree :=
  .record [("prefix", .text r.columnPrefix)]

/-- Leaves a property out of the table. -/
structure IgnoreMark where
  deriving DecidableEq, Repr

instance : MarkRecord IgnoreMark where
  name := "Ignore"
  parse _ := return {}

def IgnoreMark.toTree (_ : IgnoreMark) : Tree := .null

/-! ## relations -/

/-- Link table of a relation between many and many. -/
structure JunctionMark where
  value : TypeExpr
  /-- Empty takes the relation's parent column. -/
  parentColumn : String := ""
  /-- Empty takes the relation's entity column. -/
  entityColumn : String := ""
  deriving DecidableEq, Repr

instance : MarkRecord JunctionMark where
  name := "Junction"
  parse a := do
    let value ← a.require "value" (← a.typeArgument "value")
    let parentColumn := (← a.textArgument "parentColumn").getD ""
    let entityColumn := (← a.textArgument "entityColumn").getD ""
    return { value, parentColumn, entityColumn }

def JunctionMark.toTree (r : JunctionMark) : Tree :=
  .record [("value", r.value.toTree), ("parent_column", .text r.parentColumn),
    ("entity_column", .text r.entityColumn)]

/-- Rows of another table that are loaded with a row, matched on two columns. -/
structure RelationMark where
  /-- Absent takes the property's element type. -/
  entity : Option TypeExpr
  parentColumn : String
  entityColumn : String
  projection : List String := []
  associateBy : Option JunctionMark := none
  deriving DecidableEq, Repr

instance : MarkRecord RelationMark where
  name := "Relation"
  parse a := do
    let entity ← a.typeArgument "entity"
    let parentColumn ← a.textArgument "parentColumn"
    let entityColumn ← a.textArgument "entityColumn"
    let parentColumn ← a.require "parentColumn" parentColumn
    let entityColumn ← a.require "entityColumn" entityColumn
    let projection ← a.textsArgument "projection"
    let associateBy ← a.nestedArgument JunctionMark "associateBy"
    return { entity, parentColumn, entityColumn, projection, associateBy }

def RelationMark.toTree (r : RelationMark) : Tree :=
  .record [("entity", .ofOption TypeExpr.toTree r.entity), ("parent_column", .text r.parentColumn),
    ("entity_column", .text r.entityColumn), ("projection", .texts r.projection),
    ("associate_by", .ofOption JunctionMark.toTree r.associateBy)]

/-! ## databases -/

/-- Marks a trait as a database. -/
structure DatabaseMark where
  entities : List TypeExpr
  version : Int64
  deriving DecidableEq, Repr

instance : MarkRecord DatabaseMark where
  name := "Database"
  parse a := do
    let entities ← a.typesArgument "entities"
    if entities.isEmpty then throw .emptyDatabaseEntities
    let version ← a.require "version" (← a.integerArgument "version")
    if version < 1 then throw (.invalidDatabaseVersion version)
    return { entities, version }

def DatabaseMark.toTree (r : DatabaseMark) : Tree :=
  .record [("entities", .list (r.entities.map TypeExpr.toTree)), ("version", .int r.version.toInt)]

/-- Converters that a database may use for columns of other than native types. -/
structure TypeConvertersMark where
  value : List TypeExpr := []
  deriving DecidableEq, Repr

instance : MarkRecord TypeConvertersMark where
  name := "TypeConverters"
  parse a := do return { value := ← a.typesArgument "value" }

def TypeConvertersMark.toTree (r : TypeConvertersMark) : Tree :=
  .record [("value", .list (r.value.map TypeExpr.toTree))]

/-! ## operations -/

/-- Marks a trait as a DAO. -/
structure DaoMark where
  deriving DecidableEq, Repr

instance : MarkRecord DaoMark where
  name := "Dao"
  parse _ := return {}

def DaoMark.toTree (_ : DaoMark) : Tree := .null

/-- SQL of a DAO function, under either of two attribute names. -/
structure QueryMark where
  value : String
  deriving DecidableEq, Repr

instance : MarkRecord QueryMark where
  name := "Query"
  parse a := do
    let value ←
      match ← a.textArgument "value" with
      | some value => pure (some value)
      | none => a.textArgument "sql"
    return { value := ← a.require "value" value }

def QueryMark.toTree (r : QueryMark) : Tree := .record [("value", .text r.value)]

/-- A function that inserts rows. -/
structure InsertMark where
  entity : Option TypeExpr := none
  onConflict : ConflictStrategy := .abort
  deriving DecidableEq, Repr

instance : MarkRecord InsertMark where
  name := "Insert"
  parse a := do
    let entity ← a.typeArgument "entity"
    let onConflict ← a.constantArgument ConflictStrategy "onConflict"
    return { entity, onConflict }

def InsertMark.toTree (r : InsertMark) : Tree :=
  .record [("entity", .ofOption TypeExpr.toTree r.entity),
    ("on_conflict", constantTree r.onConflict)]

/-- A function that updates rows by their key. -/
structure UpdateMark where
  entity : Option TypeExpr := none
  onConflict : ConflictStrategy := .abort
  deriving DecidableEq, Repr

instance : MarkRecord UpdateMark where
  name := "Update"
  parse a := do
    let entity ← a.typeArgument "entity"
    let onConflict ← a.constantArgument ConflictStrategy "onConflict"
    return { entity, onConflict }

def UpdateMark.toTree (r : UpdateMark) : Tree :=
  .record [("entity", .ofOption TypeExpr.toTree r.entity),
    ("on_conflict", constantTree r.onConflict)]

/-- A function that deletes rows by their key. -/
structure DeleteMark where
  entity : Option TypeExpr := none
  deriving DecidableEq, Repr

instance : MarkRecord DeleteMark where
  name := "Delete"
  parse a := do return { entity := ← a.typeArgument "entity" }

def DeleteMark.toTree (r : DeleteMark) : Tree :=
  .record [("entity", .ofOption TypeExpr.toTree r.entity)]

end DaoForge
