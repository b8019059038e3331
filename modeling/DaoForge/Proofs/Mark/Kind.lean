import DaoForge.Mark.Records

/-!
# DaoForge.Proofs.Mark.Kind

The vocabulary of annotations as one type.

1. `MarkKind` lists the typed records and, of each, its attributes (`MarkKind.attributes`);
2. `MarkKind.contents` is what a record holds for each of its attributes.
-/

namespace DaoForge

/-- The typed annotation records. -/
inductive MarkKind where
  | entity
  | index
  | foreignKey
  | columnInfo
  | primaryKey
  | embedded
  | ignore
  | relation
  | junction
  | database
  | typeConverters
  | dao
  | query
  | insert
  | update
  | delete
  deriving DecidableEq, Repr

namespace MarkKind

/-- The type of the records of a kind. -/
@[reducible]
def Record : MarkKind → Type
  | entity => EntityMark
  | index => IndexMark
  | foreignKey => ForeignKeyMark
  | columnInfo => ColumnInfoMark
  | primaryKey => PrimaryKeyMark
  | embedded => EmbeddedMark
  | ignore => IgnoreMark
  | relation => RelationMark
  | junction => JunctionMark
  | database => DatabaseMark
  | typeConverters => TypeConvertersMark
  | dao => DaoMark
  | query => QueryMark
  | insert => InsertMark
  | update => UpdateMark
  | delete => DeleteMark

instance : (kind : MarkKind) → MarkRecord kind.Record
  | entity => inferInstanceAs (MarkRecord EntityMark)
  | index => inferInstanceAs (MarkRecord IndexMark)
  | foreignKey => inferInstanceAs (MarkRecord ForeignKeyMark)
  | columnInfo => inferInstanceAs (MarkRecord ColumnInfoMark)
  | primaryKey => inferInstanceAs (MarkRecord PrimaryKeyMark)
  | embedded => inferInstanceAs (MarkRecord EmbeddedMark)
  | ignore => inferInstanceAs (MarkRecord IgnoreMark)
  | relation => inferInstanceAs (MarkRecord RelationMark)
  | junction => inferInstanceAs (MarkRecord JunctionMark)
  | database => inferInstanceAs (MarkRecord DatabaseMark)
  | typeConverters => inferInstanceAs (MarkRecord TypeConvertersMark)
  | dao => inferInstanceAs (MarkRecord DaoMark)
  | query => inferInstanceAs (MarkRecord QueryMark)
  | insert => inferInstanceAs (MarkRecord InsertMark)
  | update => inferInstanceAs (MarkRecord UpdateMark)
  | delete => inferInstanceAs (MarkRecord DeleteMark)

/-- The attributes of the records of a kind. -/
def attributes : MarkKind → List String
  | entity => ["tableName", "indices", "ignoredColumns", "primaryKeys", "foreignKeys"]
  | index => ["name", "unique", "columns", "orders"]
  | foreignKey => ["entity", "parentColumns", "childColumns", "onDelete", "onUpdate", "deferred"]
  | columnInfo => ["name", "typeAffinity", "index", "collate", "defaultValue"]
  | primaryKey => ["autoGenerate", "onConflict"]
  | embedded => ["prefix"]
  | ignore | dao => []
  | relation => ["entity", "parentColumn", "entityColumn", "projection", "associateBy"]
  | junction => ["value", "parentColumn", "entityColumn"]
  | database => ["entities", "version"]
  | typeConverters => ["value"]
  | query => ["value", "sql"]
  | insert | update => ["entity", "onConflict"]
  | delete => ["entity"]

end MarkKind

/-- What a record holds for an attribute. -/
inductive Content where
  | text (value : String)
  | bool (value : Bool)
  | integer (value : Int64)
  | type (value : TypeExpr)
  /-- A constant, by its name. -/
  | constant (name : String)
  /-- What was read of a nested annotation. -/
  | record (kind : MarkKind) (value : kind.Record)
  | list (items : List Content)

/-- A constant as what a record holds. -/
def Content.ofConstant {α : Type} [Constant α] (a : α) : Content := .constant (Constant.name a)

/-! What a record holds for each of its attributes, nothing for those that may be left out and were. -/

def IndexMark.contents (r : IndexMark) : List (String × Option Content) :=
  [("name", some (.text r.name)), ("unique", some (.bool r.unique)),
    ("columns", some (.list (r.columns.map .text))),
    ("orders", some (.list (r.orders.map .ofConstant)))]

def ForeignKeyMark.contents (r : ForeignKeyMark) : List (String × Option Content) :=
  [("entity", some (.type r.entity)), ("parentColumns", some (.list (r.parentColumns.map .text))),
    ("childColumns", some (.list (r.childColumns.map .text))),
    ("onDelete", some (.ofConstant r.onDelete)), ("onUpdate", some (.ofConstant r.onUpdate)),
    ("deferred", some (.bool r.deferred))]

def EntityMark.contents (r : EntityMark) : List (String × Option Content) :=
  [("tableName", some (.text r.tableName)),
    ("indices", some (.list (r.indices.map (.record .index)))),
    ("ignoredColumns", some (.list (r.ignoredColumns.map .text))),
    ("primaryKeys", some (.list (r.primaryKeys.map .text))),
    ("foreignKeys", some (.list (r.foreignKeys.map (.record .foreignKey))))]

def ColumnInfoMark.contents (r : ColumnInfoMark) : List (String × Option Content) :=
  [("name", some (.text r.name)), ("typeAffinity", some (.ofConstant r.typeAffinity)),
    ("index", some (.bool r.index)), ("collate", some (.ofConstant r.collate)),
    ("defaultValue", r.defaultValue.map .text)]

def PrimaryKeyMark.contents (r : PrimaryKeyMark) : List (String × Option Content) :=
  [("autoGenerate", some (.bool r.autoGenerate)), ("onConflict", some (.ofConstant r.onConflict))]

def EmbeddedMark.contents (r : EmbeddedMark) : List (String × Option Content) :=
  [("prefix", some (.text r.columnPrefix))]

def JunctionMark.contents (r : JunctionMark) : List (String × Option Content) :=
  [("value", some (.type r.value)), ("parentColumn", some (.text r.parentColumn)),
    ("entityColumn", some (.text r.entityColumn))]

def RelationMark.contents (r : RelationMark) : List (String × Option Content) :=
  [("entity", r.entity.map .type), ("parentColumn", some (.text r.parentColumn)),
    ("entityColumn", some (.text r.entityColumn)),
    ("projection", some (.list (r.projection.map .text))),
    ("associateBy", r.associateBy.map (.record .junction))]

def DatabaseMark.contents (r : DatabaseMark) : List (String × Option Content) :=
  [("entities", some (.list (r.entities.map .type))), ("version", some (.integer r.version))]

def TypeConvertersMark.contents (r : TypeConvertersMark) : List (String × Option Content) :=
  [("value", some (.list (r.value.map .type)))]

/-- The statement stands under either name. -/
def QueryMark.contents (r : QueryMark) : List (String × Option Content) :=
  [("value", some (.text r.value)), ("sql", some (.text r.value))]

def InsertMark.contents (r : InsertMark) : List (String × Option Content) :=
  [("entity", r.entity.map .type), ("onConflict", some (.ofConstant r.onConflict))]

def UpdateMark.contents (r : UpdateMark) : List (String × Option Content) :=
  [("entity", r.entity.map .type), ("onConflict", some (.ofConstant r.onConflict))]

def DeleteMark.contents (r : DeleteMark) : List (String × Option Content) :=
  [("entity", r.entity.map .type)]

namespace MarkKind

/-- What a record of the kind holds for each attribute. -/
def contents : (kind : MarkKind) → kind.Record → List (String × Option Content)
  | entity => EntityMark.contents
  | index => IndexMark.contents
  | foreignKey => ForeignKeyMark.contents
  | columnInfo => ColumnInfoMark.contents
  | primaryKey => PrimaryKeyMark.contents
  | embedded => EmbeddedMark.contents
  | ignore => fun _ => []
  | relation => RelationMark.contents
  | junction => JunctionMark.contents
  | database => DatabaseMark.contents
  | typeConverters => TypeConvertersMark.contents
  | dao => fun _ => []
  | query => QueryMark.contents
  | insert => InsertMark.contents
  | update => UpdateMark.contents
  | delete => DeleteMark.contents

theorem names_contents (kind : MarkKind) (record : kind.Record) :
    (kind.contents record).map Prod.fst = kind.attributes := by
  cases kind <;> rfl

end MarkKind

end DaoForge
