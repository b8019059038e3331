import DaoForge.Schema.Database
import DaoForge.Sql.Identifier

/-!
# DaoForge.Sql.Definition

The statements that create tables and indices.

A table's definition lists its stored columns, then the primary key if it has several columns, then
the foreign keys. The key of a single column is a clause of that column's definition, and only there
can it name a conflict strategy and generate values.

A schema runs the table statements first, so that every index meets its table.
-/

namespace DaoForge.Sql

/-- Primary key of a single column. -/
structure KeyClause where
  onConflict : ConflictStrategy
  autoGenerate : Bool
  deriving DecidableEq, Repr

/-- Definition of a column. -/
structure ColumnDefinition where
  name : String
  affinity : Option Affinity
  key : Option KeyClause
  isNullable : Bool
  collate : Collation
  defaultValue : Option String
  deriving DecidableEq, Repr

/-- An item of a table's definition. -/
inductive TableItem where
  | column (definition : ColumnDefinition)
  /-- Primary key of several columns. -/
  | primaryKey (columns : List String)
  | foreignKey (key : ForeignKey)
  deriving DecidableEq, Repr

/-- A statement that defines a table. -/
structure TableDefinition where
  table : String
  items : List TableItem
  deriving DecidableEq, Repr

/-! ## from a resolved table -/

namespace ColumnDefinition

/-- The definition of a column of a table with the given key. -/
def ofColumn (key : PrimaryKey) (c : Column) : ColumnDefinition where
  name := c.name
  affinity := c.affinity?
  key :=
    if c.isPrimaryKey && !key.isComposite then some ⟨key.onConflict, key.autoGenerate⟩ else none
  isNullable := c.isNullable
  collate := c.collate
  defaultValue := c.defaultValue

end ColumnDefinition

/-- The definition of an entity's table. -/
def TableDefinition.ofEntity (e : Entity) : TableDefinition where
  table := e.tableName
  items :=
    e.storedColumns.map (fun c => .column (.ofColumn e.primaryKey c)) ++
      (if e.primaryKey.isComposite then [.primaryKey e.primaryKey.columns] else []) ++
      e.foreignKeys.map .foreignKey

/-! ## text -/

/-- A clause that is left out where there is nothing to say. -/
def clause (lead : String) : Option String → String
  | none => ""
  | some text => lead ++ text

/-- The keyword of a strategy, unless it is the default. -/
def conflictKeyword? (strategy : ConflictStrategy) : Option String :=
  if strategy.isDefault then none else some strategy.keyword

def KeyClause.text (k : KeyClause) : String :=
  " PRIMARY KEY" ++ clause " ON CONFLICT " (conflictKeyword? k.onConflict) ++
    (if k.autoGenerate then " AUTOINCREMENT" else "")

def ColumnDefinition.text (d : ColumnDefinition) : String :=
  quote d.name ++ clause " " (d.affinity.bind Affinity.keyword?) ++
    (d.key.map KeyClause.text).getD "" ++ (if d.isNullable then "" else " NOT NULL") ++
    clause " COLLATE " d.collate.keyword? ++ clause " DEFAULT " d.defaultValue

def foreignKeyText (key : ForeignKey) : String :=
  "FOREIGN KEY(" ++ quoteAll key.childColumns ++ ") REFERENCES " ++ quote key.table ++ "(" ++
    quoteAll key.parentColumns ++ ") ON UPDATE " ++ key.onUpdate.keyword ++ " ON DELETE " ++
    key.onDelete.keyword ++ (if key.deferred then " DEFERRABLE INITIALLY DEFERRED" else "")

def TableItem.text : TableItem → String
  | .column definition => definition.text
  | .primaryKey columns => "PRIMARY KEY(" ++ quoteAll columns ++ ")"
  | .foreignKey key => foreignKeyText key

def TableDefinition.text (d : TableDefinition) : String :=
  "CREATE TABLE IF NOT EXISTS " ++ quote d.table ++ " (" ++ commaList (d.items.map TableItem.text) ++
    ")"

/-- Columns of an index, each with its order where one is given. -/
def orderedColumns : List String → List IndexOrder → List String
  | [], _ => []
  | column :: columns, [] => quote column :: orderedColumns columns []
  | column :: columns, order :: orders =>
    (quote column ++ " " ++ order.keyword) :: orderedColumns columns orders

/-- The statement that creates an index. -/
def createIndex (table : String) (i : Index) : String :=
  "CREATE " ++ (if i.unique then "UNIQUE " else "") ++ "INDEX IF NOT EXISTS " ++ quote i.name ++
    " ON " ++ quote table ++ " (" ++ commaList (orderedColumns i.columns i.orders) ++ ")"

end DaoForge.Sql

/-! ## statements of entities and databases -/

namespace DaoForge

/-- The statement that creates an entity's table. -/
def Entity.createTable (e : Entity) : String := (Sql.TableDefinition.ofEntity e).text

/-- The statements that create an entity's indices. -/
def Entity.createIndices (e : Entity) : List String := e.indices.map (Sql.createIndex e.tableName)

def Entity.dropTable (e : Entity) : String := "DROP TABLE IF EXISTS " ++ Sql.quote e.tableName

/-- The statements that create a database: every table, then every index. -/
def Database.schemaStatements (d : Database) : List String :=
  d.entities.map Entity.createTable ++ d.entities.flatMap Entity.createIndices

end DaoForge
