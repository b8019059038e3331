import DaoForge.Sql.Select
import DaoForge.Sql.Write
import DaoForge.Unit.Mapper

/-!
# DaoForge.Unit.Queries

The unit with the statements of a DAO: one method for each function, which binds the arguments, runs
the statement and reads its rows. It is constructed with a driver, the adapters that the methods use
themselves, and the mappers of the entities they read.

The rows of a compound are loaded in two rounds. The statement gives the embedded entity and, for each
relation, the key of the parent; a loader then runs one statement for each relation and builds the
compound.
-/

namespace DaoForge

/-! ## statements and arguments -/

/-- A piece of a statement that is put together when it runs. -/
inductive StatementPiece where
  | text (text : String)
  | placeholder
  /-- One placeholder for each element of a parameter. -/
  | placeholders (parameter : Ident)
  deriving Repr

/-- The text of a statement. -/
inductive StatementText where
  | fixed (sql : String)
  | assembled (pieces : List StatementPiece)
  deriving Repr

/-- What is appended to the values of a statement. -/
inductive Push where
  | one (argument : BoundArgument)
  /-- Each element of a list. -/
  | each (parameter : Ident) (isNullable : Bool) (adapter : Option Ident)
  deriving Repr

/-- The parameter that is appended. -/
def Push.parameter : Push → Ident
  | .one argument => argument.name
  | .each parameter _ _ => parameter

/-! ## rows -/

/-- How many rows a statement may yield. -/
inductive Multiplicity where
  | single
  | optional
  | list
  deriving DecidableEq, Repr

/-- What a row is read with. -/
inductive RowReader where
  | mapper (field : Ident)
  | value (read : Read)
  deriving Repr

/-- What is done with a statement that was prepared. -/
inductive Execution where
  | execute
  /-- Gives the number of rows that were changed. -/
  | count
  | rows (multiplicity : Multiplicity) (reader : RowReader)
  /-- Reads the embedded entity and the parent keys, and loads the relations. -/
  | compounds (multiplicity : Multiplicity) (mapper loader : Ident) (keys : List String)
  deriving Repr

/-! ## methods -/

/-- What a method does. -/
inductive MethodBody where
  | query (statement : StatementText) (pushes : List Push) (execution : Execution)
  /-- Runs one statement for the entity, or for each entity of a list in one transaction. -/
  | write (parameter : Ident) (statement : String) (values : List ColumnArgument)
      (isList isCounting : Bool)
  deriving Repr

/-- A method of the unit. -/
structure Method where
  function : Ident
  parameters : List (Ident × Code)
  output : Code
  body : MethodBody
  deriving Repr

/-- A relation that a loader loads. -/
structure RelationLoad where
  property : Ident
  statement : String
  cardinality : Cardinality
  reader : RowReader
  deriving Repr

/-- A method that loads the relations of a compound. -/
structure Loader where
  name : Ident
  main : Code
  compound : Code
  loads : List RelationLoad
  value : Build
  deriving Repr

/-- A field that holds a mapper. -/
structure MapperField where
  entity : Entity
  mapper : Ident
  name : Ident
  deriving Repr

/-- A queries unit. -/
structure QueriesUnit where
  name : Ident
  declaration : String
  /-- Fields after the driver, in the order in which the constructor takes them. -/
  adapters : List AdapterField
  /-- Fields after the adapters. -/
  mappers : List MapperField
  methods : List Method
  loaders : List Loader
  deriving Repr

/-! ## from a resolved DAO -/

/-- The entities that a row is read with the mapper of. -/
def RowType.mappedEntities : RowType → List Entity
  | .entity e => [e]
  | .compound c =>
    c.main :: c.relations.filterMap fun r =>
      match r.element with
      | .entity => some r.entity
      | .scalar _ _ _ => none
  | .scalar _ _ => []

namespace Dao

/-- The adapters that the statements use: for arguments and rows, then for written entities. -/
def statementAdapters (d : Dao) : List AdapterKey :=
  distinct (d.adapters ++
    d.operations.flatMap fun o => (o.kind.target?.map Entity.adapters).getD [])

/-- The entities whose mappers the statements use, in the order of first use. -/
def mappedEntities (d : Dao) : List Entity :=
  distinctBy Entity.declaration
    (d.operations.flatMap fun o => (o.rowType?.map RowType.mappedEntities).getD [])

end Dao

/-- The type of a result. -/
def ReturnShape.output : ReturnShape → Except GenerationError Code
  | .unit => return Code.parens []
  | .affectedRows type => Code.ofType type
  | .single row => Code.ofType row.type
  | .optional row => return Code.words "Option <" ++ (← Code.ofType row.type) ++ Code.word ">"
  | .list row => return Code.words "Vec <" ++ (← Code.ofType row.type) ++ Code.word ">"

/-- A value that is read from the first column. -/
def readFirst (type : TypeExpr) (mapping : Mapping) : Except GenerationError RowReader :=
  (Read.of .first type mapping).map .value

/-- Reads rows of a type. -/
def RowType.execution (multiplicity : Multiplicity) : RowType → Except GenerationError Execution
  | .entity e => return .rows multiplicity (.mapper (← e.mapperField))
  | .scalar type mapping => return .rows multiplicity (← readFirst type mapping)
  | .compound c => do
    let mapper ← c.main.mapperField
    return .compounds multiplicity mapper (← c.loaderName) (c.relations.map Relation.parentColumn)

def ReturnShape.execution : ReturnShape → Except GenerationError Execution
  | .unit => return .execute
  | .affectedRows _ => return .count
  | .single row => row.execution .single
  | .optional row => row.execution .optional
  | .list row => row.execution .list

namespace BoundParameter

def isList (p : BoundParameter) : Bool :=
  match p.binding with
  | .list _ => true
  | _ => false

/-- What is appended for a parameter; entities are only written. -/
def push? (p : BoundParameter) : Except GenerationError (Option Push) := do
  let name ← Ident.of p.name
  match p.binding with
  | .value mapping => return some (.one ⟨name, p.type.nullable, ← mapping.field?⟩)
  | .list mapping =>
    let isNullable := (p.type.listElement?.map TypeExpr.nullable).getD false
    return some (.each name isNullable (← mapping.field?))
  | .entity _ | .entityList _ => return none

end BoundParameter

namespace Operation

/-- The parameter of a name is a list. -/
def bindsList (o : Operation) (name : String) : Bool :=
  ((o.parameter? name).map BoundParameter.isList).getD false

/-- The text of a query: with a list among its arguments, it is put together when it runs. -/
def statementText (o : Operation) (query : RawQuery) : Except GenerationError StatementText := do
  if query.bindings.any o.bindsList then
    let pieces ← query.segments.mapM fun segment => do
      match segment with
      | .text text => return .text text
      | .parameter name =>
        if o.bindsList name then return .placeholders (← Ident.of name) else return .placeholder
    return .assembled pieces
  else return .fixed query.positionalSql

/-- The values of a query, one entry for each placeholder. -/
def pushes (o : Operation) (query : RawQuery) : Except GenerationError (List Push) := do
  let pushes ← query.bindings.mapM fun name =>
    match o.parameter? name with
    | some parameter => parameter.push?
    | none => return none
  return pushes.filterMap id

/-- A method that writes entities. The values follow the order of the statement's placeholders. -/
def writeBody (o : Operation) (operation : EntityOperation) (statement : Sql.WriteStatement)
    (columns : List Column) : Except GenerationError MethodBody := do
  let parameter ← Ident.of operation.parameter
  let values ← columns.mapM (ColumnArgument.of operation.entity)
  let isCounting :=
    match o.returns.shape with
    | .affectedRows _ => true
    | _ => false
  return .write parameter statement.text values operation.isList isCounting

def body (o : Operation) : Except GenerationError MethodBody :=
  match o.kind with
  | .raw query => do
    let statement ← o.statementText query
    let pushes ← o.pushes query
    return .query statement pushes (← o.returns.shape.execution)
  | .insert operation =>
    let e := operation.entity
    o.writeBody operation (e.insertStatement operation.onConflict) e.storedColumns
  | .update operation =>
    let e := operation.entity
    o.writeBody operation (e.updateStatement operation.onConflict) (e.assignedColumns ++ e.keyColumns)
  | .delete operation =>
    let e := operation.entity
    o.writeBody operation e.deleteStatement e.keyColumns

/-- The parameters of a function, as code. -/
def parameterCodes (o : Operation) : Except GenerationError (List (Ident × Code)) :=
  o.parameters.mapM fun p => do return (← Ident.of p.name, ← Code.ofType p.type)

/-- The method of a function. -/
def method (o : Operation) : Except GenerationError Method := do
  let function ← Ident.of o.function
  let parameters ← o.parameterCodes
  let output ← o.returns.shape.output
  return ⟨function, parameters, output, ← o.body⟩

end Operation

/-- Loads a relation. -/
def Relation.load (r : Relation) : Except GenerationError RelationLoad := do
  let property ← Ident.of r.property
  let reader ←
    match r.element with
    | .entity => do pure (.mapper (← r.entity.mapperField))
    | .scalar _ type mapping => readFirst type mapping
  return ⟨property, r.select, r.cardinality, reader⟩

/-- The value of a compound's property inside its loader. -/
def Compound.argument (c : Compound) (parameter : String) : Except GenerationError (Option Build) :=
  if parameter == c.mainProperty then .ok (some (.variable ⟨"main", false⟩))
  else
    match c.relations.find? fun r => r.property == parameter with
    | some r => do return some (.variable (← Ident.of r.property))
    | none => .ok none

/-- The loader of a compound. -/
def Compound.loader (c : Compound) : Except GenerationError Loader := do
  let name ← c.loaderName
  let main ← Code.ofType c.main.type
  let compound ← Code.ofPath c.declaration
  let loads ← c.relations.mapM Relation.load
  return ⟨name, main, compound, loads, ← c.construction.build c.declaration c.argument⟩

namespace QueriesUnit

def of (n : Naming) (d : Dao) : Except GenerationError QueriesUnit := do
  let name ← Ident.of (n.queries d)
  let adapters ← d.statementAdapters.mapM AdapterField.of
  let mappers ← d.mappedEntities.mapM fun e => do
    return ⟨e, ← Ident.of (n.mapper e), ← e.mapperField⟩
  let methods ← d.operations.mapM Operation.method
  return { name, declaration := d.declaration, adapters, mappers, methods,
           loaders := ← d.compounds.mapM Compound.loader }

end QueriesUnit

/-! ## code -/

namespace StatementPiece

def code (n : Naming) : StatementPiece → Code
  | .text piece => Code.words "sql . push_str" ++ Code.parens (Code.string piece) ++ Code.word ";"
  | .placeholder => Code.words "sql . push ('?') ;"
  | .placeholders parameter =>
    n.runtimePath "push_placeholders" ++
      Code.parens (Code.words "& mut sql ," ++ parameter.code ++ Code.words ". len ()") ++
      Code.word ";"

end StatementPiece

namespace StatementText

/-- The lines that put the text into a variable. -/
def setup (n : Naming) : StatementText → Code
  | .fixed sql => Code.words "let sql =" ++ Code.string sql ++ Code.word ";"
  | .assembled pieces =>
    Code.words "let mut sql = String :: new () ;" ++ pieces.flatMap (StatementPiece.code n)

/-- The text as an argument. -/
def argument : StatementText → Code
  | .fixed _ => Code.word "sql"
  | .assembled _ => Code.words "& sql"

end StatementText

namespace Push

def code (n : Naming) : Push → Code
  | .one argument => Code.words "params . push" ++ Code.parens (argument.code n) ++ Code.word ";"
  | .each parameter isNullable adapter =>
    let convert :=
      match adapter with
      | none => n.runtimePath "ToSqlValue :: to_sql_value"
      | some adapter =>
        Code.words "| value |" ++
          if isNullable then
            Code.braces (Code.fromStored n (Code.words "value . as_ref ()" ++ Code.mapEncode adapter))
          else Code.fromStored n (Code.encodeValue adapter (Code.word "value"))
    Code.words "params . extend" ++
      Code.parens (parameter.code ++ Code.words ". iter () . map" ++ Code.parens convert) ++
      Code.word ";"

/-- The lines that gather the values. -/
def gather (n : Naming) (pushes : List Push) : Code :=
  Code.words (if pushes.isEmpty then "let params : Vec <" else "let mut params : Vec <") ++
    n.runtimePath "SqlValue > = Vec :: new () ;" ++ pushes.flatMap (Push.code n)

end Push

/-- The function of the library that reads so many rows. -/
def Multiplicity.helper : Multiplicity → String
  | .single => "query_single"
  | .optional => "query_optional"
  | .list => "query_list"

/-- Runs a statement and maps its rows. -/
def queryRows (n : Naming) (multiplicity : Multiplicity) (sql params map : Code) : Code :=
  n.runtimePath multiplicity.helper ++
    Code.parens (Code.words "& * self . driver ," ++ sql ++ Code.words ", &" ++ params ++
      Code.words ", | cursor |" ++ map)

/-- Reads an entity with a mapper. -/
def mapRow (n : Naming) (mapper : Ident) : Code :=
  n.runtimePath "EntityMapper :: map" ++
    Code.parens (Code.words "& * self ." ++ mapper.code ++ Code.words ", cursor")

def okOf (value : Code) : Code := Code.word "Ok" ++ Code.parens value

def okUnit : Code := okOf (Code.parens [])

def RowReader.code (n : Naming) : RowReader → Code
  | .mapper field => mapRow n field
  | .value read => okOf (read.code n)

/-- Runs a statement. -/
def executeStatement (sql : Code) : Code :=
  Code.words "self . driver . execute" ++ Code.parens (sql ++ Code.words ", & params") ++
    Code.words "? ;"

/-- The number of changed rows as the declared type. -/
def changedRows (n : Naming) : Code := n.runtimePath "affected_rows (count)"

def Execution.code (n : Naming) (sql : Code) : Execution → Code
  | .execute => executeStatement sql ++ okUnit
  | .count => Code.words "let count =" ++ executeStatement sql ++ changedRows n
  | .rows multiplicity reader =>
    queryRows n multiplicity sql (Code.word "params") (reader.code n)
  | .compounds multiplicity mapper loader keys =>
    let key (column : String) : Code :=
      n.runtimePath "read_value" ++ Code.parens (Code.words "cursor ," ++ Code.string column) ++
        Code.word "?"
    let row := mapRow n mapper ++ Code.words "? ," ++
      Code.brackets (Code.commas (keys.map key)) ++ Code.word ","
    let rows := queryRows n multiplicity sql (Code.word "params") (okOf (Code.parens row)) ++
      Code.words "? ;"
    let load := Code.words "self ." ++ loader.code ++ Code.parens (Code.words "main , keys")
    let loadEach := Code.parens (Code.word "|" ++ Code.parens (Code.words "main , keys") ++
      Code.word "|" ++ load)
    match multiplicity with
    | .list =>
      Code.words "let rows =" ++ rows ++ Code.words "rows . into_iter () . map" ++ loadEach ++
        Code.words ". collect ()"
    | .optional =>
      Code.words "let row =" ++ rows ++ Code.words "row . map" ++ loadEach ++
        Code.words ". transpose ()"
    | .single => 
      Code.word "let" ++ Code.parens (Code.words "main , keys") ++ Code.word "=" ++ rows ++ load

namespace MethodBody

def code (n : Naming) : MethodBody → Code
  | .query statement pushes execution =>
    statement.setup n ++ Push.gather n pushes ++ execution.code n statement.argument
  | .write parameter statement values isList isCounting =>
    let params := Code.words "let params = vec !" ++
      Code.brackets (Code.commas (values.map (ColumnArgument.code n))) ++ Code.word ";"
    let result := if isCounting then changedRows n else okUnit
    if isList then
      let execute := (if isCounting then Code.words "count +=" else []) ++
        executeStatement (Code.word "sql")
      Code.words "let sql =" ++ Code.string statement ++ Code.word ";" ++
        (if isCounting then Code.words "let mut count : u64 = 0 ;" else []) ++
        Code.words "self . driver . transaction" ++ Code.parens (Code.words "& mut ||" ++
          Code.braces (Code.words "for entity in" ++ parameter.code ++ Code.words ". iter ()" ++
            Code.braces (params ++ execute) ++ okUnit)) ++
        Code.words "? ;" ++ result
    else
      Code.words "let entity = &" ++ parameter.code ++ Code.word ";" ++ params ++
        (if isCounting then Code.words "let count =" else []) ++
        executeStatement (Code.string statement) ++ result

end MethodBody

/-- The parameters of a method, after the receiver. -/
def parameterList (parameters : List (Ident × Code)) : Code :=
  Code.parens (Code.words "& self ," ++
    Code.commas (parameters.map fun (name, type) => Code.typed name type))

def Method.code (n : Naming) (m : Method) : Code :=
  Code.words "pub fn" ++ m.function.code ++ parameterList m.parameters ++ Code.word "->" ++
    n.resultType m.output ++ Code.braces (m.body.code n)

/-- Name of the variable that holds the key of a relation. -/
def keyName (index : Nat) : String := "key_" ++ toString index

def RelationLoad.code (n : Naming) (index : Nat) (l : RelationLoad) : Code :=
  let multiplicity :=
    match l.cardinality with
    | .one => Multiplicity.optional
    | .many => Multiplicity.list
  Code.word "let" ++ l.property.code ++ Code.word "=" ++
    queryRows n multiplicity (Code.string l.statement) (Code.brackets (Code.word (keyName index)))
      (l.reader.code n) ++
    Code.words "? ;"

def Loader.code (n : Naming) (l : Loader) : Code :=
  let keys := (List.range l.loads.length).map fun index => Code.word (keyName index)
  Code.word "fn" ++ l.name.code ++
    Code.parens (Code.words "& self , main :" ++ l.main ++ Code.words ", keys :" ++
      Code.brackets (n.runtimePath "SqlValue ;" ++ Code.nat l.loads.length)) ++
    Code.word "->" ++ n.resultType l.compound ++
    Code.braces (Code.word "let" ++ Code.brackets (Code.commas keys) ++ Code.words "= keys ;" ++
      (l.loads.mapIdx (RelationLoad.code n)).flatten ++ okOf (l.value.code n))

namespace QueriesUnit

/-- The fields after the driver. -/
def fieldNames (u : QueriesUnit) : List Ident :=
  u.adapters.map AdapterField.name ++ u.mappers.map MapperField.name

def code (n : Naming) (u : QueriesUnit) : Code :=
  let fields := (Code.words "driver :" ++ n.sharedDriverType) ::
    (u.adapters.map fun f => Code.typed f.name (n.adapterType f)) ++
    (u.mappers.map fun f => Code.typed f.name (Code.shared f.mapper.sibling))
  Code.comment (" Statements behind [" ++ quoted u.declaration ++ "].") ++
    Code.words "pub struct" ++ u.name.code ++ Code.braces (Code.commasAfter fields) ++
    Code.word "impl" ++ u.name.code ++ Code.braces (
      Code.word "#" ++ Code.brackets (
        Code.word "allow" ++ Code.parens (Code.words "clippy :: too_many_arguments")) ++
      Code.words "pub fn new" ++ Code.parens (Code.commas fields) ++ Code.words "-> Self" ++
        Code.braces (Code.word "Self" ++
          Code.braces (Code.commas (Code.word "driver" :: u.fieldNames.map Ident.code))) ++
      u.methods.flatMap (Method.code n) ++
      u.loaders.flatMap (Loader.code n))

end QueriesUnit

end DaoForge
