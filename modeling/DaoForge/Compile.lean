import DaoForge.Resolve.Schema
import DaoForge.Unit.Basic
import DaoForge.Unit.Database
import DaoForge.Unit.Table

/-!
# DaoForge.Compile

A run over a catalog: everything is resolved, and code is generated for what resolved.

An entity gives a table and a mapper, a DAO its queries and an implementation, a database a schema and
an implementation. Entities and DAOs that several databases share are generated once. A declaration
whose code cannot be composed gives no unit at all; it is reported, remembered, and reported as a
failed dependency wherever it is met again. A database that depends on one is left out.
-/

namespace DaoForge

/-- The content of a unit. -/
inductive UnitContent where
  | table (unit : TableUnit)
  | mapper (unit : MapperUnit)
  | queries (unit : QueriesUnit)
  | dao (unit : DaoUnit)
  | schema (unit : SchemaUnit)
  | database (unit : DatabaseUnit)
  deriving Repr

namespace UnitContent

def kind : UnitContent → UnitKind
  | .table _ => .table
  | .mapper _ => .mapper
  | .queries _ => .queries
  | .dao _ => .dao
  | .schema _ => .schema
  | .database _ => .database

/-- The type that the unit defines. -/
def name : UnitContent → Ident
  | .table unit => unit.name
  | .mapper unit => unit.name
  | .queries unit => unit.name
  | .dao unit => unit.name
  | .schema unit => unit.name
  | .database unit => unit.name

/-- Qualified name of the declaration that the unit is generated from. -/
def declaration : UnitContent → String
  | .table unit => unit.declaration
  | .mapper unit => unit.declaration
  | .queries unit => unit.declaration
  | .dao unit => unit.declaration
  | .schema unit => unit.declaration
  | .database unit => unit.declaration

def code (n : Naming) : UnitContent → Code
  | .table unit => unit.code n
  | .mapper unit => unit.code n
  | .queries unit => unit.code n
  | .dao unit => unit.code n
  | .schema unit => unit.code n
  | .database unit => unit.code n

/-- The unit as it is written. -/
def generated (n : Naming) (u : UnitContent) : GeneratedUnit where
  name := u.name.name
  qualifiedName := n.qualified u.name.name
  module := snakeCase u.name.name
  kind := u.kind
  source := sourceText (u.code n)

end UnitContent

/-! ## progress -/

/-- What a run has generated so far. -/
structure Progress where
  /-- Entities that are done, with the adapters of their mappers. -/
  entities : List (String × List AdapterKey) := []
  /-- DAOs that are done, with what their queries are constructed with. -/
  daos : List (String × QueriesUnit) := []
  /-- Declarations whose code could not be composed. -/
  failed : List String := []
  /-- Units in the order in which they were generated. -/
  units : List UnitContent := []
  /-- The units that were there when a name was first met that a run stops at. -/
  untilStop : Option (List UnitContent) := none

/-- A value that was noted for a declaration. -/
def noted? {α : Type} (entries : List (String × α)) (declaration : String) : Option α :=
  (entries.find? fun entry => entry.1 == declaration).map (·.2)

namespace QueriesUnit

/-- The adapters that the constructor takes. -/
def adapterKeys (u : QueriesUnit) : List AdapterKey := u.adapters.map AdapterField.key

/-- The entities whose mappers the constructor takes. -/
def mappedEntities (u : QueriesUnit) : List Entity := u.mappers.map MapperField.entity

end QueriesUnit

namespace Progress

/-- Progress after the units of an entity. -/
def addEntity (p : Progress) (e : Entity) (table : TableUnit) (mapper : MapperUnit) : Progress :=
  { p with
    entities := p.entities ++ [(e.declaration, mapper.adapters.map AdapterField.key)]
    units := p.units ++ [.table table, .mapper mapper] }

/-- Progress after the units of a DAO. -/
def addDao (p : Progress) (d : Dao) (queries : QueriesUnit) (dao : DaoUnit) : Progress :=
  { p with
    daos := p.daos ++ [(d.declaration, queries)]
    units := p.units ++ [.queries queries, .dao dao] }

/-- Progress after the units of a database. -/
def addDatabase (p : Progress) (schema : SchemaUnit) (database : DatabaseUnit) : Progress :=
  { p with units := p.units ++ [.schema schema, .database database] }

/-- Progress after an error: if a run stops at it, the first such error settles which units it leaves. -/
def meet (p : Progress) (error : SpecError) : Progress :=
  { p with untilStop := p.untilStop <|> error.stop?.map fun _ => p.units }

/-- Notes that a declaration failed. -/
def fail (declaration : String) (error : SpecError) : StateM Progress (List Diagnostic) := do
  modify fun p => { p.meet error with failed := p.failed ++ [declaration] }
  return [⟨declaration, error⟩]

/-- Generates the units of a declaration, unless that was done before; `add` takes them in. -/
def generateOnce {α : Type} (declaration : String) (isDone : Progress → Bool)
    (units : Except GenerationError α) (add : Progress → α → Progress) :
    StateM Progress (List Diagnostic) := do
  let progress ← get
  if isDone progress then return []
  if progress.failed.contains declaration then return [dependencyFailed declaration declaration]
  match units with
  | .error error => fail declaration (.generation error)
  | .ok units =>
    set (add progress units)
    return []

/-- Generates the units of an entity. -/
def ensureEntity (n : Naming) (e : Entity) : StateM Progress (List Diagnostic) :=
  let units := do return (← TableUnit.of n e, ← MapperUnit.of n e)
  generateOnce e.declaration (fun p => (noted? p.entities e.declaration).isSome) units
    fun p (table, mapper) => p.addEntity e table mapper

/-- Generates the units of a DAO. -/
def ensureDao (n : Naming) (d : Dao) : StateM Progress (List Diagnostic) :=
  let units := do return (← QueriesUnit.of n d, ← DaoUnit.of n d)
  generateOnce d.declaration (fun p => (noted? p.daos d.declaration).isSome) units
    fun p (queries, dao) => p.addDao d queries dao

/-- The mappers that a database creates: one for each of its entities. -/
def mapperWirings (p : Progress) (d : Database) : Except SpecError (List MapperWiring) :=
  d.entities.mapM fun e =>
    match noted? p.entities e.declaration with
    | some adapters => .ok ⟨e, adapters⟩
    | none => .error (.resolution (.dependencyFailed e.declaration))

/-- The queries holders that a database creates: one for each DAO that it gives out. -/
def queriesWirings (p : Progress) (d : Database) : Except SpecError (List QueriesWiring) :=
  (distinctBy Dao.declaration (d.getters.map DaoGetter.dao)).mapM fun dao =>
    match noted? p.daos dao.declaration with
    | some queries => .ok ⟨dao, queries.adapterKeys, queries.mappedEntities⟩
    | none => .error (.resolution (.dependencyFailed dao.declaration))

/-- The units of a database whose entities and DAOs are done. -/
def databaseUnits (n : Naming) (p : Progress) (d : Database) :
    Except SpecError (SchemaUnit × DatabaseUnit) := do
  let mappers ← p.mapperWirings d
  let queries ← p.queriesWirings d
  let schema ← composing (SchemaUnit.of n d)
  return (schema, ← DatabaseUnit.of n d mappers queries)

/-- Generates the units of a database, after those of its entities and DAOs. -/
def ensureDatabase (n : Naming) (d : Database) : StateM Progress (List Diagnostic) := do
  let ofEntities ← d.entities.mapM (ensureEntity n)
  let ofDaos ← d.getters.mapM fun g => ensureDao n g.dao
  match ofEntities.flatten ++ ofDaos.flatten with
  | [] =>
    let progress ← get
    match databaseUnits n progress d with
    | .error error =>
      set (progress.meet error)
      return [⟨d.declaration, error⟩]
    | .ok (schema, database) =>
      set (progress.addDatabase schema database)
      return []
  | diagnostics => return diagnostics

/-- Generates code for what is resolved. -/
def handler (n : Naming) : Handler (StateM Progress) where
  entity := ensureEntity n
  database := ensureDatabase n

end Progress

/-! ## runs -/

/-- The outcome of a run. -/
structure Compilation where
  /-- What was resolved, and every problem. -/
  report : Report
  /-- The units, in the order in which they were generated. -/
  contents : List UnitContent
  /-- The units as they are written. -/
  units : List GeneratedUnit
  /-- Those among them that a run leaves which stops on the way. -/
  untilStop : List GeneratedUnit

/-- The name that the run stops at. -/
def Compilation.stop? (r : Compilation) : Option String :=
  r.report.diagnostics.findSome? fun x => x.error.stop?

/-- Why a run has no outcome. -/
inductive CompileError where
  | options (cause : OptionError)
  /-- A name has no identifier, and is not refused for it. These units were generated before. -/
  | stopped (name : String) (units : List GeneratedUnit)

def CompileError.message : CompileError → String
  | .options cause => cause.message
  | .stopped name _ => (GenerationError.unwritableIdentifier name).message

/-- Resolves a catalog and generates code for it, as if no name stopped the run. -/
def Catalog.compileWith (c : Catalog) (n : Naming) : Compilation :=
  let (report, progress) := ((c.schema.process (Progress.handler n)).run {}).run
  let units := progress.units.map (UnitContent.generated n)
  let untilStop := (progress.untilStop.getD progress.units).map (UnitContent.generated n)
  { report, contents := progress.units, units, untilStop }

/-- Resolves a catalog and generates code for it with the given options. -/
def Catalog.compile (c : Catalog) (o : Options) : Except CompileError Compilation := do
  let n ← (Naming.ofOptions o).mapError .options
  let r := c.compileWith n
  match r.stop? with
  | some name => throw (.stopped name r.untilStop)
  | none => return r

end DaoForge
