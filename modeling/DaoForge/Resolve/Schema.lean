import DaoForge.Resolve.Session

/-!
# DaoForge.Resolve.Schema

Resolution of a whole catalog: every entity, then every database, in declaration order and in one
session. A declaration that fails is left out and its problems are listed; the rest is still resolved.
The report of a run holds each problem once.

`ResolvedSchema.process` hands what was resolved to a handler, which may find problems of its own.
-/

namespace DaoForge

/-- What a catalog declares, as far as it resolves. -/
structure ResolvedSchema where
  entities : List Entity
  databases : List Database
  /-- The problems of the declarations that failed, each once. -/
  diagnostics : List Diagnostic
  deriving Repr

/-- The successes and the problems of several answers, both in order. -/
def partitionAnswers {α : Type} : List (Except (List Diagnostic) α) → List α × List Diagnostic
  | [] => ([], [])
  | .ok a :: rest => let (oks, faults) := partitionAnswers rest; (a :: oks, faults)
  | .error e :: rest => let (oks, faults) := partitionAnswers rest; (oks, e ++ faults)

namespace Catalog

/-- Qualified names of the declarations with an annotation. -/
def namesWith (c : Catalog) (name : String) : List String :=
  (c.annotatedWith name).map Declaration.qualifiedName

/-- Resolves every entity and every database. -/
def resolveSchema (c : Catalog) : Run ResolvedSchema := do
  let (entities, entityFaults) :=
    partitionAnswers (← (c.namesWith "Entity").mapM (c.byName (Session.entity c)))
  let (databases, databaseFaults) :=
    partitionAnswers (← (c.namesWith "Database").mapM c.database)
  return { entities, databases, diagnostics := distinct (entityFaults ++ databaseFaults) }

/-- What a run that starts with the catalog resolves. -/
def schema (c : Catalog) : ResolvedSchema := (c.resolveSchema.run {}).run.1

end Catalog

namespace ResolvedSchema

def isSuccess (s : ResolvedSchema) : Bool := s.diagnostics.isEmpty

/-- What resolved, as a document. -/
def toTree (s : ResolvedSchema) : Tree :=
  .record [("entities", .list (s.entities.map Entity.toTree)),
    ("databases", .list (s.databases.map Database.toTree))]

/-- The database of a qualified or simple name. -/
def database? (s : ResolvedSchema) (name : String) : Option Database :=
  s.databases.find? fun d => d.declaration == name || d.simpleName == name

end ResolvedSchema

/-! ## handing on -/

/-- What is done with each resolved entity and database. It answers with the problems it found. -/
structure Handler (m : Type → Type) where
  entity : Entity → m (List Diagnostic)
  database : Database → m (List Diagnostic)

/-- Summary of a run. -/
structure Report where
  /-- Entities that were handed on. -/
  entities : Nat
  /-- Databases that were handed on. -/
  databases : Nat
  /-- Every problem, of resolution first, each once. -/
  diagnostics : List Diagnostic
  deriving Repr

def Report.isSuccess (r : Report) : Bool := r.diagnostics.isEmpty

namespace ResolvedSchema

variable {m : Type → Type} [Monad m]

/-- Hands each entity, then each database, to a handler. -/
def process (s : ResolvedSchema) (handler : Handler m) : m Report := do
  let ofEntities ← s.entities.mapM handler.entity
  let ofDatabases ← s.databases.mapM handler.database
  return {
    entities := s.entities.length
    databases := s.databases.length
    diagnostics := distinct (s.diagnostics ++ ofEntities.flatten ++ ofDatabases.flatten) }

end ResolvedSchema

end DaoForge
