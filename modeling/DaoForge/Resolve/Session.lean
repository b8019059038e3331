import DaoForge.Resolve.Operation
import DaoForge.Schema.Database

/-!
# DaoForge.Resolve.Session

Resolution in one run. A `Session` remembers the answer that was given for each declaration, good or
bad, and which problems were listed: those of a broken compound or DAO are listed where it is first
met, and later only its name is.

* `Session.remember` gives the answer of the first time, or resolves;
* `Session.shape`, `entity`, `compound` and `dao` resolve through it, each from the others' answers;
  databases are not remembered;
* `Call` is a question that a run can be asked, `Call.answer` its answer.

Whether a declaration resolves never depends on the session, nor does what it resolves to.
-/

namespace DaoForge

/-- Answers by the qualified names of the declarations, the newest first. -/
abbrev Answers (α : Type) := List (String × Except (List Diagnostic) α)

/-- What a run has answered and listed so far. -/
structure Session where
  /-- Entities without their foreign keys. -/
  shapes : Answers Entity := []
  entities : Answers Entity := []
  compounds : Answers Compound := []
  daos : Answers Dao := []
  /-- Broken compounds and DAOs whose problems were listed. -/
  reported : List String := []

/-- A step of a run. -/
abbrev Run (α : Type) := StateM Session α

/-- Where a session keeps the answers of one kind. -/
structure Shelf (α : Type) where
  answers : Session → Answers α
  keep : Session → Answers α → Session

namespace Shelf

def shapes : Shelf Entity := ⟨Session.shapes, fun s answers => { s with shapes := answers }⟩

def entities : Shelf Entity := ⟨Session.entities, fun s answers => { s with entities := answers }⟩

def compounds : Shelf Compound :=
  ⟨Session.compounds, fun s answers => { s with compounds := answers }⟩

def daos : Shelf Dao := ⟨Session.daos, fun s answers => { s with daos := answers }⟩

end Shelf

namespace Session

/-- Lists findings, and remembers the dependencies among them. -/
def list (findings : List Finding) : Run (List Diagnostic) := do
  let session ← get
  let (diagnostics, reported) := Finding.list session.reported findings
  set { session with reported }
  return diagnostics

/-- Gives the answer of the first time, or resolves and keeps the answer. -/
def remember {α : Type} (shelf : Shelf α) (resolver : Resolver Run α) : Resolver Run α := fun d => do
  match (shelf.answers (← get)).find? fun known => known.1 == d.qualifiedName with
  | some known => return known.2
  | none =>
    let answer ← resolver d
    modify fun session =>
      shelf.keep session ((d.qualifiedName, answer) :: shelf.answers session)
    return answer

/-- The shape of an entity. -/
def shape (c : Catalog) : Resolver Run Entity :=
  remember .shapes fun d => return c.entityShape d

/-- The entity of a declaration. -/
def entity (c : Catalog) : Resolver Run Entity :=
  remember .entities (c.resolveEntity (shape c))

/-- The compound of a declaration. -/
def compound (c : Catalog) : Resolver Run Compound :=
  remember .compounds (c.resolveCompound (entity c))

/-- The answer for a DAO, from its findings. -/
def listDao : Except (List Finding) Dao → Run (Except (List Diagnostic) Dao)
  | .ok dao => return .ok dao
  | .error findings => return .error (← list findings)

/-- The DAO of a declaration. -/
def dao (c : Catalog) : Resolver Run Dao :=
  remember .daos fun d => do listDao (← c.resolveDao (entity c) (compound c) d)

end Session

/-! ## what a database needs -/

/-- The entities that a database needs: targets of foreign keys, and what its DAOs touch. -/
def requiredEntities (entities : List Entity) (getters : List DaoGetter) : List String :=
  distinct <| entities.flatMap (fun e => e.foreignKeys.map ForeignKey.entity) ++
    getters.flatMap fun g => g.dao.entities.map Entity.declaration

/-- The adapters that a database needs, in the order of first use. -/
def requiredAdapters (entities : List Entity) (getters : List DaoGetter) : List AdapterKey :=
  distinct (entities.flatMap Entity.adapters ++ getters.flatMap fun g => g.dao.adapters)

namespace Catalog

/-- Resolves the DAO of a name. -/
def dao (c : Catalog) (name : String) : Run (Except (List Diagnostic) Dao) :=
  c.byName (Session.dao c) name

/-! ## databases -/

/-- The DAO type inside a getter's return type: without the reference and `dyn` in front of it. -/
def getterType (t : TypeExpr) : TypeExpr :=
  let name := (t.name.toList.dropWhile (· == '&')).dropWhile CharClass.isBlank
  let name :=
    match name with
    | 'd' :: 'y' :: 'n' :: ' ' :: rest => rest
    | _ => name
  { t with name := String.ofList (trimBlankChars name) }

/-- The DAO that a getter returns. -/
def getterTarget? (c : Catalog) (f : Function) : Option Declaration :=
  (c.resolve? (getterType f.returnTypeOrUnit)).filter fun d => Mark.has DaoMark d.annotations

/-- A function of a database that returns a DAO. -/
def getter (c : Catalog) (owner : String) (f : Function) : Run (Checked Diagnostic DaoGetter) :=
  let anchor := Diagnostic.memberAnchor owner f.name
  if !f.parameters.isEmpty then
    return .fail [⟨anchor, .validation (.getterWithParameters f.name)⟩]
  else
    match c.getterTarget? f with
    | none =>
      return .fail [⟨anchor, .resolution (.notADao (getterType f.returnTypeOrUnit).source)⟩]
    | some d => do
      match ← Session.dao c d with
      | .ok dao => return pure ⟨f.name, dao⟩
      | .error diagnostics =>
        return .fail (← Session.list [.dependency anchor d.qualifiedName diagnostics])

/-- The converter that a database lists, with the adapter it provides. -/
def listedConverter (c : Catalog) (owner : String) (t : TypeExpr) :
    Checked Diagnostic Converter := do
  let d ← Checked.ofOption ⟨owner, .resolution (.unresolvedType t.source)⟩ (c.resolve? t)
  let invalid (reason : String) : Diagnostic :=
    ⟨owner, .resolution (.invalidTypeConverter d.qualifiedName reason)⟩
  if d.isTrait then Checked.fail [invalid "a converter must be a struct"]
  else if d.adapterSupertype?.isNone then
    Checked.fail [invalid "it does not implement ColumnAdapter<T, S>"]
  else
    match d.converts? with
    | none =>
      Checked.fail [invalid
        "ColumnAdapter<T, S> needs S to be one of i64, f64, String or Vec<u8>"]
    | some (source, affinity) => return ⟨d.type, .of source affinity⟩

/-- Takes in a listed converter; two that provide one adapter are reported. -/
def addConverter (owner : String) (taken : List Converter × List Diagnostic)
    (candidate : Checked Diagnostic Converter) : List Converter × List Diagnostic :=
  match candidate.value? with
  | none => (taken.1, taken.2 ++ candidate.found)
  | some converter =>
    match taken.1.find? fun existing => existing.reference == converter.reference with
    | none => (taken.1 ++ [converter], taken.2 ++ candidate.found)
    | some existing =>
      (taken.1, taken.2 ++ candidate.found ++
        [⟨owner, .resolution (.invalidTypeConverter converter.converter.name
          (quoted existing.converter.source ++ " already converts " ++
            converter.reference.text))⟩])

/-- Provides an adapter: a built-in one and one that a converter provides need nothing more; else the
first converter serves whose type is the same up to spelling. -/
def provideAdapter (owner : String) (taken : List Converter × List Diagnostic)
    (reference : AdapterKey) : List Converter × List Diagnostic :=
  if reference.builtin?.isSome || taken.1.any fun c => c.reference == reference then taken
  else
    let provider := taken.1.find? fun c =>
      c.reference.affinity == reference.affinity &&
        c.reference.sourceType.same reference.sourceType
    match provider with
    | some c => (taken.1 ++ [⟨c.converter, reference⟩], taken.2)
    | none =>
      (taken.1, taken.2 ++ [⟨owner, .resolution (.missingTypeConverter
        reference.sourceType.source (Constant.name reference.affinity))⟩])

/-- A database, from its annotations, the entities that it lists and its getters. -/
def assembleDatabase (c : Catalog) (owner : String) (version : Int64)
    (converters : TypeConvertersMark) (listed : Checked Diagnostic (List Entity))
    (getters : Checked Diagnostic (List DaoGetter)) : Checked Diagnostic Database :=
  let entities := distinctBy Entity.declaration (listed.value?.getD [])
  let (declared, converterFaults) :=
    (converters.value.map (c.listedConverter owner)).foldl (addConverter owner) ([], [])
  let daos := getters.value?.getD []
  let unlisted := (requiredEntities entities daos).filter fun name =>
    !(entities.map Entity.declaration).contains name
  let adapters := requiredAdapters entities daos
  let (provided, adapterFaults) := adapters.foldl (provideAdapter owner) (declared, [])
  { value? := some
      { declaration := owner
        version
        entities
        getters := daos
        converters := provided
        adapters }
    found := listed.found ++ converterFaults ++ getters.found ++
      unlisted.map (fun name => ⟨owner, .resolution (.entityNotInDatabase name)⟩) ++ adapterFaults }

/-- Resolves a database that is marked so. Its getters are asked for in order, since the first to meet
a broken DAO lists its problems. -/
def markedDatabase (c : Catalog) (d : Declaration) (record : DatabaseMark) :
    Run (Except (List Diagnostic) Database) := do
  let owner := d.qualifiedName
  let (converters, converterFaults) := readMark TypeConvertersMark owner d.annotations
  let listed ←
    (CheckedT.all (record.entities.map (c.dependentEntity (Session.entity c) owner))).run
  let getters ← (d.functions.filter Function.isAbstract).mapM (c.getter owner)
  return Checked.toExcept do
    Checked.report converterFaults
    c.assembleDatabase owner record.version (converters.getD {}) listed (Checked.all getters)

/-- Resolves a database: a trait that is marked so, and well. -/
def databaseOf (c : Catalog) (d : Declaration) : Run (Except (List Diagnostic) Database) := do
  let owner := d.qualifiedName
  if !d.isTrait then return .error [⟨owner, .validation (.notATrait owner)⟩]
  match Mark.find DatabaseMark d.annotations with
  | .error error => return .error [⟨owner, .validation error⟩]
  | .ok none => return .error [⟨owner, .validation (.missingMark owner "Database")⟩]
  | .ok (some record) => c.markedDatabase d record

/-- Resolves the database of a name. -/
def database (c : Catalog) (name : String) : Run (Except (List Diagnostic) Database) :=
  c.byName c.databaseOf name

end Catalog

/-! ## calls -/

/-- A question that a run can be asked. -/
inductive Call where
  | entity (name : String)
  | compound (name : String)
  | dao (name : String)
  | database (name : String)
  deriving DecidableEq, Repr

/-- The answer to a call. -/
inductive Reply where
  | entity (answer : Except (List Diagnostic) Entity)
  | compound (answer : Except (List Diagnostic) Compound)
  | dao (answer : Except (List Diagnostic) Dao)
  | database (answer : Except (List Diagnostic) Database)

namespace Call

/-- Answers a call. -/
def answer (c : Catalog) : Call → Run Reply
  | .entity name => return .entity (← c.byName (Session.entity c) name)
  | .compound name => return .compound (← c.byName (Session.compound c) name)
  | .dao name => return .dao (← c.dao name)
  | .database name => return .database (← c.database name)

end Call

end DaoForge
