import DaoForge.Resolve.Compound
import DaoForge.Schema.Dao

/-!
# DaoForge.Resolve.Operation

Resolution of the functions of a DAO. A function carries exactly one of the four operation
annotations.

* A query's placeholders and parameters must be the same names; a statement that produces rows must
  return a row, an `Option` or a list of rows, any other one nothing or a number of rows.
* An insert, update or delete takes one parameter: an entity, or a list of entities.

The problems of a function are its own, and those of a broken compound that its rows become. The
latter are kept apart (`Finding.dependency`), so that they can be listed once in a run however many
functions meet them; that the compound is broken is listed each time.
-/

namespace DaoForge

/-- A problem of a function or getter. -/
inductive Finding where
  /-- Its own problem. -/
  | own (diagnostic : Diagnostic)
  /-- A declaration that it depends on has problems. -/
  | dependency (anchor declaration : String) (diagnostics : List Diagnostic)
  deriving DecidableEq, Repr

namespace Finding

/-- Lists findings: the problems of a dependency are listed where its name first occurs. `reported` are
the names that occurred before; the names that occurred after are returned. -/
def list (reported : List String) : List Finding → List Diagnostic × List String
  | [] => ([], reported)
  | .own d :: rest =>
    let (diagnostics, reported) := list reported rest
    (d :: diagnostics, reported)
  | .dependency anchor name theirs :: rest =>
    if reported.contains name then
      let (diagnostics, reported) := list reported rest
      (dependencyFailed anchor name :: diagnostics, reported)
    else
      let (diagnostics, reported) := list (name :: reported) rest
      (theirs ++ dependencyFailed anchor name :: diagnostics, reported)

end Finding

/-- An own problem. -/
def problem (anchor : String) (error : SpecError) : Finding := .own ⟨anchor, error⟩

/-! ## which operation -/

/-- The annotation that selects an operation. -/
inductive OperationMark where
  | query (mark : QueryMark)
  | insert (mark : InsertMark)
  | update (mark : UpdateMark)
  | delete (mark : DeleteMark)
  deriving Repr

/-- Reads the operation annotation of a kind. -/
def readOperation {R : Type} [MarkRecord R] (anchor : String) (annotations : List Mark)
    (wrap : R → OperationMark) : Checked Finding OperationMark :=
  match Mark.find R annotations with
  | .ok (some mark) => return wrap mark
  | .ok none => .fail []
  | .error error => .fail [problem anchor (.validation error)]

/-- The operation annotations of a function, by name and reader. -/
def operationReaders : List (String × (String → List Mark → Checked Finding OperationMark)) :=
  [("Query", fun anchor marks => readOperation anchor marks .query),
    ("Insert", fun anchor marks => readOperation anchor marks .insert),
    ("Update", fun anchor marks => readOperation anchor marks .update),
    ("Delete", fun anchor marks => readOperation anchor marks .delete)]

/-- The one operation annotation of a function. -/
def Function.operationMark (f : Function) (anchor : String) : Checked Finding OperationMark :=
  match operationReaders.filter fun reader => Mark.isPresent f.annotations reader.1 with
  | [] => .fail [problem anchor (.validation (.missingQueryMark f.name))]
  | [reader] => reader.2 anchor f.annotations
  | readers =>
    .fail [problem anchor (.validation (.conflictingQueryMarks f.name
      (", ".intercalate (readers.map fun reader => "@" ++ reader.1))))]

/-! ## results -/

/-- Integer types in which a number of rows can be returned. -/
def rowCountTypes : List String := ["i32", "i64", "u32", "u64", "usize", "isize"]

/-- A `Result` and the type inside it. -/
def splitResult (declared : TypeExpr) : ReturnWrapping × TypeExpr :=
  if declared.nullable || declared.simpleName != "Result" then (.plain, declared)
  else
    match declared.arguments with
    | [value] => (.result, value)
    | [value, error] => (.resultWith error, value)
    | _ => (.plain, declared)

/-- The result of a statement without rows. -/
def writeShape (f : Function) (returns : TypeExpr) (anchor : String) :
    Checked Finding ReturnShape :=
  if returns.isUnit then return .unit
  else if !returns.nullable && returns.arguments.isEmpty && rowCountTypes.contains returns.name then
    return .affectedRows returns
  else
    .fail [problem anchor (.validation (.returnTypeMismatch f.name
      "statements without rows return () or an integer row count" returns.source))]

/-- A row that is neither entity nor compound: its first column. -/
def Catalog.scalarRow (c : Catalog) (t : TypeExpr) (anchor : String) : Checked Finding RowType :=
  Checked.ofOption (problem anchor (.resolution (.unsupportedReturnType t.source)))
    ((c.valueMapping? t).map (.scalar t))

section Dependencies

variable {m : Type → Type} [Monad m]

/-- The compound that a row becomes. -/
def compoundRow (compounds : Resolver m Compound) (d : Declaration) (anchor : String) :
    CheckedT Finding m Compound :=
  .mk do
    match ← compounds d with
    | .ok compound => return pure compound
    | .error diagnostics => return .fail [.dependency anchor d.qualifiedName diagnostics]

/-- What a row of a type becomes. -/
def Catalog.rowType (c : Catalog) (entities : Resolver m Entity) (compounds : Resolver m Compound)
    (t : TypeExpr) (anchor : String) : CheckedT Finding m RowType :=
  match c.resolve? t with
  | none => CheckedT.lift (c.scalarRow t anchor)
  | some d =>
    if Mark.has EntityMark d.annotations then do
      return .entity (← (c.dependentEntity entities anchor t).mapFound .own)
    else if c.isCompound d then do
      return .compound (← compoundRow compounds d anchor)
    else CheckedT.lift (c.scalarRow t anchor)

/-- The result of a statement with rows: a list if the type is one, else an optional row if it is
nullable, else one row. -/
def Catalog.readShape (c : Catalog) (entities : Resolver m Entity) (compounds : Resolver m Compound)
    (f : Function) (returns : TypeExpr) (anchor : String) : CheckedT Finding m ReturnShape :=
  if returns.isUnit then
    .lift <| .fail [problem anchor (.validation (.returnTypeMismatch f.name
      "a query returning rows needs a row, Option or Vec return type" returns.source))]
  else
    match returns.listElement? with
    | some element => do return .list (← c.rowType entities compounds element anchor)
    | none =>
      if returns.nullable then do
        return .optional (← c.rowType entities compounds returns.nonNull anchor)
      else do return .single (← c.rowType entities compounds returns anchor)

end Dependencies

/-! ## parameters -/

/-- How a parameter of a query is bound: a list by its elements, any other type as one value. -/
def Catalog.bindingOf? (c : Catalog) (t : TypeExpr) : Option Binding :=
  match t.listElement? with
  | some element => (c.valueMapping? element).map .list
  | none => (c.valueMapping? t).map .value

/-- A parameter of a query. -/
def Catalog.queryParameter (c : Catalog) (anchor : String) (p : Parameter) :
    Checked Finding BoundParameter := do
  let binding ← Checked.ofOption
    (problem anchor (.resolution (.unsupportedParameterType p.name p.type.source)))
    (c.bindingOf? p.type)
  return ⟨p.name, p.type, binding⟩

/-- Placeholders without a parameter, each once, and parameters without a placeholder. -/
def bindingFaults (anchor : String) (placeholders parameters : List String) : List Finding :=
  (distinct (placeholders.filter fun name => !parameters.contains name)).map (fun name =>
      problem anchor (.binding (.unboundQueryParameter name))) ++
    (parameters.filter fun name => !placeholders.contains name).map fun name =>
      problem anchor (.binding (.unusedQueryParameter name))

/-- The entity type of the one parameter, and whether it is a list. An entity that the annotation
names must be the parameter's; an optional parameter is refused. -/
def Catalog.targetType (c : Catalog) (p : Parameter) (expected : Option TypeExpr)
    (anchor : String) : Checked Finding (TypeExpr × Bool) :=
  let (type, isList) :=
    match p.type.listElement? with
    | some element => (element, true)
    | none => (p.type, false)
  let mismatch (expected : TypeExpr) : Checked Finding (TypeExpr × Bool) :=
    .fail [problem anchor (.binding
      (.entityParameterMismatch p.name expected.source p.type.source))]
  match expected with
  | some expected =>
    let agrees :=
      match c.resolve? expected, c.resolve? type with
      | some d, some d' => d.qualifiedName == d'.qualifiedName
      | _, _ => false
    if !agrees || type.nullable then mismatch expected else return (type, isList)
  | none => if type.nullable then mismatch type.nonNull else return (type, isList)

/-- What the body of an operation resolves to. -/
abbrev OperationBody := List BoundParameter × OperationKind × ReturnShape

section Dependencies

variable {m : Type → Type} [Monad m]

/-- The result of a function with SQL of its own. -/
def Catalog.queryShape (c : Catalog) (entities : Resolver m Entity) (compounds : Resolver m Compound)
    (f : Function) (query : RawQuery) (returns : TypeExpr) (anchor : String) :
    CheckedT Finding m ReturnShape :=
  if query.statement.returnsRows then c.readShape entities compounds f returns anchor
  else CheckedT.lift (writeShape f returns anchor)

/-- A function with SQL of its own. -/
def Catalog.rawOperation (c : Catalog) (entities : Resolver m Entity)
    (compounds : Resolver m Compound) (f : Function) (mark : QueryMark) (returns : TypeExpr)
    (anchor : String) : CheckedT Finding m OperationBody :=
  if isBlankText mark.value then
    .lift <| .fail [problem anchor (.validation (.emptyQuery f.name))]
  else
    match RawQuery.ofSql mark.value with
    | .error error => .lift <| .fail [problem anchor (.binding error)]
    | .ok query => do
      let parameters ← .lift <| .all (f.parameters.map (c.queryParameter anchor))
      .lift <| .report (bindingFaults anchor query.bindings (f.parameters.map Parameter.name))
      let shape ← c.queryShape entities compounds f query returns anchor
      return (parameters, .raw query, shape)

/-- A function that writes entities. -/
def Catalog.entityOperation (c : Catalog) (entities : Resolver m Entity) (f : Function)
    (expected : Option TypeExpr) (strategy : ConflictStrategy)
    (wrap : EntityOperation → OperationKind) (returns : TypeExpr) (anchor : String) :
    CheckedT Finding m OperationBody :=
  match f.parameters with
  | [p] => do
    let (type, isList) ← .lift (c.targetType p expected anchor)
    let entity ← (c.dependentEntity entities anchor type).mapFound .own
    let shape ← .lift (writeShape f returns anchor)
    let binding : Binding := if isList then .entityList entity else .entity entity
    return ([⟨p.name, p.type, binding⟩], wrap ⟨entity, p.name, isList, strategy⟩, shape)
  | _ => .lift <| .fail [problem anchor (.validation (.entityParameterCount f.name))]

/-- The body of an operation. -/
def Catalog.operationBody (c : Catalog) (entities : Resolver m Entity)
    (compounds : Resolver m Compound) (f : Function) (mark : OperationMark) (returns : TypeExpr)
    (anchor : String) : CheckedT Finding m OperationBody :=
  match mark with
  | .query mark => c.rawOperation entities compounds f mark returns anchor
  | .insert mark => c.entityOperation entities f mark.entity mark.onConflict .insert returns anchor
  | .update mark => c.entityOperation entities f mark.entity mark.onConflict .update returns anchor
  | .delete mark => c.entityOperation entities f mark.entity .abort .delete returns anchor

/-- Resolves a function of a DAO. -/
def Catalog.operation (c : Catalog) (entities : Resolver m Entity) (compounds : Resolver m Compound)
    (owner : String) (f : Function) : CheckedT Finding m Operation := do
  let anchor := Diagnostic.memberAnchor owner f.name
  let mark ← .lift (f.operationMark anchor)
  let declared := f.returnTypeOrUnit
  let (wrapping, inner) := splitResult declared
  let (parameters, kind, shape) ← c.operationBody entities compounds f mark inner anchor
  return { function := f.name, parameters, returns := ⟨declared, wrapping, shape⟩, kind }

/-! ## DAOs -/

/-- The functions of a DAO. -/
def Catalog.daoBody (c : Catalog) (entities : Resolver m Entity) (compounds : Resolver m Compound)
    (d : Declaration) : CheckedT Finding m Dao := do
  let owner := d.qualifiedName
  .lift <| .report ((readMark DaoMark owner d.annotations).2.map .own)
  let operations ← .all
    ((d.functions.filter Function.isAbstract).map (c.operation entities compounds owner))
  return { declaration := owner, operations }

/-- Resolves a DAO, with its findings still to be listed. -/
def Catalog.resolveDao (c : Catalog) (entities : Resolver m Entity)
    (compounds : Resolver m Compound) (d : Declaration) : m (Except (List Finding) Dao) := do
  let owner := d.qualifiedName
  if !Mark.has DaoMark d.annotations then
    return .error [problem owner (.resolution (.notADao owner))]
  else if !d.isTrait then return .error [problem owner (.validation (.notATrait owner))]
  else return (← (c.daoBody entities compounds d).run).toExcept

end Dependencies

/-- The DAO of a declaration. -/
def Catalog.daoFindings (c : Catalog) (d : Declaration) : Except (List Finding) Dao :=
  (c.resolveDao (.known c.entityOf) (.known c.compoundOf) d).run

end DaoForge
