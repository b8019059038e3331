import DaoForge.Declaration.Catalog
import DaoForge.Resolve.Checked
import DaoForge.Schema.Entity

/-!
# DaoForge.Resolve.Entity

Resolution of entities. A struct's properties become members, property by property in declaration
order; an embedded property takes in the members of its own struct. Then the construction, the column
names, the primary key and the indices are checked. The result is the entity's shape. Foreign keys are
checked against the shapes of other entities, so that entities may refer to one another.

What depends on other declarations takes a `Resolver` for them, and runs wherever that runs: in a run
that remembers its answers, or in none (`Catalog.entityOf`).
-/

namespace DaoForge

/-! ## constructions -/

/-- How a struct with the given required members is built: a declared constructor must take exactly
those, and a struct without one is written as a literal of all its properties. -/
def Declaration.construction (d : Declaration) (required : List String) (anchor : String) :
    Construction × List Diagnostic :=
  match d.constructor with
  | none => (⟨none, d.properties.map Property.name⟩, [])
  | some declared =>
    let parameters := declared.parameters.map Parameter.name
    let unmatched := parameters.filter fun p => !required.contains p
    let uncovered := required.filter fun m => !parameters.contains m
    (⟨some declared.name, parameters⟩,
      unmatched.map (fun p =>
        ⟨anchor, .generation (.unmatchedConstructorParameter d.qualifiedName p)⟩) ++
      uncovered.map fun m => ⟨anchor, .generation (.uncoveredMember d.qualifiedName m)⟩)

/-! ## members -/

/-- Where a list of members stands inside its entity. -/
structure MemberScope where
  /-- Qualified name of the entity. -/
  entity : String
  columnPrefix : String := ""
  /-- Some enclosing embedding is optional. -/
  nullable : Bool := false
  /-- Property path of the enclosing embedding. -/
  path : Option String := none
  /-- Properties that the entity lists as left out. -/
  ignored : List String := []
  /-- Qualified names from the entity down to the struct of the members. -/
  chain : List String
  deriving Repr

/-- A property marked as the primary key, with the columns it stands for. -/
structure KeyCandidate where
  anchor : String
  columns : List String
  record : PrimaryKeyMark
  deriving Repr

/-- What properties come to: members, candidates for the key, and problems. -/
structure MemberFindings where
  members : List Member := []
  keys : List KeyCandidate := []
  diagnostics : List Diagnostic := []

namespace MemberFindings

/-- Findings of several properties, in order. -/
def concat (findings : List MemberFindings) : MemberFindings where
  members := findings.flatMap MemberFindings.members
  keys := findings.flatMap MemberFindings.keys
  diagnostics := findings.flatMap MemberFindings.diagnostics

def problem (anchor : String) (error : SpecError) : MemberFindings :=
  { diagnostics := [⟨anchor, error⟩] }

end MemberFindings

/-- The marks of a property that decide what it becomes, all well formed. -/
structure PropertyMarks where
  info : ColumnInfoMark
  key : Option PrimaryKeyMark
  embedded : Option EmbeddedMark

/-- The annotation read as a record, with a malformed one reported. -/
def readMark (R : Type) [MarkRecord R] (anchor : String) (annotations : List Mark) :
    Option R × List Diagnostic :=
  match Mark.find R annotations with
  | .ok record => (record, [])
  | .error error => (none, [⟨anchor, error⟩])

/-- Reads the marks of a property; every malformed one is reported. -/
def Property.marks (p : Property) (anchor : String) : Except (List Diagnostic) PropertyMarks :=
  let (info, infoFaults) := readMark ColumnInfoMark anchor p.annotations
  let (key, keyFaults) := readMark PrimaryKeyMark anchor p.annotations
  let (embedded, embeddedFaults) := readMark EmbeddedMark anchor p.annotations
  match infoFaults ++ keyFaults ++ embeddedFaults with
  | [] => .ok ⟨info.getD {}, key, embedded⟩
  | faults => .error faults

namespace MemberScope

/-- Path of a property inside the entity. -/
def pathOf (s : MemberScope) (p : Property) : String :=
  match s.path with
  | some parent => parent ++ "." ++ p.name
  | none => p.name

/-- Anchor of a property's problems. -/
def anchorOf (s : MemberScope) (p : Property) : String :=
  Diagnostic.memberAnchor s.entity (s.pathOf p)

/-- Why a property is left out, if it is. -/
def ignoreReason? (s : MemberScope) (p : Property) : Option IgnoreReason :=
  if Mark.has IgnoreMark p.annotations then some .marked
  else if s.path.isNone && s.ignored.contains p.name then some .listed
  else none

/-- Column name of a property. -/
def columnName (s : MemberScope) (p : Property) (info : ColumnInfoMark) : String :=
  s.columnPrefix ++ (if info.name.isEmpty then p.name else info.name)

/-- The scope of the members of a property's own struct. -/
def nested (s : MemberScope) (p : Property) (embedded : EmbeddedMark) (target : Declaration) :
    MemberScope where
  entity := s.entity
  columnPrefix := s.columnPrefix ++ embedded.columnPrefix
  nullable := s.nullable || p.type.nullable
  path := some (s.pathOf p)
  chain := s.chain ++ [target.qualifiedName]

/-- The property as a column without storage. -/
def ignoredColumn (s : MemberScope) (p : Property) (info : ColumnInfoMark)
    (reason : IgnoreReason) : Column where
  property := p.name
  type := p.type
  name := s.columnName p info
  mapping := none
  isNullable := p.type.nullable || s.nullable
  collate := info.collate
  ignore := some reason
  embeddedIn := s.path

/-- The property as a column of the table. -/
def storedColumn (s : MemberScope) (p : Property) (info : ColumnInfoMark) (mapping : Mapping) :
    Column where
  property := p.name
  type := p.type
  name := s.columnName p info
  mapping := some mapping
  isNullable := p.type.nullable || s.nullable
  defaultValue := info.defaultValue
  collate := info.collate
  index := info.index
  embeddedIn := s.path

end MemberScope

/-- A property that is left out of the table, which must not be a key. -/
def ignoredMember (s : MemberScope) (p : Property) (marks : PropertyMarks) (reason : IgnoreReason) :
    MemberFindings :=
  if marks.key.isSome then
    .problem (s.anchorOf p) (.validation (.ignoredPrimaryKey (s.pathOf p)))
  else { members := [.column (s.ignoredColumn p marks.info reason)] }

/-- A property that is a column of the table. -/
def columnMember (s : MemberScope) (p : Property) (marks : PropertyMarks) : MemberFindings :=
  match Mapping.resolve? p.type marks.info.typeAffinity with
  | none =>
    .problem (s.anchorOf p) (.resolution (.unresolvedAffinity (s.pathOf p) p.type.source))
  | some mapping =>
    let column := s.storedColumn p marks.info mapping
    { members := [.column column]
      keys := marks.key.toList.map fun record => ⟨s.anchorOf p, [column.name], record⟩ }

/-- The struct that a property embeds: it must be declared, must not be on the chain of structs that
enclose the property, and must be no trait. -/
def embeddedTarget (c : Catalog) (s : MemberScope) (p : Property) : Except SpecError Declaration :=
  match c.resolve? p.type with
  | none => .error (.resolution (.unresolvedType p.type.source))
  | some target =>
    if s.chain.contains target.qualifiedName then
      .error (.resolution (.cyclicEmbedding (s.chain ++ [target.qualifiedName])))
    else if target.isTrait then .error (.validation (.notAStruct target.qualifiedName))
    else .ok target

/-- An embedded property, from the findings of its struct's own properties. -/
def embeddedMember (s : MemberScope) (p : Property) (marks : PropertyMarks)
    (embedded : EmbeddedMark) (target : Declaration) (inner : MemberFindings) : MemberFindings :=
  let anchor := s.anchorOf p
  let stored := (inner.members.filter Member.isStored).map Member.property
  let (construction, faults) := target.construction stored anchor
  let columns := (Member.columnsOf inner.members).filter Column.isStored
  { members :=
      [.embedded
        { property := p.name
          type := p.type
          columnPrefix := (s.nested p embedded target).columnPrefix
          isNullable := p.type.nullable
          construction }
        inner.members]
    keys := inner.keys ++
      marks.key.toList.map fun record => ⟨anchor, columns.map Column.name, record⟩
    diagnostics := inner.diagnostics ++ faults }

/-- What a property comes to. Embedded structs nest; `depth` bounds how deep, and the number of
declarations is enough, since a chain never repeats one. -/
def memberFindings (c : Catalog) : Nat → MemberScope → Property → MemberFindings
  | depth, s, p =>
    let anchor := s.anchorOf p
    match p.marks anchor with
    | .error faults => { diagnostics := faults }
    | .ok marks =>
      match s.ignoreReason? p with
      | some reason => ignoredMember s p marks reason
      | none =>
        match marks.embedded with
        | none => columnMember s p marks
        | some embedded =>
          match embeddedTarget c s p with
          | .error error => .problem anchor error
          | .ok target =>
            match depth with
            | 0 => {}
            | depth + 1 =>
              embeddedMember s p marks embedded target <|
                .concat (target.properties.map (memberFindings c depth (s.nested p embedded target)))

/-! ## keys and indices -/

/-- Names that occurred before, in order. -/
def repeated : List String → List String → List String
  | _, [] => []
  | seen, name :: rest =>
    if seen.contains name then name :: repeated seen rest else repeated (name :: seen) rest

/-- The primary key of an entity: one property that is marked, or the columns that the entity lists,
and not both. A generated key must be a single integer column. -/
def resolvePrimaryKey (e : Entity) (record : EntityMark) (keys : List KeyCandidate) :
    Checked Diagnostic PrimaryKey :=
  let owner := e.declaration
  match keys, record.primaryKeys with
  | [], listed@(_ :: _) => do
    Checked.demand <| (listed.filter fun name => (e.column? name).isNone).map fun name =>
      ⟨owner, .resolution (.unresolvedPrimaryKeyColumn name)⟩
    return { columns := listed }
  | [key], [] =>
    let isInteger : Bool :=
      match key.columns with
      | [name] => ((e.column? name).bind Column.affinity?) == some Affinity.integer
      | _ => false
    if key.record.autoGenerate && !isInteger then
      .fail [⟨key.anchor, .validation (.invalidAutoGenerate (", ".intercalate key.columns))⟩]
    else
      return ⟨key.columns, key.record.autoGenerate, key.record.onConflict⟩
  | keys, listed =>
    let found := keys.length + (if listed.isEmpty then 0 else 1)
    .fail [⟨owner, .resolution (.ambiguousOrMissingPrimaryKey owner found)⟩]

mutual

/-- Flags the table's columns of the given names. -/
def Member.markKey (names : List String) : Member → Member
  | .column c =>
    .column (if c.isStored && names.contains c.name then { c with isPrimaryKey := true } else c)
  | .embedded e members => .embedded e (Member.markKeyAll names members)

/-- `markKey`, member by member. -/
def Member.markKeyAll (names : List String) : List Member → List Member
  | [] => []
  | m :: rest => Member.markKey names m :: Member.markKeyAll names rest

end

/-- Name of an index that has none: `index_<table>_<columns>`. -/
def derivedIndexName (table : String) (columns : List String) : String :=
  "index_" ++ table ++ "_" ++ "_".intercalate columns

/-- A listed index; its columns must be in the table. -/
def listedIndex (e : Entity) (mark : IndexMark) : Checked Diagnostic Index := do
  let name := if mark.name.isEmpty then derivedIndexName e.tableName mark.columns else mark.name
  Checked.demand <| (mark.columns.filter fun column => (e.column? column).isNone).map fun column =>
    ⟨e.declaration, .resolution (.unresolvedIndexColumn name column)⟩
  return ⟨name, mark.unique, mark.columns, mark.orders⟩

/-- The index of a column that asks for one. -/
def columnIndex (e : Entity) (c : Column) : Index :=
  ⟨derivedIndexName e.tableName [c.name], false, [c.name], []⟩

/-- Takes in an index: a repeat of the same index is dropped, another one of the same name is
reported. -/
def addIndex (owner : String) (taken : List Index × List Diagnostic)
    (candidate : Checked Diagnostic Index) : List Index × List Diagnostic :=
  match candidate.value? with
  | none => (taken.1, taken.2 ++ candidate.found)
  | some index =>
    match taken.1.find? fun existing => existing.name == index.name with
    | none => (taken.1 ++ [index], taken.2 ++ candidate.found)
    | some existing =>
      if existing = index then (taken.1, taken.2 ++ candidate.found)
      else
        (taken.1, taken.2 ++ candidate.found ++ [⟨owner, .resolution (.duplicateIndex index.name)⟩])

/-- The indices of an entity, listed ones first. -/
def resolveIndices (e : Entity) (record : EntityMark) : List Index × List Diagnostic :=
  let listed := record.indices.map (listedIndex e)
  let ofColumns := (e.storedColumns.filter Column.index).map fun c => pure (columnIndex e c)
  (listed ++ ofColumns).foldl (addIndex e.declaration) ([], [])

/-! ## entities -/

/-- Everything of an entity but its foreign keys. -/
def Catalog.shapeOf (c : Catalog) (d : Declaration) (record : EntityMark) :
    Except (List Diagnostic) Entity :=
  let owner := d.qualifiedName
  let unknown := (record.ignoredColumns.filter fun name => (d.property? name).isNone).map fun name =>
    (⟨owner, .validation (.unknownIgnoredColumn name)⟩ : Diagnostic)
  let scope : MemberScope := { entity := owner, ignored := record.ignoredColumns, chain := [owner] }
  let findings := MemberFindings.concat (d.properties.map (memberFindings c c.size scope))
  let stored := (findings.members.filter Member.isStored).map Member.property
  let (construction, constructionFaults) := d.construction stored owner
  let entity : Entity :=
    { declaration := owner
      tableName := if record.tableName.isEmpty then d.simpleName else record.tableName
      members := findings.members
      primaryKey := ⟨[], false, .abort⟩
      construction }
  let duplicates := (repeated [] (entity.storedColumns.map Column.name)).map fun name =>
    (⟨owner, .resolution (.duplicateColumn name)⟩ : Diagnostic)
  let key := resolvePrimaryKey entity record findings.keys
  let keyed :=
    match key.value? with
    | some primaryKey =>
      { entity with
        members := Member.markKeyAll primaryKey.columns entity.members
        primaryKey }
    | none => entity
  let (indices, indexFaults) := resolveIndices keyed record
  match unknown ++ findings.diagnostics ++ constructionFaults ++ duplicates ++ key.found ++
      indexFaults with
  | [] => .ok { keyed with indices }
  | faults => .error faults

/-- The shape of an entity: it must be a struct that is marked so, and well. -/
def Catalog.entityShape (c : Catalog) (d : Declaration) : Except (List Diagnostic) Entity :=
  let owner := d.qualifiedName
  if d.isTrait then .error [⟨owner, .validation (.notAStruct owner)⟩]
  else
    match Mark.find EntityMark d.annotations with
    | .ok (some record) => c.shapeOf d record
    | .ok none => .error [⟨owner, .validation (.missingMark owner "Entity")⟩]
    | .error error => .error [⟨owner, .validation error⟩]

/-! ## dependencies -/

/-- How declarations are resolved that another one depends on. -/
abbrev Resolver (m : Type → Type) (α : Type) := Declaration → m (Except (List Diagnostic) α)

/-- The resolver that only looks at the declaration. -/
def Resolver.known {α : Type} (f : Declaration → Except (List Diagnostic) α) : Resolver Id α :=
  fun d => pure (f d)

theorem Resolver.known_apply {α : Type} (f : Declaration → Except (List Diagnostic) α)
    (d : Declaration) : Resolver.known f d = pure (f d) := rfl

section Dependencies

variable {m : Type → Type} [Monad m]

/-- A foreign key of an entity: its target must be an entity whose shape resolves, and its columns
must be in the two tables. -/
def Catalog.foreignKey (c : Catalog) (shapes : Resolver m Entity) (child : Entity)
    (mark : ForeignKeyMark) : CheckedT Diagnostic m ForeignKey := do
  let owner := child.declaration
  let target ← .lift <| .ofOption
    ⟨owner, .resolution (.unresolvedForeignKeyTarget mark.entity.source)⟩
    ((c.resolve? mark.entity).filter fun target => Mark.has EntityMark target.annotations)
  let parent ← .ofAnswer (dependencyFailed owner target.qualifiedName) (shapes target)
  let missing (e : Entity) (columns : List String) : List Diagnostic :=
    (columns.filter fun column => (e.column? column).isNone).map fun column =>
      ⟨owner, .resolution (.unresolvedColumn e.tableName column)⟩
  .lift <| .report (missing parent mark.parentColumns ++ missing child mark.childColumns)
  return {
    entity := target.qualifiedName
    table := parent.tableName
    parentColumns := mark.parentColumns
    childColumns := mark.childColumns
    onDelete := mark.onDelete
    onUpdate := mark.onUpdate
    deferred := mark.deferred }

/-- The foreign keys that an entity lists. -/
def Declaration.foreignKeyMarks (d : Declaration) : List ForeignKeyMark :=
  match Mark.find EntityMark d.annotations with
  | .ok (some record) => record.foreignKeys
  | _ => []

/-- Resolves an entity: its shape, and then its foreign keys. -/
def Catalog.resolveEntity (c : Catalog) (shapes : Resolver m Entity) (d : Declaration) :
    m (Except (List Diagnostic) Entity) := do
  match ← shapes d with
  | .error faults => return .error faults
  | .ok shape =>
    let foreignKeys ← (CheckedT.all (d.foreignKeyMarks.map (c.foreignKey shapes shape))).run
    return foreignKeys.toExcept.map fun foreignKeys => { shape with foreignKeys }

/-- An entity that `owner` depends on; problems are the owner's. -/
def Catalog.dependentEntity (c : Catalog) (entities : Resolver m Entity) (owner : String)
    (t : TypeExpr) : CheckedT Diagnostic m Entity := do
  let d ← .lift <| .ofOption ⟨owner, .resolution (.unresolvedType t.source)⟩ (c.resolve? t)
  if Mark.has EntityMark d.annotations then
    .ofAnswer (dependencyFailed owner d.qualifiedName) (entities d)
  else
    .lift <| .fail [⟨owner, .resolution (.notAnEntity d.qualifiedName)⟩]

/-- The declaration a name stands for. -/
def Catalog.lookup (c : Catalog) (name : String) : Except (List Diagnostic) Declaration :=
  match c.get? name with
  | some d => .ok d
  | none => .error [⟨name, .resolution (.unresolvedType name)⟩]

/-- Resolves the declaration of a name. -/
def Catalog.byName {α : Type} (c : Catalog) (resolver : Resolver m α) (name : String) :
    m (Except (List Diagnostic) α) :=
  match c.lookup name with
  | .ok d => resolver d
  | .error diagnostics => return .error diagnostics

end Dependencies

/-- The entity of a declaration. -/
def Catalog.entityOf (c : Catalog) (d : Declaration) : Except (List Diagnostic) Entity :=
  (c.resolveEntity (.known c.entityShape) d).run

/-- The entity of a name. -/
def Catalog.entity (c : Catalog) (name : String) : Except (List Diagnostic) Entity := do
  c.entityOf (← c.lookup name)

end DaoForge
