import DaoForge.Resolve.Entity
import DaoForge.Resolve.Types
import DaoForge.Schema.Compound

/-!
# DaoForge.Resolve.Compound

Resolution of compounds. Each property of the struct must embed the entity, be a relation, or be
ignored. There is exactly one embedded entity; every relation matches a column of it with a column of
the related entity, directly or through a junction that has foreign keys to both.
-/

namespace DaoForge

/-- The declaration has the shape of a compound: it is a struct, no entity, and embeds one. -/
def Catalog.isCompound (c : Catalog) (d : Declaration) : Bool :=
  !d.isTrait && !Mark.has EntityMark d.annotations &&
    d.properties.any fun p =>
      Mark.has EmbeddedMark p.annotations &&
        ((c.resolve? p.type).map fun target => Mark.has EntityMark target.annotations).getD false

/-- What a property of a compound is. -/
inductive CompoundRole where
  | main (property : Property)
  | relation (property : Property) (mark : RelationMark)
  deriving Repr

/-- The relation, if the property is one. -/
def CompoundRole.relation? : CompoundRole → Option (Property × RelationMark)
  | .main _ => none
  | .relation property mark => some (property, mark)

/-- The embedded entity's property, if it is that. -/
def CompoundRole.main? : CompoundRole → Option Property
  | .main property => some property
  | .relation _ _ => none

/-- A problem with the shape of a compound. -/
def Declaration.invalidCompound (d : Declaration) (reason : String) : Diagnostic :=
  ⟨d.qualifiedName, .validation (.invalidCompound d.qualifiedName reason)⟩

/-- The role of a property that is not ignored. -/
def Declaration.compoundRole (d : Declaration) (p : Property) (embedded : Option EmbeddedMark)
    (relation : Option RelationMark) : Checked Diagnostic CompoundRole :=
  match embedded, relation with
  | some embedded, none =>
    if !embedded.columnPrefix.isEmpty then
      .fail [d.invalidCompound ("embedded entity " ++ quoted p.name ++ " cannot take a prefix")]
    else if p.type.nullable then
      .fail [d.invalidCompound ("embedded entity " ++ quoted p.name ++ " cannot be optional")]
    else return .main p
  | none, some relation => return .relation p relation
  | some _, some _ =>
    .fail [d.invalidCompound (quoted p.name ++ " cannot be both @Embedded and @Relation")]
  | none, none =>
    .fail [d.invalidCompound (quoted p.name ++ " must be @Embedded, @Relation or @Ignore")]

/-- A property that is not ignored: its name, which the construction requires, and its role. A
property with malformed annotations is reported and not required. -/
def Declaration.compoundProperty (d : Declaration) (p : Property) :
    Checked Diagnostic (String × Option CompoundRole) :=
  let anchor := Diagnostic.memberAnchor d.qualifiedName p.name
  let (embedded, embeddedFaults) := readMark EmbeddedMark anchor p.annotations
  let (relation, relationFaults) := readMark RelationMark anchor p.annotations
  match embeddedFaults ++ relationFaults with
  | [] =>
    let role := d.compoundRole p embedded relation
    ⟨some (p.name, role.value?), role.found⟩
  | faults => .fail faults

/-- Columns that an entity must have. -/
def requireColumns (e : Entity) (columns : List String) (anchor : String) : List Diagnostic :=
  (columns.filter fun column => (e.column? column).isNone).map fun column =>
    ⟨anchor, .resolution (.unresolvedRelationColumn e.declaration column)⟩

/-- Cardinality and element type of a relation's property. -/
def relationElement? (t : TypeExpr) : Option (Cardinality × TypeExpr) :=
  if t.nullable then some (.one, t.nonNull)
  else (t.listElement?.filter fun element => !element.nullable).map fun element => (.many, element)

/-- What a related row becomes: the entity itself if nothing is projected, else the one column that
is projected into another type. -/
def Catalog.relationRow? (c : Catalog) (target : Entity) (element : TypeExpr)
    (projection : List String) : Option RelationElement :=
  let isTarget :=
    ((c.resolve? element).map fun d => d.qualifiedName == target.declaration).getD false
  match projection with
  | [] => if isTarget then some .entity else none
  | [column] =>
    if isTarget then none
    else
      let affinity := ((target.column? column).bind Column.affinity?).getD .undefined
      (Mapping.resolve? element affinity).map (.scalar column element)
  | _ => none

/-- The one property that embeds the entity. -/
def Declaration.mainProperty (d : Declaration) (roles : List CompoundRole) :
    Checked Diagnostic Property :=
  let mains := roles.filterMap CompoundRole.main?
  match mains with
  | [p] => return p
  | _ =>
    .fail [d.invalidCompound
      ("must embed exactly one entity, found " ++ toString mains.length)]

section Dependencies

variable {m : Type → Type} [Monad m]

/-- The junction of a relation, whose columns must be foreign keys to both sides. -/
def Catalog.junction (c : Catalog) (entities : Resolver m Entity) (main target : Entity)
    (relation : RelationMark) (mark : JunctionMark) (anchor : String) :
    CheckedT Diagnostic m Junction := do
  let entity ← c.dependentEntity entities anchor mark.value
  let parentColumn :=
    if mark.parentColumn.isEmpty then relation.parentColumn else mark.parentColumn
  let entityColumn :=
    if mark.entityColumn.isEmpty then relation.entityColumn else mark.entityColumn
  .lift <| .demand (requireColumns entity [parentColumn, entityColumn] anchor)
  let unlinked := [(main, parentColumn), (target, entityColumn)].filter fun (side, column) =>
    !entity.foreignKeys.any fun key =>
      key.entity == side.declaration && key.childColumns.contains column
  .lift <| .demand <| unlinked.map fun (side, column) =>
    ⟨anchor, .resolution (.unresolvedJunctionForeignKey entity.declaration side.declaration column)⟩
  return { entity, table := entity.tableName, parentColumn, entityColumn }

/-- The junction of a relation that goes through one. -/
def Catalog.junction? (c : Catalog) (entities : Resolver m Entity) (main target : Entity)
    (relation : RelationMark) (anchor : String) : CheckedT Diagnostic m (Option Junction) :=
  match relation.associateBy with
  | none => pure none
  | some mark => do return some (← c.junction entities main target relation mark anchor)

/-- A relation of a compound whose own entity is `main`. -/
def Catalog.relation (c : Catalog) (entities : Resolver m Entity) (owner : String) (main : Entity)
    (p : Property) (mark : RelationMark) : CheckedT Diagnostic m Relation := do
  let anchor := Diagnostic.memberAnchor owner p.name
  let (cardinality, element) ← .lift <| .ofOption
    ⟨anchor, .validation (.invalidRelationType p.name p.type.source)⟩ (relationElement? p.type)
  let target ← c.dependentEntity entities anchor (mark.entity.getD element)
  .lift <| .demand (requireColumns main [mark.parentColumn] anchor ++
    requireColumns target (mark.entityColumn :: mark.projection) anchor)
  let row ← .lift <| .ofOption ⟨anchor, .validation (.invalidProjection p.name)⟩
    (c.relationRow? target element mark.projection)
  let junction ← c.junction? entities main target mark anchor
  return {
    property := p.name
    parentColumn := mark.parentColumn
    entity := target
    entityTable := target.tableName
    entityColumn := mark.entityColumn
    cardinality
    junction
    projection := mark.projection
    element := row }

/-- The embedded entity of a compound, and its relations, which are looked at once the entity is
known. -/
def Catalog.compoundBody (c : Catalog) (entities : Resolver m Entity) (d : Declaration)
    (roles : List CompoundRole) (construction : Construction) : CheckedT Diagnostic m Compound := do
  let owner := d.qualifiedName
  let mainProperty ← .lift (d.mainProperty roles)
  let main ← c.dependentEntity entities owner mainProperty.type
  let relations ← CheckedT.all <| (roles.filterMap CompoundRole.relation?).map fun (p, mark) =>
    c.relation entities owner main p mark
  return { declaration := owner, mainProperty := mainProperty.name, main, relations, construction }

/-- Resolves a compound. The construction is checked in any case. -/
def Catalog.resolveCompound (c : Catalog) (entities : Resolver m Entity) (d : Declaration) :
    m (Except (List Diagnostic) Compound) := do
  let owner := d.qualifiedName
  if d.isTrait then return .error [⟨owner, .validation (.notAStruct owner)⟩]
  else
    let kept := d.properties.filter fun p => !Mark.has IgnoreMark p.annotations
    let properties := Checked.all (kept.map d.compoundProperty)
    let named := properties.value?.getD []
    let (construction, constructionFaults) := d.construction (named.map Prod.fst) owner
    let body ← (c.compoundBody entities d (named.filterMap Prod.snd) construction).run
    return Checked.toExcept ⟨body.value?, properties.found ++ body.found ++ constructionFaults⟩

end Dependencies

/-- The compound of a declaration. -/
def Catalog.compoundOf (c : Catalog) (d : Declaration) : Except (List Diagnostic) Compound :=
  (c.resolveCompound (.known c.entityOf) d).run

/-- The compound of a name. -/
def Catalog.compound (c : Catalog) (name : String) : Except (List Diagnostic) Compound := do
  c.compoundOf (← c.lookup name)

end DaoForge
