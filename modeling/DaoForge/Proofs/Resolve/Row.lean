import DaoForge.Proofs.Resolve.Operation
import DaoForge.Unit.Queries

/-!
# DaoForge.Proofs.Resolve.Row

What the operations of a DAO read and write.

1. `body_of_compoundOf` takes a compound apart that resolves; the entities that it reads are of the
   schema (`entities_of_compoundOf`);
2. `RowType.Known`: what a row becomes is what the catalog says of a declaration. So it is for every
   operation of a DAO that resolves (`known_of_daoFindings`);
3. every entity that a DAO touches is of the schema (`entities_subset_schema_of_dao`), those among them
   that rows are read with the mappers of (`mappedEntities_subset_schema`).
-/

namespace DaoForge

section Rows

variable {c : Catalog}

theorem mem_schema_of_dependentEntity {owner : String} {t : TypeExpr} {e : Entity}
    (h : (c.dependentEntity (.known c.entityOf) owner t).run.run.value? = some e) :
    e ∈ c.schema.entities :=
  mem_schema_entities.mpr (value?_dependentEntity h)

/-- An entity that resolves is marked so. -/
theorem mem_schema_of_isOf {e : Entity} (h : e.IsOf c) : e ∈ c.schema.entities := by
  obtain ⟨d, hd, hentity⟩ := h
  obtain ⟨shape, _, hshape, -, -⟩ := shape_of_entityOf hentity
  obtain ⟨-, record, hrecord, -⟩ := shapedBy_of_entityShape hshape
  exact mem_schema_entities.mpr ⟨d, hd, Mark.isPresent_of_find hrecord, hentity⟩

/-! ## compounds -/

theorem mem_schema_of_junction? {main target : Entity} {mark : RelationMark} {anchor : String}
    {junction : Option Junction}
    (h : (c.junction? (.known c.entityOf) main target mark anchor).run.run.Builds junction) :
    ∀ j ∈ junction, j.entity ∈ c.schema.entities := by
  unfold Catalog.junction? at h
  split at h
  · cases h.value
    simp
  · obtain ⟨j, hj, h⟩ := CheckedT.builds_bind h
    cases h.value
    unfold Catalog.junction at hj
    obtain ⟨entity, hentity, hj⟩ := CheckedT.builds_bind hj
    obtain ⟨_, -, hj⟩ := CheckedT.builds_bind hj
    obtain ⟨_, -, hj⟩ := CheckedT.builds_bind hj
    cases hj.value
    rintro _ ⟨⟩
    exact mem_schema_of_dependentEntity hentity.value

/-- What a relation reads, and the property that it is for. -/
theorem entities_of_relation {owner : String} {main : Entity} {p : Property} {mark : RelationMark}
    {r : Relation}
    (h : (c.relation (.known c.entityOf) owner main p mark).run.run.Builds r) :
    r.property = p.name ∧ r.entity ∈ c.schema.entities ∧
      ∀ j ∈ r.junction, j.entity ∈ c.schema.entities := by
  unfold Catalog.relation at h
  obtain ⟨⟨cardinality, element⟩, -, h⟩ := CheckedT.builds_bind h
  obtain ⟨target, htarget, h⟩ := CheckedT.builds_bind h
  obtain ⟨_, -, h⟩ := CheckedT.builds_bind h
  obtain ⟨row, -, h⟩ := CheckedT.builds_bind h
  obtain ⟨junction, hjunction, h⟩ := CheckedT.builds_bind h
  cases h.value
  exact ⟨rfl, mem_schema_of_dependentEntity htarget.value, mem_schema_of_junction? hjunction⟩

/-- What a compound comes from: its properties, each with its role, a construction that takes them, and
a body, all without a problem. -/
theorem body_of_compoundOf {d : Declaration} {compound : Compound}
    (h : c.compoundOf d = .ok compound) :
    ∃ named construction,
      (Checked.all ((d.properties.filter fun p => !Mark.has IgnoreMark p.annotations).map
        d.compoundProperty)).Builds named ∧
      d.construction (named.map Prod.fst) d.qualifiedName = (construction, []) ∧
      (c.compoundBody (.known c.entityOf) d (named.filterMap Prod.snd)
        construction).run.run.Builds compound := by
  unfold Catalog.compoundOf Catalog.resolveCompound at h
  split at h
  · contradiction
  extract_lets owner kept properties named at h
  split at h
  next construction constructionFaults hconstruction =>
  obtain ⟨hvalue, hfound⟩ := Checked.toExcept_eq_ok_iff.mp h
  obtain ⟨hbefore, rfl⟩ := List.append_eq_nil_iff.mp hfound
  obtain ⟨hproperties, hbody⟩ := List.append_eq_nil_iff.mp hbefore
  exact ⟨named, construction, ⟨rfl, hproperties⟩, hconstruction, ⟨hvalue, hbody⟩⟩

theorem declaration_of_compoundOf {d : Declaration} {compound : Compound}
    (h : c.compoundOf d = .ok compound) : compound.declaration = d.qualifiedName := by
  obtain ⟨named, construction, -, -, hbody⟩ := body_of_compoundOf h
  unfold Catalog.compoundBody at hbody
  obtain ⟨mainProperty, -, hbody⟩ := CheckedT.builds_bind hbody
  obtain ⟨main, -, hbody⟩ := CheckedT.builds_bind hbody
  obtain ⟨relations, -, hbody⟩ := CheckedT.builds_bind hbody
  cases hbody.value
  rfl

theorem entities_of_compoundOf {d : Declaration} {compound : Compound}
    (h : c.compoundOf d = .ok compound) : compound.entities ⊆ c.schema.entities := by
  obtain ⟨named, construction, -, -, hbody⟩ := body_of_compoundOf h
  unfold Catalog.compoundBody at hbody
  obtain ⟨mainProperty, -, hbody⟩ := CheckedT.builds_bind hbody
  obtain ⟨main, hmain, hbody⟩ := CheckedT.builds_bind hbody
  obtain ⟨relations, hrelations, hbody⟩ := CheckedT.builds_bind hbody
  cases hbody.value
  intro e he
  rcases List.mem_cons.mp he with rfl | he
  · exact mem_schema_of_dependentEntity hmain.value
  · obtain ⟨r, hr, he⟩ := List.mem_flatMap.mp he
    obtain ⟨⟨p, mark⟩, -, hrelation⟩ := CheckedT.builds_all hrelations hr
    obtain ⟨-, hentity, hjunction⟩ := entities_of_relation hrelation
    unfold Relation.entities at he
    cases hj : r.junction with
    | none =>
        rw [hj] at he
        rw [List.mem_singleton.mp he]
        exact hentity
    | some j =>
        rw [hj] at he
        have hboth : e = r.entity ∨ e = j.entity := by simpa using he
        rcases hboth with rfl | rfl
        · exact hentity
        · exact hjunction j hj

/-! ## rows -/

/-- What a row becomes is an entity of the schema, a compound that resolves, or a value. -/
def RowType.Known (c : Catalog) : RowType → Prop
  | .entity e => e ∈ c.schema.entities
  | .compound rows => ∃ d ∈ c.declarations, c.compoundOf d = .ok rows
  | .scalar _ _ => True

theorem RowType.Known.entities {row : RowType} (h : row.Known c) :
    row.entities ⊆ c.schema.entities := by
  cases row with
  | entity e => exact List.cons_subset.mpr ⟨h, List.nil_subset _⟩
  | compound compound =>
      obtain ⟨d, -, hcompound⟩ := h
      exact entities_of_compoundOf hcompound
  | scalar t mapping => exact List.nil_subset _

/-- The mappers that a row is read with are of entities that it is read from. -/
theorem RowType.mappedEntities_subset (row : RowType) : row.mappedEntities ⊆ row.entities := by
  cases row with
  | entity e => exact List.Subset.refl _
  | scalar t mapping => exact List.Subset.refl _
  | compound compound =>
      refine List.cons_subset_cons compound.main fun e he => ?_
      obtain ⟨r, hr, helement⟩ := List.mem_filterMap.mp he
      refine List.mem_flatMap.mpr ⟨r, hr, ?_⟩
      split at helement
      · cases helement
        unfold Relation.entities
        split <;> exact List.mem_cons_self
      · contradiction

/-- The compounds that rows become are those of operations with such rows. -/
theorem Dao.row_of_mem_rows {d : Dao} {compound : Compound}
    (h : compound ∈ d.operations.filterMap fun o => o.rowType?.bind RowType.compound?) :
    ∃ o ∈ d.operations, o.rowType? = some (.compound compound) := by
  obtain ⟨o, ho, hrow⟩ := List.mem_filterMap.mp h
  obtain ⟨row, hrow, hkind⟩ := Option.bind_eq_some_iff.mp hrow
  cases row with
  | compound rows =>
      cases hkind
      exact ⟨o, ho, hrow⟩
  | entity e => contradiction
  | scalar type mapping => contradiction

theorem Dao.row_of_mem_compounds {d : Dao} {compound : Compound} (h : compound ∈ d.compounds) :
    ∃ o ∈ d.operations, o.rowType? = some (.compound compound) :=
  row_of_mem_rows (mem_of_mem_distinctBy h)

/-- What the rows of a result become is known. -/
def ReturnShape.Known (c : Catalog) (shape : ReturnShape) : Prop :=
  ∀ row ∈ shape.rowType?, row.Known c

theorem known_of_scalarRow {t : TypeExpr} {anchor : String} {row : RowType}
    (h : (c.scalarRow t anchor).Builds row) : row.Known c := by
  have hvalue := h.value
  unfold Catalog.scalarRow at hvalue
  rw [Checked.value?_ofOption] at hvalue
  obtain ⟨mapping, -, rfl⟩ := Option.map_eq_some_iff.mp hvalue
  trivial

theorem known_of_rowType {t : TypeExpr} {anchor : String} {row : RowType}
    (h : (c.rowType (.known c.entityOf) (.known c.compoundOf) t anchor).run.run.Builds row) :
    row.Known c := by
  unfold Catalog.rowType at h
  split at h
  · exact known_of_scalarRow h
  next d hd =>
  split at h
  · obtain ⟨e, he, h⟩ := CheckedT.builds_bind h
    cases h.value
    exact mem_schema_of_dependentEntity he.value
  split at h
  · obtain ⟨compound, hcompound, h⟩ := CheckedT.builds_bind h
    cases h.value
    have hvalue := hcompound.value
    unfold compoundRow at hvalue
    rw [Resolver.known_apply, pure_bind] at hvalue
    cases hanswer : c.compoundOf d with
    | ok found =>
        rw [hanswer] at hvalue
        rw [← Option.some.inj hvalue]
        exact ⟨d, Catalog.mem_of_resolve? hd, hanswer⟩
    | error diagnostics =>
        rw [hanswer] at hvalue
        contradiction
  · exact known_of_scalarRow h

theorem known_of_readShape {f : Function} {returns : TypeExpr} {anchor : String}
    {shape : ReturnShape}
    (h : (c.readShape (.known c.entityOf) (.known c.compoundOf) f returns anchor).run.run.Builds
      shape) : shape.Known c := by
  have hrow : ∀ {t : TypeExpr} {wrap : RowType → ReturnShape},
      (∀ row, (wrap row).rowType? = some row) →
      ((do return wrap (← c.rowType (.known c.entityOf) (.known c.compoundOf) t anchor)) :
        CheckedT Finding Id ReturnShape).run.run.Builds shape → shape.Known c := by
    intro t wrap hwrap h
    obtain ⟨row, hrow, h⟩ := CheckedT.builds_bind h
    cases h.value
    intro row' hrow'
    obtain rfl : row = row' := Option.some.inj ((hwrap row).symm.trans hrow')
    exact known_of_rowType hrow
  unfold Catalog.readShape at h
  split at h
  · exact absurd h Checked.not_builds_fail
  split at h
  · exact hrow (fun _ => rfl) h
  split at h
  · exact hrow (fun _ => rfl) h
  · exact hrow (fun _ => rfl) h

theorem known_of_writeShape {f : Function} {returns : TypeExpr} {anchor : String}
    {shape : ReturnShape} (h : (writeShape f returns anchor).Builds shape) : shape.Known c := by
  unfold writeShape at h
  split at h
  · cases h.value
    rintro _ ⟨⟩
  split at h
  · cases h.value
    rintro _ ⟨⟩
  · exact absurd h Checked.not_builds_fail

theorem known_of_entityOperation {f : Function} {expected : Option TypeExpr}
    {strategy : ConflictStrategy} {wrap : EntityOperation → OperationKind} {returns : TypeExpr}
    {anchor : String} {body : OperationBody}
    (h : (c.entityOperation (.known c.entityOf) f expected strategy wrap returns
      anchor).run.run.Builds body) : body.2.2.Known c := by
  unfold Catalog.entityOperation at h
  split at h
  · obtain ⟨_, -, h⟩ := CheckedT.builds_bind h
    obtain ⟨_, -, h⟩ := CheckedT.builds_bind h
    obtain ⟨shape, hshape, h⟩ := CheckedT.builds_bind h
    cases h.value
    exact known_of_writeShape hshape
  · exact absurd h Checked.not_builds_fail

theorem known_of_rawOperation {f : Function} {mark : QueryMark} {returns : TypeExpr}
    {anchor : String} {body : OperationBody}
    (h : (c.rawOperation (.known c.entityOf) (.known c.compoundOf) f mark returns
      anchor).run.run.Builds body) : body.2.2.Known c := by
  unfold Catalog.rawOperation at h
  split at h
  · exact absurd h Checked.not_builds_fail
  split at h
  · exact absurd h Checked.not_builds_fail
  obtain ⟨_, -, h⟩ := CheckedT.builds_bind h
  obtain ⟨_, -, h⟩ := CheckedT.builds_bind h
  obtain ⟨shape, hshape, h⟩ := CheckedT.builds_bind h
  cases h.value
  unfold Catalog.queryShape at hshape
  split at hshape
  · exact known_of_readShape hshape
  · exact known_of_writeShape hshape

theorem known_of_operationBody {f : Function} {mark : OperationMark} {returns : TypeExpr}
    {anchor : String} {body : OperationBody}
    (h : (c.operationBody (.known c.entityOf) (.known c.compoundOf) f mark returns
      anchor).run.run.Builds body) : body.2.2.Known c := by
  cases mark with
  | query mark => exact known_of_rawOperation h
  | insert mark => exact known_of_entityOperation h
  | update mark => exact known_of_entityOperation h
  | delete mark => exact known_of_entityOperation h

/-! ## DAOs -/

section Daos

variable {d : Declaration} {dao : Dao} (h : c.daoFindings d = .ok dao) {o : Operation}
  (ho : o ∈ dao.operations)

include h ho

theorem known_of_daoFindings : ∀ row ∈ o.rowType?, row.Known c := by
  obtain ⟨f, -, hoperation⟩ := exists_of_forall₂ (builds_of_daoFindings h) ho
  unfold Catalog.operation at hoperation
  obtain ⟨mark, -, hoperation⟩ := CheckedT.builds_bind hoperation
  obtain ⟨body, hbody, hoperation⟩ := CheckedT.builds_bind hoperation
  cases hoperation.value
  exact known_of_operationBody hbody

theorem target_mem_schema {e : Entity} (he : o.kind.target? = some e) : e ∈ c.schema.entities := by
  obtain ⟨f, -, -, mark, -, -, hasks⟩ := exists_of_forall₂ (operations_of_daoFindings h) ho
  apply mem_schema_of_isOf
  cases hasks with
  | query hsql hkind =>
      rw [hkind] at he
      contradiction
  | insert hkind hstrategy hentity =>
      rw [hkind] at he
      cases he
      exact hentity
  | update hkind hstrategy hentity =>
      rw [hkind] at he
      cases he
      exact hentity
  | delete hkind hstrategy hentity =>
      rw [hkind] at he
      cases he
      exact hentity

/-- What an operation writes or reads is of the schema. -/
theorem entities_subset_schema_of_dao : o.entities ⊆ c.schema.entities := by
  unfold Operation.entities
  refine List.append_subset.mpr ⟨fun e he => ?_, ?_⟩
  · exact target_mem_schema h ho (Option.mem_toList.mp he)
  · cases hrow : o.rowType? with
    | none => exact List.nil_subset _
    | some row => exact (known_of_daoFindings h ho row hrow).entities

end Daos

/-- A mapper of a DAO is one that the rows of an operation are read with. -/
theorem rowType_of_mem_mappedEntities {dao : Dao} {e : Entity} (he : e ∈ dao.mappedEntities) :
    ∃ o ∈ dao.operations, ∃ row, o.rowType? = some row ∧ e ∈ row.mappedEntities := by
  obtain ⟨o, ho, he⟩ := List.mem_flatMap.mp (mem_of_mem_distinctBy he)
  cases hrow : o.rowType? with
  | none =>
      rw [hrow] at he
      contradiction
  | some row =>
      rw [hrow] at he
      exact ⟨o, ho, row, hrow, he⟩

/-- **The rows of a DAO** are read with mappers of entities that the schema holds. -/
theorem mappedEntities_subset_schema {d : Declaration} {dao : Dao}
    (h : c.daoFindings d = .ok dao) : dao.mappedEntities ⊆ c.schema.entities := by
  intro e he
  obtain ⟨o, ho, row, hrow, he⟩ := rowType_of_mem_mappedEntities he
  exact (known_of_daoFindings h ho row hrow).entities (row.mappedEntities_subset he)

end Rows

end DaoForge
