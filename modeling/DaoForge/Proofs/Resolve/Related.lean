import DaoForge.Proofs.Resolve.Complete
import DaoForge.Proofs.Resolve.Isolation
import DaoForge.Proofs.Unit.Columns
import DaoForge.Sql.Select
import DaoForge.Unit.Mapper

/-!
# DaoForge.Proofs.Resolve.Related

What everyone may rely on who is given a compound.

1. `Build.Needs`: a mapper reads the columns of its table only, or tests them for NULL
   (`needs_of_mapper`);
2. `Mapping.affinity_resolve?`: a mapping has the affinity that is declared. What is projected declares that
   of the column, which is never undefined (`affinity_of_entityOf`);
3. `Compound.Consistent`: the columns of the relations are there, junctions have keys to both sides, and a
   statement selects what becomes of the rows; `consistent_of_compoundOf`;
4. `Call.compound_consistent`: so it is of every compound in a reply.
-/

namespace DaoForge

/-! ## what a mapper needs -/

/-- The expression reads the column from the row, or tests it for NULL. -/
inductive Build.Needs (name : String) : Build → Prop
  | read {read : Read} (h : read.source = .column name) : Needs name (.read read)
  | argument {owner : Code} {function : Ident} {arguments : List Build} {value : Build}
      (h : value ∈ arguments) (hvalue : Needs name value) : Needs name (.call owner function arguments)
  | field {owner : Code} {fields : List (Ident × Build)} {field : Ident × Build} (h : field ∈ fields)
      (hvalue : Needs name field.2) : Needs name (.literal owner fields)
  | tested {columns : List String} {value : Build} (h : name ∈ columns) :
      Needs name (.unlessNull columns value)
  | unlessNull {columns : List String} {value : Build} (hvalue : Needs name value) :
      Needs name (.unlessNull columns value)

section Needs

variable {name : String}

theorem not_needs_default : ¬ Build.default.Needs name := fun h => nomatch h

/-- What a struct needs is needed for one of its members. -/
theorem member_of_needs {owner : String} {construction : Construction} {members : List Member} {b : Build}
    (h : construction.build owner (argumentNamed owner (Member.arguments members)) = .ok b)
    (hneeds : b.Needs name) :
    ∃ m ∈ members, ∃ value, m.argument = .ok (some value) ∧ value.Needs name := by
  obtain ⟨path, function, ident, values, -, rfl, hvalues⟩ | ⟨-, path, fields, rfl, hfields⟩ :=
    Construction.build_cases h
  · cases hneeds with
    | @argument _ _ _ value hmem hvalue =>
        obtain ⟨parameter, -, hargument⟩ := exists_of_forall₂ hvalues hmem
        obtain ⟨m, hm, -, hmember⟩ := Member.exists_of_argumentNamed hargument
        exact ⟨m, hm, value, hmember, hvalue⟩
  · cases hneeds with
    | @field _ _ field hmem hvalue =>
        obtain ⟨parameter, -, -, found, hfound, hbuilt⟩ := exists_of_forall₂ hfields hmem
        obtain ⟨m, hm, -, hmember⟩ := Member.exists_of_argumentNamed hfound
        rw [hbuilt] at hvalue
        cases found with
        | none => exact absurd hvalue not_needs_default
        | some value => exact ⟨m, hm, value, hmember, hvalue⟩

mutual

/-- The value of a member needs stored columns of the member only. -/
theorem needs_of_argument (m : Member) {value : Build} (h : m.argument = .ok (some value))
    (hneeds : value.Needs name) : name ∈ Member.storedNames [m] := by
  cases m with
  | column c =>
      obtain ⟨hstored, read, ⟨mapping, -, hread⟩, rfl⟩ := (readBy_of_argument h).1 value rfl
      cases hneeds with
      | read hsource =>
          obtain rfl : c.name = name := RowSource.column.inj ((field?_of_read hread).1.symm.trans hsource)
          exact (Member.Leads.column (List.mem_singleton_self _)).mem_storedNames hstored
  | embedded e members =>
      rw [Member.storedNames_embedded]
      rw [Member.argument] at h
      obtain ⟨b, hb, h⟩ := bind_eq_ok h
      have hinner (hb' : b.Needs name) : name ∈ Member.storedNames members := by
        obtain ⟨m, hm, value, hvalue, hneeds⟩ := member_of_needs hb hb'
        exact needs_of_arguments members hm hvalue hneeds
      split at h
      · cases h
        cases hneeds with
        | tested hmem => exact hmem
        | unlessNull hvalue => exact hinner hvalue
      · cases h
        exact hinner hneeds

theorem needs_of_arguments (members : List Member) {m : Member} (hm : m ∈ members) {value : Build}
    (h : m.argument = .ok (some value)) (hneeds : value.Needs name) :
    name ∈ Member.storedNames members := by
  cases members with
  | nil => contradiction
  | cons first rest =>
      rw [← List.singleton_append, Member.storedNames_append, List.mem_append]
      by_cases hfirst : m = first
      · exact .inl (needs_of_argument first (hfirst ▸ h) hneeds)
      · exact .inr (needs_of_arguments rest (List.mem_of_ne_of_mem hfirst hm) h hneeds)

end

/-- **A mapper needs columns of its table** only. -/
theorem needs_of_mapper {n : Naming} {e : Entity} {u : MapperUnit} (h : MapperUnit.of n e = .ok u)
    (hneeds : u.value.Needs name) : name ∈ e.storedColumns.map Column.name := by
  unfold MapperUnit.of at h
  obtain ⟨_, -, h⟩ := bind_eq_ok h
  obtain ⟨_, -, h⟩ := bind_eq_ok h
  obtain ⟨_, -, h⟩ := bind_eq_ok h
  obtain ⟨_, -, h⟩ := bind_eq_ok h
  obtain ⟨value, hvalue, h⟩ := bind_eq_ok h
  cases h
  obtain ⟨m, hm, value, hargument, hneeds⟩ := member_of_needs hvalue hneeds
  exact needs_of_arguments e.members hm hargument hneeds

end Needs

/-! ## affinities -/

theorem Affinity.ne_undefined_of_ofNative? {t : TypeExpr} {affinity : Affinity}
    (h : Affinity.ofNative? t = some affinity) : affinity ≠ .undefined := by
  rintro rfl
  revert h
  fun_cases Affinity.ofNative? t <;> simp

/-- A mapping has the affinity that is declared, and some affinity in any case. -/
theorem Mapping.affinity_resolve? {t : TypeExpr} {declared : Affinity} {mapping : Mapping}
    (h : Mapping.resolve? t declared = some mapping) :
    mapping.affinity ≠ .undefined ∧ (declared ≠ .undefined → mapping.affinity = declared) := by
  revert h
  fun_cases Mapping.resolve? t declared with
  | case1 base native hdeclared affinity hnative =>
      rintro ⟨⟩
      exact ⟨Affinity.ne_undefined_of_ofNative? hnative, fun hne => absurd hdeclared hne⟩
  | case2 base native hdeclared =>
      intro h
      obtain ⟨builtin, -, rfl⟩ := Option.map_eq_some_iff.mp h
      refine ⟨?_, fun hne => absurd hdeclared hne⟩
      cases builtin <;> exact fun h => nomatch h
  | case3 base native hdeclared | case4 base native hdeclared =>
      rintro ⟨⟩
      exact ⟨hdeclared, fun _ => rfl⟩

section Affinities

variable {c : Catalog} {d : Declaration} {e : Entity}

theorem flagged_type (names : List String) (column : Column) :
    (column.flagged names).type = column.type := by
  unfold Column.flagged
  split <;> rfl

/-- The mapping of a column is one that its type resolves to. -/
theorem resolved_of_entityOf (h : c.entityOf d = .ok e) : ∀ column ∈ e.columns, ∀ mapping,
    column.mapping = some mapping → ∃ declared, Mapping.resolve? column.type declared = some mapping := by
  obtain ⟨shape, foreignKeys, hshape, rfl, -⟩ := shape_of_entityOf h
  obtain ⟨-, record, -, hshaped⟩ := shapedBy_of_entityShape hshape
  change ∀ column ∈ Member.columnsOf shape.members, _
  rw [hshaped.members, Member.columnsOf_markKeyAll]
  refine List.forall_mem_map.mpr fun plain hplain => ?_
  rw [flagged_mapping, flagged_type]
  obtain ⟨f, hf, hcolumn⟩ := MemberFindings.mem_columnsOf_concat.mp hplain
  obtain ⟨p, -, rfl⟩ := List.mem_map.mp hf
  refine forall_columns_memberFindings (P := fun column => ∀ mapping, column.mapping = some mapping →
    ∃ declared, Mapping.resolve? column.type declared = some mapping) ?_ ?_ _ _ p plain hcolumn
  · exact fun _ _ _ _ _ hnone => nomatch hnone
  · rintro s p info mapping hmapping _ ⟨⟩
    exact ⟨info.typeAffinity, hmapping⟩

/-- What is stored in a column has an affinity. -/
theorem affinity_of_entityOf (h : c.entityOf d = .ok e) :
    ∀ column ∈ e.columns, column.affinity? ≠ some .undefined := by
  intro column hcolumn hnone
  obtain ⟨mapping, hmapping, haffinity⟩ := Option.map_eq_some_iff.mp hnone
  obtain ⟨declared, hresolve⟩ := resolved_of_entityOf h column hcolumn mapping hmapping
  exact (Mapping.affinity_resolve? hresolve).1 haffinity

/-- A value that is projected is stored with the affinity of the column. -/
theorem affinity_of_projected (h : c.entityOf d = .ok e) {name : String} {column : Column}
    (hcolumn : e.column? name = some column) {t : TypeExpr} {mapping : Mapping}
    (hmapping : Mapping.resolve? t (column.affinity?.getD .undefined) = some mapping) :
    column.affinity? = some mapping.affinity := by
  obtain ⟨hmem, hstored⟩ := List.mem_filter.mp (List.mem_of_find?_eq_some hcolumn)
  have hmapped := ((consistent_of_entityOf h).mapped column hmem).mpr hstored
  have hdefined := affinity_of_entityOf h column hmem
  obtain ⟨stored, hstored⟩ := Option.isSome_iff_exists.mp hmapped
  rw [Column.affinity?, hstored, Option.map_some] at hmapping hdefined ⊢
  have hsame := (Mapping.affinity_resolve? hmapping).2 fun hnone => hdefined (congrArg some hnone)
  exact congrArg some hsame.symm

end Affinities

/-! ## what compounds promise -/

/-- The type names an entity, and a run of its own replies with it. -/
def Catalog.Gives (c : Catalog) (t : TypeExpr) (e : Entity) : Prop :=
  ∃ d, c.resolve? t = some d ∧ (Call.entity d.qualifiedName).fresh c = .entity (.ok e)

/-- What a junction promises between the entities of both sides: its columns are stored, and each occurs in
a foreign key to its side. -/
structure Junction.Consistent (c : Catalog) (main target : Entity) (mark : JunctionMark) (j : Junction) :
    Prop where
  entity : c.Gives mark.value j.entity
  table : j.table = j.entity.tableName
  parentColumn : j.parentColumn ∈ j.entity.storedColumns.map Column.name
  entityColumn : j.entityColumn ∈ j.entity.storedColumns.map Column.name
  parentKey : ∃ key ∈ j.entity.foreignKeys,
    key.entity = main.declaration ∧ j.parentColumn ∈ key.childColumns
  entityKey : ∃ key ∈ j.entity.foreignKeys,
    key.entity = target.declaration ∧ j.entityColumn ∈ key.childColumns

/-- What a property holds of its related rows: at most one, if it is optional, and else a list of what is
not optional. -/
inductive TypeExpr.HoldsRows (t : TypeExpr) : Cardinality → TypeExpr → Prop
  | one (h : t.nullable = true) : HoldsRows t .one t.nonNull
  | many {element : TypeExpr} (h : t.nullable = false) (hlist : t.listElement? = some element)
      (helement : element.nullable = false) : HoldsRows t .many element

/-- The statement of the relation selects the columns, from the table of the related entity. -/
def Relation.Selects (r : Relation) (columns : List String) : Prop :=
  r.select =
    "SELECT " ++ Sql.quoteAll columns ++ " FROM " ++ Sql.quote r.entity.tableName ++ " WHERE " ++ r.condition

/-- What becomes of a related row is selected: everything that the mapper of the entity needs, or the one
column that is projected. -/
inductive Relation.Yields (r : Relation) (element : TypeExpr) : Prop
  | entity (h : r.element = .entity) (hprojection : r.projection = [])
      (hselects : r.Selects (r.entity.storedColumns.map Column.name))
      (hmapper : ∀ n u, MapperUnit.of n r.entity = .ok u →
        ∀ name, u.value.Needs name → name ∈ r.entity.storedColumns.map Column.name)
  | scalar {name : String} {mapping : Mapping} {column : Column}
      (h : r.element = .scalar name element mapping) (hprojection : r.projection = [name])
      (hselects : r.Selects [name]) (hcolumn : r.entity.column? name = some column)
      (haffinity : column.affinity? = some mapping.affinity)

/-- What the relation of a property promises beside the compound's own entity. -/
structure Relation.Consistent (c : Catalog) (main : Entity) (p : Property) (mark : RelationMark)
    (r : Relation) : Prop where
  property : r.property = p.name
  parentColumn : r.parentColumn ∈ main.storedColumns.map Column.name
  entityColumn : r.entityColumn ∈ r.entity.storedColumns.map Column.name
  projection : ∀ name ∈ r.projection, name ∈ r.entity.storedColumns.map Column.name
  rows : ∃ element, p.type.HoldsRows r.cardinality element ∧
    c.Gives (mark.entity.getD element) r.entity ∧ r.Yields element
  junction : Option.Rel (Junction.Consistent c main r.entity) mark.associateBy r.junction

/-- The annotation of a property that is a relation. -/
def Property.relationMark? (p : Property) : Option RelationMark :=
  (Mark.find RelationMark p.annotations).toOption.bind id

/-- The properties of a compound that are relations. -/
def Declaration.relationMarks (d : Declaration) : List (Property × RelationMark) :=
  (d.properties.filter fun p => !Mark.has IgnoreMark p.annotations).filterMap fun p =>
    p.relationMark?.map fun mark => (p, mark)

/-- What the compound of a declaration promises. -/
structure Compound.Consistent (c : Catalog) (d : Declaration) (compound : Compound) : Prop where
  declaration : compound.declaration = d.qualifiedName
  main : ∃ p ∈ d.properties, p.name = compound.mainProperty ∧
    Mark.has EmbeddedMark p.annotations = true ∧ c.Gives p.type compound.main
  /-- There is one relation for each property that is one, in order. -/
  relations : List.Forall₂ (fun x r => r.Consistent c compound.main x.1 x.2) d.relationMarks
    compound.relations

section Consistent

variable {c : Catalog} {d : Declaration}

/-- An entity that a compound depends on is given. -/
theorem gives_of_dependentEntity {owner : String} {t : TypeExpr} {e : Entity}
    (h : (c.dependentEntity (.known c.entityOf) owner t).run.run.Builds e) : c.Gives t e := by
  obtain ⟨d, hd, -, hentity⟩ := resolved_of_dependentEntity h.value
  refine ⟨d, hd, ?_⟩
  rw [Call.fresh_entity, Catalog.entity, Catalog.lookup_qualifiedName (Catalog.mem_of_resolve? hd)]
  exact congrArg Reply.entity hentity

theorem mem_of_requireColumns {e : Entity} {columns : List String} {anchor : String}
    (h : requireColumns e columns anchor = []) {name : String} (hname : name ∈ columns) :
    name ∈ e.storedColumns.map Column.name :=
  mem_storedNames_of_filter (List.map_eq_nil_iff.mp h) hname

theorem consistent_of_junction {main target : Entity} {relation : RelationMark} {mark : JunctionMark}
    {anchor : String} {j : Junction}
    (h : (c.junction (.known c.entityOf) main target relation mark anchor).run.run.Builds j) :
    j.Consistent c main target mark := by
  unfold Catalog.junction at h
  obtain ⟨entity, hentity, h⟩ := CheckedT.builds_bind h
  obtain ⟨_, hcolumns, h⟩ := CheckedT.builds_bind h
  obtain ⟨_, hlinked, h⟩ := CheckedT.builds_bind h
  cases h.value
  have hkey := List.filter_eq_nil_iff.mp (List.map_eq_nil_iff.mp hlinked.clean)
  simp only [List.mem_cons, List.not_mem_nil, or_false, forall_eq_or_imp, forall_eq,
    Bool.not_eq_true', Bool.not_eq_false, List.any_eq_true, Bool.and_eq_true, beq_iff_eq,
    List.contains_iff_mem] at hkey
  exact {
    entity := gives_of_dependentEntity hentity
    table := rfl
    parentColumn := mem_of_requireColumns hcolumns.clean List.mem_cons_self
    entityColumn := mem_of_requireColumns hcolumns.clean (List.mem_cons_of_mem _ List.mem_cons_self)
    parentKey := hkey.1
    entityKey := hkey.2 }

theorem consistent_of_junction? {main target : Entity} {mark : RelationMark} {anchor : String}
    {junction : Option Junction}
    (h : (c.junction? (.known c.entityOf) main target mark anchor).run.run.Builds junction) :
    Option.Rel (Junction.Consistent c main target) mark.associateBy junction := by
  unfold Catalog.junction? at h
  split at h
  · next hnone =>
    cases h.value
    rw [hnone]
    exact .none
  · next junctionMark hsome =>
    obtain ⟨j, hj, h⟩ := CheckedT.builds_bind h
    cases h.value
    rw [hsome]
    exact .some (consistent_of_junction hj)

theorem holdsRows_of_relationElement? {t element : TypeExpr} {cardinality : Cardinality}
    (h : relationElement? t = some (cardinality, element)) : t.HoldsRows cardinality element := by
  unfold relationElement? at h
  split at h
  · next hnullable =>
    cases h
    exact .one hnullable
  · next hnullable =>
    obtain ⟨_, hlist, ⟨⟩⟩ := Option.map_eq_some_iff.mp h
    obtain ⟨hlist, helement⟩ := Option.filter_eq_some_iff.mp hlist
    exact .many (by simpa using hnullable) hlist (by simpa using helement)

/-- What becomes of a row that is no entity is the one column that is projected. -/
theorem row_cases {target : Entity} {element : TypeExpr} {projection : List String}
    {row : RelationElement} (h : c.relationRow? target element projection = some row) :
    (row = .entity ∧ projection = []) ∨ ∃ name mapping, row = .scalar name element mapping ∧
      projection = [name] ∧
      Mapping.resolve? element (((target.column? name).bind Column.affinity?).getD .undefined) =
        some mapping := by
  revert h
  fun_cases Catalog.relationRow? c target element projection with
  | case1 isTarget =>
      rintro ⟨⟩
      exact .inl ⟨rfl, rfl⟩
  | case4 isTarget name _ affinity =>
      intro h
      obtain ⟨mapping, hmapping, rfl⟩ := Option.map_eq_some_iff.mp h
      exact .inr ⟨name, mapping, rfl, rfl, hmapping⟩
  | case2 | case3 | case5 => exact fun h => nomatch h

theorem consistent_of_relation {owner : String} {main : Entity} {p : Property} {mark : RelationMark}
    {r : Relation} (h : (c.relation (.known c.entityOf) owner main p mark).run.run.Builds r) :
    r.Consistent c main p mark := by
  unfold Catalog.relation at h
  obtain ⟨⟨cardinality, element⟩, helement, h⟩ := CheckedT.builds_bind h
  obtain ⟨target, htarget, h⟩ := CheckedT.builds_bind h
  obtain ⟨_, hcolumns, h⟩ := CheckedT.builds_bind h
  obtain ⟨row, hrow, h⟩ := CheckedT.builds_bind h
  obtain ⟨junction, hjunction, h⟩ := CheckedT.builds_bind h
  cases h.value
  obtain ⟨hparent, hentity⟩ := List.append_eq_nil_iff.mp hcolumns.clean
  have hprojected : ∀ name ∈ mark.projection, name ∈ target.storedColumns.map Column.name :=
    fun name hname => mem_of_requireColumns hentity (List.mem_cons_of_mem _ hname)
  have helement := helement.value
  have hrow := hrow.value
  rw [value?_lift, Checked.value?_ofOption] at helement hrow
  refine ⟨rfl, mem_of_requireColumns hparent List.mem_cons_self,
    mem_of_requireColumns hentity List.mem_cons_self, hprojected, ⟨element,
      holdsRows_of_relationElement? helement, gives_of_dependentEntity htarget, ?_⟩,
    consistent_of_junction? hjunction⟩
  obtain ⟨rfl, hprojection⟩ | ⟨name, mapping, rfl, hprojection, hmapping⟩ := row_cases hrow
  · exact .entity rfl hprojection rfl fun n u hu name hneeds => needs_of_mapper hu hneeds
  · obtain ⟨d, -, -, hentityOf⟩ := resolved_of_dependentEntity htarget.value
    have hstored := hprojected name (hprojection ▸ List.mem_singleton_self name)
    obtain ⟨column, hcolumn⟩ := Option.isSome_iff_exists.mp (isSome_column?_iff.mpr hstored)
    rw [hcolumn, Option.bind_some] at hmapping
    exact .scalar rfl hprojection rfl hcolumn (affinity_of_projected hentityOf hcolumn hmapping)

/-- The roles of the properties of a compound are its relations, in order. -/
theorem relations_of_roles {kept : List Property} {named : List (String × Option CompoundRole)}
    (h : List.Forall₂ (fun p entry => (d.compoundProperty p).Builds entry) kept named) :
    (named.filterMap Prod.snd).filterMap CompoundRole.relation? =
      kept.filterMap fun p => p.relationMark?.map fun mark => (p, mark) := by
  rw [List.filterMap_filterMap]
  induction h with
  | nil => rfl
  | @cons p entry _ _ hrole _ ih =>
      have hsame : entry.2.bind CompoundRole.relation? = p.relationMark?.map fun mark => (p, mark) := by
        unfold Property.relationMark?
        obtain ⟨rfl, -, hnone⟩ | ⟨mark, rfl, hsome⟩ := role_of_compoundProperty hrole
        · rw [hnone]
          rfl
        · rw [hsome]
          rfl
      rw [List.filterMap_cons, List.filterMap_cons, hsame, ih]

/-- The main property of a compound is annotated so. -/
theorem embedded_of_mainProperty {kept : List Property} {named : List (String × Option CompoundRole)}
    {p : Property} (h : List.Forall₂ (fun p entry => (d.compoundProperty p).Builds entry) kept named)
    (hmain : (d.mainProperty (named.filterMap Prod.snd)).Builds p) :
    p ∈ kept ∧ Mark.has EmbeddedMark p.annotations = true := by
  have hrole : .main p ∈ named.filterMap Prod.snd := by
    have hmem : p ∈ (named.filterMap Prod.snd).filterMap CompoundRole.main? := by
      simp only [Declaration.mainProperty] at hmain
      split at hmain
      · next only honly =>
        cases hmain.value
        rw [honly]
        exact List.mem_singleton_self _
      · exact absurd hmain Checked.not_builds_fail
    obtain ⟨role, hrole, hsome⟩ := List.mem_filterMap.mp hmem
    cases role with
    | main q =>
        cases hsome
        exact hrole
    | relation q mark => contradiction
  obtain ⟨entry, hentry, hsome⟩ := List.mem_filterMap.mp hrole
  obtain ⟨q, hq, hbuilds⟩ := exists_of_forall₂ h hentry
  obtain ⟨rfl, hembedded, -⟩ | ⟨mark, rfl, -⟩ := role_of_compoundProperty hbuilds
  · cases hsome
    exact ⟨hq, hembedded⟩
  · cases hsome

/-- The parts of a compound that resolves: the entity that it embeds, and what each of its relations was
built from. -/
theorem parts_of_compoundOf {compound : Compound} (h : c.compoundOf d = .ok compound) :
    compound.declaration = d.qualifiedName ∧
      (∃ p ∈ d.properties, p.name = compound.mainProperty ∧
        Mark.has EmbeddedMark p.annotations = true ∧ c.Gives p.type compound.main) ∧
      List.Forall₂ (fun x r => ∃ owner,
          (c.relation (.known c.entityOf) owner compound.main x.1 x.2).run.run.Builds r)
        d.relationMarks compound.relations := by
  obtain ⟨named, construction, hproperties, -, hbody⟩ := body_of_compoundOf h
  have hroles := Checked.builds_all_forall₂ hproperties
    (List.forall_mem_map.mpr fun p _ => decides_compoundProperty d p)
  rw [List.forall₂_map_left_iff] at hroles
  unfold Catalog.compoundBody at hbody
  obtain ⟨mainProperty, hmainProperty, hbody⟩ := CheckedT.builds_bind hbody
  obtain ⟨main, hmain, hbody⟩ := CheckedT.builds_bind hbody
  obtain ⟨relations, hrelations, hbody⟩ := CheckedT.builds_bind hbody
  cases hbody.value
  obtain ⟨hkept, hembedded⟩ := embedded_of_mainProperty hroles hmainProperty
  refine ⟨rfl, ⟨mainProperty, (List.mem_filter.mp hkept).1, rfl, hembedded,
    gives_of_dependentEntity hmain⟩, ?_⟩
  have hall := CheckedT.forall₂_of_builds_all hrelations fun x _ => decides_relation _ main x.1 x.2
  rw [relations_of_roles hroles] at hall
  exact hall.imp fun _ _ hbuilds => ⟨_, hbuilds⟩

/-- **A compound that resolves is consistent.** -/
theorem consistent_of_compoundOf {compound : Compound} (h : c.compoundOf d = .ok compound) :
    compound.Consistent c d := by
  obtain ⟨hdeclaration, hmain, hrelations⟩ := parts_of_compoundOf h
  exact ⟨hdeclaration, hmain, hrelations.imp fun _ _ ⟨_, hbuilds⟩ => consistent_of_relation hbuilds⟩

end Consistent

/-! ## runs -/

/-- The compounds that the rows of a DAO become. -/
def Dao.rowCompounds (dao : Dao) : List Compound :=
  dao.operations.filterMap fun o => o.rowType?.bind RowType.compound?

/-- The compounds in a reply. -/
def Reply.compounds : Reply → List Compound
  | .entity _ => []
  | .compound answer => answer.toOption.toList
  | .dao answer => answer.toOption.toList.flatMap Dao.rowCompounds
  | .database answer =>
    answer.toOption.toList.flatMap fun database => database.getters.flatMap fun g => g.dao.rowCompounds

/-- The DAOs in a reply. -/
def Reply.daos : Reply → List Dao
  | .entity _ | .compound _ => []
  | .dao answer => answer.toOption.toList
  | .database answer =>
    answer.toOption.toList.flatMap fun database => database.getters.map DaoGetter.dao

section Replies

variable {c : Catalog} {compound : Compound}

theorem compoundOf_of_mem_rowCompounds {d : Declaration} {dao : Dao} (h : c.daoFindings d = .ok dao)
    (hcompound : compound ∈ dao.rowCompounds) : ∃ d ∈ c.declarations, c.compoundOf d = .ok compound := by
  obtain ⟨o, ho, hrow⟩ := Dao.row_of_mem_rows hcompound
  exact known_of_daoFindings h ho _ hrow

theorem compoundOf_of_mem_compounds {reply : Reply} (h : reply.Known c)
    (hcompound : compound ∈ reply.compounds) : ∃ d ∈ c.declarations, c.compoundOf d = .ok compound := by
  cases reply with
  | entity answer => contradiction
  | compound answer => exact h compound (eq_ok_of_toOption (Option.mem_toList.mp hcompound))
  | dao answer =>
      obtain ⟨dao, hdao, hcompound⟩ := List.mem_flatMap.mp hcompound
      obtain ⟨d, -, hfindings⟩ := h dao (eq_ok_of_toOption (Option.mem_toList.mp hdao))
      exact compoundOf_of_mem_rowCompounds hfindings hcompound
  | database answer =>
      obtain ⟨database, hdatabase, hcompound⟩ := List.mem_flatMap.mp hcompound
      obtain ⟨d, -, hresolves⟩ := h database (eq_ok_of_toOption (Option.mem_toList.mp hdatabase))
      obtain ⟨g, hg, hcompound⟩ := List.mem_flatMap.mp hcompound
      obtain ⟨d', -, hfindings⟩ := mem_getters_of_database? hresolves hg
      exact compoundOf_of_mem_rowCompounds hfindings hcompound

end Replies

namespace Call

/-- **Every compound is consistent** that a run replies with, whatever the run was asked before: asked for
it, or for a DAO or a database whose rows become compounds. -/
theorem compound_consistent {c : Catalog} {calls : List Call} {reply : Reply} {compound : Compound}
    (hreply : reply ∈ ((calls.mapM (Call.answer c)).run {}).run.1) (h : compound ∈ reply.compounds) :
    ∃ d ∈ c.declarations, compound.Consistent c d := by
  obtain ⟨d, hd, hcompound⟩ := compoundOf_of_mem_compounds (known_of_reply hreply) h
  exact ⟨d, hd, consistent_of_compoundOf hcompound⟩

/-- Transcripts of students, beside the school: the codes of their courses, each projected, and the student
again, which may be missing. -/
def transcriptCatalog : Catalog where
  declarations := schoolCatalog.declarations ++
    [{ qualifiedName := "app::Transcript"
       properties :=
        [{ name := "student", type := .ofName "app::Student", annotations := [{ name := "Embedded" }] },
          { name := "codes"
            type := { name := "Vec", arguments := [.ofName "Uuid"] }
            annotations :=
              [{ name := "Relation"
                 arguments :=
                  [("entity", .type (.ofName "app::Course")), ("parentColumn", .text "id"),
                    ("entityColumn", .text "id"), ("projection", .array [.text "code"]),
                    ("associateBy", .nested "Junction"
                      [("value", .type (.ofName "app::Enrollment")),
                        ("parentColumn", .text "student"), ("entityColumn", .text "course")])] }] },
          { name := "again"
            type := { name := "app::Student", nullable := true }
            annotations :=
              [{ name := "Relation"
                 arguments := [("parentColumn", .text "id"), ("entityColumn", .text "id")] }] }] }]
  nodup := by decide

/-- The compounds of the school and a transcript: the statements select everything of a course or a student,
and of a course whose code is projected the code alone. -/
theorem compound_consistent_transcript :
    let replies := (([Call.database "app::School", .compound "app::Transcript"].mapM
      (Call.answer transcriptCatalog)).run {}).run.1
    ((replies.flatMap Reply.compounds).map fun compound => compound.relations.map Relation.select) =
        [["SELECT `id`, `code` FROM `Course` WHERE `id` IN " ++
              "(SELECT `course` FROM `Enrollment` WHERE `student` = ?)"],
          ["SELECT `code` FROM `Course` WHERE `id` IN " ++
              "(SELECT `course` FROM `Enrollment` WHERE `student` = ?)",
            "SELECT `id`, `active` FROM `Student` WHERE `id` = ?"]] ∧
      ∀ compound ∈ replies.flatMap Reply.compounds,
        ∃ d ∈ transcriptCatalog.declarations, compound.Consistent transcriptCatalog d := by
  intro replies
  refine ⟨by decide +kernel, fun compound hcompound => ?_⟩
  obtain ⟨reply, hreply, hcompound⟩ := List.mem_flatMap.mp hcompound
  exact compound_consistent hreply hcompound

end Call

end DaoForge
