import DaoForge.Proofs.Mark
import DaoForge.Proofs.Resolve.Schema

/-!
# DaoForge.Proofs.Resolve.Consistent

What everyone may rely on who is given an entity.

1. `Index.Fits`, `ForeignKey.Fits`: the columns that an index or a foreign key names are there. Indices
   are taken in one by one (`Indexed.add`);
2. `Entity.Consistent`: the columns, key, indices, foreign keys and construction of an entity agree;
   `consistent_of_entityOf`;
3. `Call.entity_consistent`: so it is of every entity that a run replies with.
-/

namespace DaoForge

/-! ## columns -/

section Columns

variable {c : Catalog}

/-- Every column was made of a property, to be left out or to be stored. -/
theorem forall_columns_memberFindings {P : Column → Prop}
    (hignored : ∀ (s : MemberScope) p info reason, P (s.ignoredColumn p info reason))
    (hstored : ∀ (s : MemberScope) p info mapping,
      Mapping.resolve? p.type info.typeAffinity = some mapping → P (s.storedColumn p info mapping))
    (depth : Nat) (s : MemberScope) (p : Property) :
    ∀ column ∈ Member.columnsOf (memberFindings c depth s p).members, P column := by
  induction depth, s, p using memberFindings_induction (c := c) with
  | malformed => simp [Member.columnsOf]
  | ignored _ s p marks reason =>
      unfold ignoredMember
      split
      · simp [MemberFindings.problem, Member.columnsOf]
      · simpa [Member.columnsOf, Member.columns] using hignored s p marks.info reason
  | column _ s p marks =>
      unfold columnMember
      split
      · simp [MemberFindings.problem, Member.columnsOf]
      · next mapping hmapping =>
        simpa [Member.columnsOf, Member.columns] using hstored s p marks.info mapping hmapping
  | untargeted => simp [MemberFindings.problem, Member.columnsOf]
  | exhausted => simp [Member.columnsOf]
  | embedded depth s p marks embedded target _ ih =>
      intro column hcolumn
      rw [columnsOf_embeddedMember, MemberFindings.mem_columnsOf_concat] at hcolumn
      obtain ⟨f, hf, hcolumn⟩ := hcolumn
      obtain ⟨q, hq, rfl⟩ := List.mem_map.mp hf
      exact ih q hq column hcolumn

/-- A column of an entity that resolves has a mapping iff it is stored. -/
theorem isSome_mapping_findings {d : Declaration} {record : EntityMark} :
    ∀ column ∈ Member.columnsOf (c.findings d record).members,
      column.mapping.isSome = column.isStored := by
  intro column hcolumn
  obtain ⟨f, hf, hcolumn⟩ := MemberFindings.mem_columnsOf_concat.mp hcolumn
  obtain ⟨p, -, rfl⟩ := List.mem_map.mp hf
  exact forall_columns_memberFindings (P := fun column => column.mapping.isSome = column.isStored)
    (fun _ _ _ _ => rfl) (fun _ _ _ _ _ => rfl) _ _ p column hcolumn

theorem flagged_mapping (names : List String) (column : Column) :
    (column.flagged names).mapping = column.mapping := by
  unfold Column.flagged
  split <;> rfl

end Columns

/-! ## members -/

namespace Member

theorem markKeyAll_eq_map (names : List String) (members : List Member) :
    markKeyAll names members = members.map (markKey names) := by
  induction members with
  | nil => rfl
  | cons m rest ih => rw [markKeyAll, ih, List.map_cons]

variable (names : List String) (m : Member)

theorem property_markKey : (m.markKey names).property = m.property := by
  cases m with
  | column column =>
      rw [markKey]
      split <;> rfl
  | embedded e members => rw [markKey]; rfl

theorem isStored_markKey : (m.markKey names).isStored = m.isStored := by
  cases m with
  | column column => exact Column.flagged_isStored names column
  | embedded e members => rw [markKey]; rfl

end Member

/-- A construction that nothing is wrong with: a literal of all properties, or a constructor of the
properties that it must take. -/
theorem construction_cases {d : Declaration} {required : List String} {anchor : String}
    {construction : Construction} (h : d.construction required anchor = (construction, [])) :
    (construction.function = none ∧ construction.parameters = d.properties.map Property.name) ∨
      (construction.function.isSome = true ∧
        ∀ property, property ∈ construction.parameters ↔ property ∈ required) := by
  unfold Declaration.construction at h
  split at h
  · cases h
    exact .inl ⟨rfl, rfl⟩
  · next declared _ =>
    extract_lets parameters unmatched uncovered at h
    obtain ⟨rfl, hfaults⟩ := Prod.mk.inj h
    obtain ⟨hunmatched, huncovered⟩ := List.append_eq_nil_iff.mp hfaults
    have hrequired : ∀ p ∈ parameters, p ∈ required := by
      simpa [unmatched] using List.map_eq_nil_iff.mp hunmatched
    have hcovered : ∀ m ∈ required, m ∈ parameters := by
      simpa [uncovered] using List.map_eq_nil_iff.mp huncovered
    exact .inr ⟨rfl, fun p => ⟨hrequired p, hcovered p⟩⟩

/-! ## indices -/

/-- What an index is of a table with the given columns: it has columns, all of the table, and an order
for each of them or for none. -/
structure Index.Fits (index : Index) (columns : List String) : Prop where
  nonempty : index.columns ≠ []
  columns : ∀ name ∈ index.columns, name ∈ columns
  orders : index.orders = [] ∨ index.orders.length = index.columns.length

/-- Indices that were taken in: each of another name, and each fits. -/
structure Indexed (columns : List String) (indices : List Index) : Prop where
  nodup : (indices.map Index.name).Nodup
  fits : ∀ index ∈ indices, index.Fits columns

section Indices

variable {e : Entity}

/-- Everything that taking in a candidate can do: nothing, or add an index of a new name. -/
theorem addIndex_cases (owner : String) (taken : List Index × List Diagnostic)
    (candidate : Checked Diagnostic Index) :
    (addIndex owner taken candidate).1 = taken.1 ∨
      ∃ index, candidate.value? = some index ∧ index.name ∉ taken.1.map Index.name ∧
        (addIndex owner taken candidate).1 = taken.1 ++ [index] := by
  unfold addIndex
  cases candidate.value? with
  | none => exact .inl rfl
  | some index =>
      simp only
      split
      · next hfind => exact .inr ⟨index, rfl, by simpa using hfind, rfl⟩
      · split
        · exact .inl rfl
        · exact .inl rfl

theorem Indexed.add {columns : List String} {taken : List Index × List Diagnostic}
    (h : Indexed columns taken.1) (owner : String) {candidate : Checked Diagnostic Index}
    (hcandidate : ∀ index, candidate.value? = some index → index.Fits columns) :
    Indexed columns (addIndex owner taken candidate).1 := by
  obtain hsame | ⟨index, hvalue, hnew, hadded⟩ := addIndex_cases owner taken candidate
  · rw [hsame]
    exact h
  · rw [hadded]
    constructor
    · rw [List.map_append, List.map_singleton]
      exact h.nodup.append (List.nodup_singleton _) (by simpa using hnew)
    · rw [List.forall_mem_append, List.forall_mem_singleton]
      exact ⟨h.fits, hcandidate index hvalue⟩

theorem fits_of_listedIndex {mark : IndexMark} (hmark : mark.Fits) {index : Index}
    (h : (listedIndex e mark).value? = some index) : index.Fits (Member.storedNames e.members) := by
  unfold listedIndex at h
  rw [Checked.value?_bind, Option.bind_eq_some_iff] at h
  obtain ⟨_, hdemand, hindex⟩ := h
  cases hindex
  refine ⟨hmark.columns, fun name hname => ?_, hmark.orders⟩
  have hnone := List.map_eq_nil_iff.mp (Checked.eq_nil_of_demand hdemand)
  exact mem_storedNames_of_filter hnone hname

theorem fits_columnIndex {column : Column} (h : column ∈ e.storedColumns) :
    (columnIndex e column).Fits (Member.storedNames e.members) where
  nonempty := List.cons_ne_nil _ _
  columns := by
    simp only [columnIndex, List.mem_singleton, forall_eq]
    exact List.mem_map_of_mem h
  orders := .inl rfl

theorem indexed_resolveIndices {record : EntityMark} (h : ∀ mark ∈ record.indices, mark.Fits) :
    Indexed (Member.storedNames e.members) (resolveIndices e record).1 := by
  unfold resolveIndices
  extract_lets listed ofColumns
  have hcandidates : ∀ candidate ∈ listed ++ ofColumns, ∀ index, candidate.value? = some index →
      index.Fits (Member.storedNames e.members) := by
    rw [List.forall_mem_append]
    constructor
    · intro candidate hcandidate index hvalue
      obtain ⟨mark, hmark, rfl⟩ := List.mem_map.mp hcandidate
      exact fits_of_listedIndex (h mark hmark) hvalue
    · intro candidate hcandidate index hvalue
      obtain ⟨column, hcolumn, rfl⟩ := List.mem_map.mp hcandidate
      cases hvalue
      exact fits_columnIndex (List.mem_filter.mp hcolumn).1
  have hempty : Indexed (Member.storedNames e.members) [] := ⟨List.nodup_nil, by simp⟩
  refine List.foldlRecOn (motive := fun taken : List Index × List Diagnostic => Indexed _ taken.1)
    _ _ hempty fun taken htaken candidate hcandidate => ?_
  exact htaken.add _ (hcandidates candidate hcandidate)

end Indices

/-! ## foreign keys -/

/-- What a foreign key is of a table with the given columns: it pairs columns of the table with
columns of the table of an entity, whose own shape resolves. -/
structure ForeignKey.Fits (c : Catalog) (key : ForeignKey) (columns : List String) : Prop where
  nonempty : key.parentColumns ≠ []
  length : key.parentColumns.length = key.childColumns.length
  child : ∀ name ∈ key.childColumns, name ∈ columns
  parent : ∃ target ∈ c.declarations, target.qualifiedName = key.entity ∧
    Mark.has EntityMark target.annotations = true ∧
    ∃ shape, c.entityShape target = .ok shape ∧ shape.tableName = key.table ∧
      ∀ name ∈ key.parentColumns, name ∈ shape.storedColumns.map Column.name

theorem fits_of_foreignKey {c : Catalog} {child : Entity} {mark : ForeignKeyMark} (hmark : mark.Fits)
    {key : ForeignKey}
    (h : (c.foreignKey (.known c.entityShape) child mark).run.run.Builds key) :
    key.Fits c (child.storedColumns.map Column.name) := by
  unfold Catalog.foreignKey at h
  obtain ⟨target, htarget, h⟩ := CheckedT.builds_bind h
  obtain ⟨parent, hparent, h⟩ := CheckedT.builds_bind h
  obtain ⟨_, hcolumns, h⟩ := CheckedT.builds_bind h
  cases h.value
  obtain ⟨hresolve, hentity⟩ : c.resolve? mark.entity = some target ∧
      Mark.has EntityMark target.annotations = true := by
    have hvalue := htarget.value
    rw [value?_lift, Checked.value?_ofOption, Option.filter_eq_some_iff] at hvalue
    exact hvalue
  have hshape : c.entityShape target = .ok parent := by
    have hvalue := hparent.value
    rw [Resolver.known_apply, value?_ofAnswer] at hvalue
    exact eq_ok_of_toOption hvalue
  obtain ⟨hmissingParent, hmissingChild⟩ := List.append_eq_nil_iff.mp hcolumns.clean
  refine ⟨hmark.columns, hmark.length, fun name hname => ?_, target, Catalog.mem_of_resolve? hresolve,
    rfl, hentity, parent, hshape, rfl, fun name hname => ?_⟩
  · exact mem_storedNames_of_filter (List.map_eq_nil_iff.mp hmissingChild) hname
  · exact mem_storedNames_of_filter (List.map_eq_nil_iff.mp hmissingParent) hname

/-! ## entities -/

/-- The parts of an entity agree with one another and with the entities that it refers to. -/
structure Entity.Consistent (c : Catalog) (e : Entity) : Prop where
  /-- Column names are distinct, the key names columns of the table, and these are flagged. -/
  keyed : e.WellKeyed
  mapped : ∀ column ∈ e.columns, column.mapping.isSome = true ↔ column.isStored = true
  indexNames : (e.indices.map Index.name).Nodup
  indices : ∀ index ∈ e.indices, index.Fits (e.storedColumns.map Column.name)
  foreignKeys : ∀ key ∈ e.foreignKeys, key.Fits c (e.storedColumns.map Column.name)
  /-- A declared constructor takes the members that are stored. -/
  construction : e.construction.function.isSome = true → ∀ property,
    property ∈ e.construction.parameters ↔
      ∃ m ∈ e.members, m.isStored = true ∧ m.property = property

section Consistent

variable {c : Catalog} {d : Declaration} {record : EntityMark} {e : Entity}

theorem Entity.ShapedBy.mapped (h : e.ShapedBy c d record) :
    ∀ column ∈ e.columns, column.mapping.isSome = true ↔ column.isStored = true := by
  rw [Entity.columns, h.members, Member.columnsOf_markKeyAll]
  intro column hcolumn
  obtain ⟨plain, hplain, rfl⟩ := List.mem_map.mp hcolumn
  rw [flagged_mapping, Column.flagged_isStored, isSome_mapping_findings plain hplain]

/-- The members that a construction must take are those of the entity that are stored. -/
theorem Entity.ShapedBy.mem_stored_iff (h : e.ShapedBy c d record) (property : String) :
    property ∈ ((c.findings d record).members.filter Member.isStored).map Member.property ↔
      ∃ m ∈ e.members, m.isStored = true ∧ m.property = property := by
  rw [h.members, Member.markKeyAll_eq_map]
  simp only [List.mem_map, List.mem_filter, exists_exists_and_eq_and, Member.isStored_markKey,
    Member.property_markKey, and_assoc]

theorem Entity.ShapedBy.construction_iff (h : e.ShapedBy c d record)
    (hfunction : e.construction.function.isSome = true) (property : String) :
    property ∈ e.construction.parameters ↔
      ∃ m ∈ e.members, m.isStored = true ∧ m.property = property := by
  obtain ⟨hnone, -⟩ | ⟨-, hrequired⟩ := construction_cases h.construction
  · rw [hnone] at hfunction
    contradiction
  · rw [hrequired, h.mem_stored_iff]

theorem Entity.ShapedBy.indexed (h : e.ShapedBy c d record)
    (hrecord : Mark.find EntityMark d.annotations = .ok (some record)) :
    Indexed (e.storedColumns.map Column.name) e.indices := by
  have hindexed := indexed_resolveIndices (e := { e with indices := [] })
    (EntityMark.fits_of_find hrecord).1
  rw [h.indices] at hindexed
  exact hindexed

theorem foreignKeyMarks_of_find (hrecord : Mark.find EntityMark d.annotations = .ok (some record)) :
    d.foreignKeyMarks = record.foreignKeys := by
  rw [Declaration.foreignKeyMarks, hrecord]

theorem consistent_of_entityOf (h : c.entityOf d = .ok e) : e.Consistent c := by
  have hkeyed := wellKeyed_of_entityOf h
  obtain ⟨shape, foreignKeys, hshape, rfl, hforeignKeys⟩ := shape_of_entityOf h
  obtain ⟨-, record, hrecord, hshaped⟩ := shapedBy_of_entityShape hshape
  have hindexed := hshaped.indexed hrecord
  constructor
  · exact hkeyed
  · exact hshaped.mapped
  · exact hindexed.nodup
  · exact hindexed.fits
  · intro key hkey
    obtain ⟨mark, hmark, hbuilds⟩ := hforeignKeys key hkey
    rw [foreignKeyMarks_of_find hrecord] at hmark
    exact fits_of_foreignKey ((EntityMark.fits_of_find hrecord).2 mark hmark) hbuilds
  · exact hshaped.construction_iff

end Consistent

/-! ## runs -/

namespace Call

/-- **Every entity is consistent** that a run replies with, whatever the run was asked before. -/
theorem entity_consistent {c : Catalog} {calls : List Call} {e : Entity}
    (h : .entity (.ok e) ∈ ((calls.mapM (Call.answer c)).run {}).run.1) : e.Consistent c := by
  obtain ⟨d, -, hentity⟩ := entityOf_of_reply h
  exact consistent_of_entityOf hentity

/-- Orders of an account: two indices, of which one has a derived name, a key of an embedded struct's
column, a foreign key, and a constructor that leaves out what is ignored. -/
def orderCatalog : Catalog where
  declarations :=
    [{ qualifiedName := "app::Stamp"
       properties :=
         [{ name := "serial", type := .ofName "i64" }, { name := "zone", type := .ofName "String" }] },
      { qualifiedName := "app::Account"
        annotations := [{ name := "Entity", arguments := [("tableName", .text "accounts")] }]
        properties :=
          [{ name := "id", type := .ofName "i64", annotations := [{ name := "PrimaryKey" }] }] },
      { qualifiedName := "app::Order"
        annotations :=
          [{ name := "Entity"
             arguments :=
              [("indices", .array [.nested "Index"
                  [("columns", .array [.text "account", .text "at_serial"])]]),
                ("foreignKeys", .array [.nested "ForeignKey"
                  [("entity", .type (.ofName "app::Account")),
                    ("parentColumns", .text "id"), ("childColumns", .text "account")]])] }]
        properties :=
          [{ name := "at"
             type := .ofName "app::Stamp"
             annotations :=
              [{ name := "Embedded", arguments := [("prefix", .text "at_")] },
                { name := "PrimaryKey" }] },
            { name := "account"
              type := .ofName "i64"
              annotations := [{ name := "ColumnInfo", arguments := [("index", .bool true)] }] },
            { name := "draft", type := .ofName "String", annotations := [{ name := "Ignore" }] }]
        constructor := some
          { name := "new"
            parameters :=
              [{ name := "account", type := .ofName "i64" },
                { name := "at", type := .ofName "app::Stamp" }] } }]
  nodup := by decide

/-- The entity that a run of one call replies with. -/
theorem replies_entity (c : Catalog) (name : String) :
    (([Call.entity name].mapM (Call.answer c)).run {}).run.1 =
      [.entity ((c.byName (Session.entity c) name).run {}).run.1] := rfl

/-- An entity that resolves is replied with. -/
theorem mem_replies_of_run {c : Catalog} {name : String} {e : Entity}
    (h : ((c.byName (Session.entity c) name).run {}).run.1.toOption = some e) :
    .entity (.ok e) ∈ (([Call.entity name].mapM (Call.answer c)).run {}).run.1 := by
  rw [replies_entity, eq_ok_of_toOption h]
  exact List.mem_singleton_self _

/-- Orders resolve, with everything that was asked for. -/
theorem entity_consistent_order :
    ∃ e, .entity (.ok e) ∈ (([.entity "app::Order"].mapM (Call.answer orderCatalog)).run {}).run.1 ∧
      e.indices.map Index.columns = [["account", "at_serial"], ["account"]] ∧
      e.foreignKeys.map ForeignKey.table = ["accounts"] ∧
      e.construction = ⟨some "new", ["account", "at"]⟩ ∧ e.Consistent orderCatalog := by
  have hrun : ((orderCatalog.byName (Session.entity orderCatalog) "app::Order").run
        {}).run.1.toOption.map (fun e => (e.indices.map Index.columns,
          e.foreignKeys.map ForeignKey.table, e.construction)) =
      some ([["account", "at_serial"], ["account"]], ["accounts"], ⟨some "new", ["account", "at"]⟩) := by
    decide +kernel
  obtain ⟨e, he, hparts⟩ := Option.map_eq_some_iff.mp hrun
  obtain ⟨hindices, hrest⟩ := Prod.mk.inj hparts
  obtain ⟨hforeignKeys, hconstruction⟩ := Prod.mk.inj hrest
  have hreply : Reply.entity (.ok e) ∈
      (([Call.entity "app::Order"].mapM (Call.answer orderCatalog)).run {}).run.1 := by
    rw [replies_entity, eq_ok_of_toOption he]
    exact List.mem_singleton_self _
  exact ⟨e, hreply, hindices, hforeignKeys, hconstruction, entity_consistent hreply⟩

end Call

end DaoForge
