import DaoForge.Proofs.Resolve.Complete
import DaoForge.Proofs.Resolve.Consistent
import DaoForge.Sql.Definition

/-!
# DaoForge.Proofs.Resolve.IndexNames

Names of indices. In SQLite all indices of a database share one namespace, and a statement that creates
an index unless it exists does nothing where another table has an index of the name.

1. `Entity.askedIndexNames`: the names that the annotations of an entity ask for, given or derived. Its
   indices have these names, each once (`names_of_resolveIndices`);
2. `Database.created`: the indices that are there after the statements of a database. An index is
   among them iff its entity is the first that has an index of its name (`mem_created_iff`);
3. `Call.indices_created_iff`: all indices of a database are created iff their names are distinct, iff no
   two entities ask for one name. Names are compared entity by entity, so that two entities can.
-/

namespace DaoForge

/-! ## names that are asked for -/

/-- The name of a listed index. -/
def IndexMark.indexName (mark : IndexMark) (table : String) : String :=
  if mark.name.isEmpty then derivedIndexName table mark.columns else mark.name

/-- The names of indices that the annotations of an entity ask for: those of the listed indices, then
those of columns that ask for one. -/
def Entity.askedIndexNames (e : Entity) (record : EntityMark) : List String :=
  record.indices.map (fun mark => mark.indexName e.tableName) ++
    (e.storedColumns.filter Column.index).map fun c => derivedIndexName e.tableName [c.name]

section Asked

variable {owner : String} {taken : List Index × List Diagnostic}
  {candidate : Checked Diagnostic Index} {name : String}

/-- Unless it reports a problem, the candidate is an index of the name. -/
def Names (candidate : Checked Diagnostic Index) (name : String) : Prop :=
  candidate.found = [] → ∃ index, candidate.value? = some index ∧ index.name = name

/-- Without a problem an index is added unless one of its name was taken in. -/
theorem addIndex_of_clean (hclean : (addIndex owner taken candidate).2 = []) :
    taken.2 = [] ∧ candidate.found = [] ∧ ∀ index, candidate.value? = some index →
      (addIndex owner taken candidate).1 =
        if index.name ∈ taken.1.map Index.name then taken.1 else taken.1 ++ [index] := by
  unfold addIndex at hclean ⊢
  cases hvalue : candidate.value? with
  | none =>
      rw [hvalue] at hclean
      obtain ⟨htaken, hfound⟩ := List.append_eq_nil_iff.mp hclean
      exact ⟨htaken, hfound, fun _ h => by contradiction⟩
  | some index =>
      rw [hvalue] at hclean
      simp only [Option.some.injEq, forall_eq'] at hclean ⊢
      cases hfind : taken.1.find? fun existing => existing.name == index.name with
      | none =>
          rw [hfind] at hclean
          obtain ⟨htaken, hfound⟩ := List.append_eq_nil_iff.mp hclean
          have hnew : index.name ∉ taken.1.map Index.name := by simpa using hfind
          exact ⟨htaken, hfound, (if_neg hnew).symm⟩
      | some existing =>
          rw [hfind] at hclean
          simp only at hclean ⊢
          have hseen : index.name ∈ taken.1.map Index.name := by
            refine List.mem_map.mpr ⟨existing, List.mem_of_find?_eq_some hfind, ?_⟩
            simpa using List.find?_some hfind
          split at hclean
          · obtain ⟨htaken, hfound⟩ := List.append_eq_nil_iff.mp hclean
            rw [if_pos ‹_›, if_pos hseen]
            exact ⟨htaken, hfound, rfl⟩
          · simp at hclean

/-- The step: without a problem a candidate adds its name, unless an index has it. -/
theorem names_of_addIndex (h : Names candidate name)
    (hclean : (addIndex owner taken candidate).2 = []) :
    taken.2 = [] ∧
      (addIndex owner taken candidate).1.map Index.name = addNew (taken.1.map Index.name) name := by
  obtain ⟨htaken, hfound, hadded⟩ := addIndex_of_clean hclean
  obtain ⟨index, hvalue, rfl⟩ := h hfound
  refine ⟨htaken, ?_⟩
  rw [hadded index hvalue, addNew]
  split
  · rfl
  · rw [List.map_append, List.map_singleton]

theorem names_of_addAll {candidates : List (Checked Diagnostic Index)} {names : List String}
    (h : List.Forall₂ Names candidates names)
    (hclean : (candidates.foldl (addIndex owner) taken).2 = []) :
    taken.2 = [] ∧ (candidates.foldl (addIndex owner) taken).1.map Index.name =
      names.foldl addNew (taken.1.map Index.name) := by
  induction h generalizing taken with
  | nil => exact ⟨hclean, rfl⟩
  | cons hfirst _ ih =>
      obtain ⟨hstep, hrest⟩ := ih hclean
      obtain ⟨htaken, hadded⟩ := names_of_addIndex hfirst hstep
      rw [List.foldl_cons, List.foldl_cons, hrest, hadded]
      exact ⟨htaken, rfl⟩

theorem names_listedIndex (e : Entity) (mark : IndexMark) :
    Names (listedIndex e mark) (mark.indexName e.tableName) := by
  intro hfound
  have hdecides : (listedIndex e mark).Decides :=
    Checked.decides_bind (Checked.decides_demand _) fun _ => Checked.decides_pure _
  obtain ⟨index, hindex⟩ := hdecides hfound
  refine ⟨index, hindex, ?_⟩
  unfold listedIndex at hindex
  rw [Checked.value?_bind, Option.bind_eq_some_iff] at hindex
  obtain ⟨_, -, hindex⟩ := hindex
  cases hindex
  rfl

theorem names_columnIndex (e : Entity) (c : Column) :
    Names (pure (columnIndex e c)) (derivedIndexName e.tableName [c.name]) := by
  intro _
  exact ⟨columnIndex e c, rfl, rfl⟩

/-- Candidates that are made of items each have the name of the item. -/
theorem forall₂_names {α : Type} {check : α → Checked Diagnostic Index} {f : α → String}
    (h : ∀ x, Names (check x) (f x)) (xs : List α) :
    List.Forall₂ Names (xs.map check) (xs.map f) := by
  rw [List.forall₂_map_left_iff, List.forall₂_map_right_iff, List.forall₂_same]
  exact fun x _ => h x

/-- The indices of an entity that resolves have the names that are asked for. -/
theorem names_of_resolveIndices {e : Entity} {record : EntityMark} {indices : List Index}
    (h : resolveIndices e record = (indices, [])) :
    indices.map Index.name = distinct (e.askedIndexNames record) := by
  unfold resolveIndices at h
  extract_lets listed ofColumns at h
  have hlisted := forall₂_names (names_listedIndex e) record.indices
  have hcolumns := forall₂_names (names_columnIndex e) (e.storedColumns.filter Column.index)
  obtain ⟨-, hnames⟩ := names_of_addAll (List.rel_append hlisted hcolumns) (congrArg Prod.snd h)
  rw [h] at hnames
  exact hnames

theorem askedIndexNames_of_entityOf {c : Catalog} {d : Declaration} {e : Entity}
    (h : c.entityOf d = .ok e) : ∃ record, Mark.find EntityMark d.annotations = .ok (some record) ∧
      e.indices.map Index.name = distinct (e.askedIndexNames record) := by
  obtain ⟨shape, foreignKeys, hshape, rfl, -⟩ := shape_of_entityOf h
  obtain ⟨-, record, hrecord, hshaped⟩ := shapedBy_of_entityShape hshape
  exact ⟨record, hrecord, names_of_resolveIndices hshaped.indices⟩

end Asked

/-! ## indices that are created -/

namespace Database

variable (d : Database)

/-- The indices of a database, each with its entity, in the order of their statements. -/
def indices : List (Entity × Index) := d.entities.flatMap fun e => e.indices.map fun i => (e, i)

/-- The indices that are there after the statements have run: a statement does nothing if there is an
index of its name. -/
def created : List (Entity × Index) := distinctBy (fun index => index.2.name) d.indices

/-- The names of the indices of a database. -/
def indexNames : List String := d.indices.map fun index => index.2.name

theorem indexNames_eq : d.indexNames = d.entities.flatMap fun e => e.indices.map Index.name := by
  simp only [indexNames, indices, List.map_flatMap, List.map_map]
  rfl

/-- The statements of a database create its tables, and then its indices. -/
theorem schemaStatements_eq : d.schemaStatements = d.entities.map Entity.createTable ++
    d.indices.map fun index => Sql.createIndex index.1.tableName index.2 := by
  simp only [schemaStatements, indices, List.map_flatMap, List.map_map]
  rfl

/-- All indices are created iff their names are distinct. -/
theorem created_eq_iff : d.created = d.indices ↔ d.indexNames.Nodup := by
  constructor
  · intro h
    have hnodup := nodup_distinctBy (fun index : Entity × Index => index.2.name) d.indices
    rwa [← created, h] at hnodup
  · exact distinctBy_of_nodup

variable {d}

theorem indexNames_nodup_iff (h : ∀ e ∈ d.entities, (e.indices.map Index.name).Nodup) :
    d.indexNames.Nodup ↔ d.entities.Pairwise fun e e' =>
      (e.indices.map Index.name).Disjoint (e'.indices.map Index.name) := by
  rw [indexNames_eq, List.nodup_flatMap, and_iff_right h]

/-- Among the indices of its entity an index is found by its name. -/
theorem find?_own {e : Entity} (hnames : (e.indices.map Index.name).Nodup) {i : Index}
    (hi : i ∈ e.indices) :
    (e.indices.map fun i => (e, i)).find? (fun index => index.2.name == i.name) = some (e, i) := by
  have hnodup : ((e.indices.map fun i => (e, i)).map fun index => index.2.name).Nodup := by
    rw [List.map_map]
    exact hnames
  have hkept : (e, i) ∈ distinctBy (fun index : Entity × Index => index.2.name)
      (e.indices.map fun i => (e, i)) := by
    rw [distinctBy_of_nodup hnodup]
    exact List.mem_map_of_mem hi
  exact mem_distinctBy_iff_find?.mp hkept

/-- An index is created iff its entity is the first that has an index of its name. -/
theorem mem_created_iff (hnames : ∀ e ∈ d.entities, (e.indices.map Index.name).Nodup)
    (hentities : (d.entities.map Entity.declaration).Nodup) {before after : List Entity} {e : Entity}
    {i : Index} (hsplit : d.entities = before ++ e :: after) (hi : i ∈ e.indices) :
    (e, i) ∈ d.created ↔ ∀ e' ∈ before, i.name ∉ e'.indices.map Index.name := by
  have he : e ∈ d.entities := by
    rw [hsplit]
    exact List.mem_append_right _ List.mem_cons_self
  have hbefore : e ∉ before := by
    rw [hsplit, List.map_append, List.map_cons] at hentities
    have hapart := List.disjoint_of_nodup_append hentities
    exact fun hmem => hapart (List.mem_map_of_mem hmem) List.mem_cons_self
  rw [created, mem_distinctBy_iff_find?, indices, hsplit, List.flatMap_append, List.flatMap_cons,
    List.find?_append, List.find?_append, find?_own (hnames e he) hi, Option.some_or]
  cases hfirst : (before.flatMap fun e => e.indices.map fun i => (e, i)).find?
      fun index => index.2.name == i.name with
  | none =>
      refine iff_of_true rfl fun e' he' hname => ?_
      obtain ⟨i', hi', hname⟩ := List.mem_map.mp hname
      have hmem : (e', i') ∈ before.flatMap fun e => e.indices.map fun i => (e, i) :=
        List.mem_flatMap.mpr ⟨e', he', List.mem_map_of_mem hi'⟩
      have hmiss := List.find?_eq_none.mp hfirst _ hmem
      simp [hname] at hmiss
  | some first =>
      obtain ⟨e', he', hmem⟩ := List.mem_flatMap.mp (List.mem_of_find?_eq_some hfirst)
      obtain ⟨i', hi', rfl⟩ := List.mem_map.mp hmem
      have hname : i'.name = i.name := by simpa using List.find?_some hfirst
      refine iff_of_false ?_ fun hnone => hnone e' he' (List.mem_map.mpr ⟨i', hi', hname⟩)
      intro heq
      cases heq
      exact hbefore he'

end Database

/-! ## runs -/

/-- What becomes of the indices of a database. -/
structure Database.IndicesCreated (c : Catalog) (d : Database) : Prop where
  /-- Each entity has indices of the names that its annotations ask for, each once. -/
  asked : ∀ e ∈ d.entities, ∃ declaration ∈ c.declarations, ∃ record,
    declaration.qualifiedName = e.declaration ∧
    Mark.find EntityMark declaration.annotations = .ok (some record) ∧
    e.indices.map Index.name = distinct (e.askedIndexNames record)
  statements : d.schemaStatements = d.entities.map Entity.createTable ++
    d.indices.map fun index => Sql.createIndex index.1.tableName index.2
  /-- A statement is skipped iff an entity before has an index of the name. -/
  created_iff : ∀ before e after, d.entities = before ++ e :: after → ∀ i ∈ e.indices,
    (e, i) ∈ d.created ↔ ∀ e' ∈ before, i.name ∉ e'.indices.map Index.name
  all_iff : d.created = d.indices ↔ d.indexNames.Nodup
  nodup_iff : d.indexNames.Nodup ↔ d.entities.Pairwise fun e e' =>
    (e.indices.map Index.name).Disjoint (e'.indices.map Index.name)

theorem indicesCreated_of_database? {c : Catalog} {declaration : Declaration} {d : Database}
    (h : c.database? declaration = some d) : d.IndicesCreated c := by
  have hnames : ∀ e ∈ d.entities, (e.indices.map Index.name).Nodup := by
    intro e he
    obtain ⟨_, -, -, hentity⟩ := mem_entities_of_database? h he
    exact (consistent_of_entityOf hentity).indexNames
  have hentities := (complete_of_database? h).nodup
  refine ⟨?_, d.schemaStatements_eq, ?_, d.created_eq_iff, Database.indexNames_nodup_iff hnames⟩
  · intro e he
    obtain ⟨declaration, hdeclaration, -, hentity⟩ := mem_entities_of_database? h he
    obtain ⟨record, hrecord, hasked⟩ := askedIndexNames_of_entityOf hentity
    exact ⟨declaration, hdeclaration, record, (declaration_of_entityOf hentity).symm, hrecord, hasked⟩
  · intro before e after hsplit i hi
    exact Database.mem_created_iff hnames hentities hsplit hi

namespace Call

/-- **When every index is created**: of every database that a run replies with, the statements create
all indices iff the names of these are distinct, which is iff no two entities ask for one name. The
names of one entity are compared when it is resolved; those of different entities never are. -/
theorem indices_created_iff {c : Catalog} {calls : List Call} {d : Database}
    (h : .database (.ok d) ∈ ((calls.mapM (Call.answer c)).run {}).run.1) : d.IndicesCreated c := by
  obtain ⟨declaration, -, hdatabase⟩ := database?_of_reply h
  exact indicesCreated_of_database? hdatabase

/-- Users and groups of users. The tables and columns give two indices one derived name. -/
def groupCatalog : Catalog where
  declarations :=
    [{ qualifiedName := "app::User"
       annotations := [{ name := "Entity", arguments := [("tableName", .text "user")] }]
       properties :=
        [{ name := "id", type := .ofName "i64", annotations := [{ name := "PrimaryKey" }] },
          { name := "group_name"
            type := .ofName "String"
            annotations := [{ name := "ColumnInfo", arguments := [("index", .bool true)] }] }] },
      { qualifiedName := "app::UserGroup"
        annotations := [{ name := "Entity", arguments := [("tableName", .text "user_group")] }]
        properties :=
          [{ name := "id", type := .ofName "i64", annotations := [{ name := "PrimaryKey" }] },
            { name := "name"
              type := .ofName "String"
              annotations := [{ name := "ColumnInfo", arguments := [("index", .bool true)] }] }] },
      { qualifiedName := "app::Db"
        kind := .trait
        annotations :=
          [{ name := "Database"
             arguments :=
              [("entities", .array [.type (.ofName "app::User"), .type (.ofName "app::UserGroup")]),
                ("version", .integer 1)] }] }]
  nodup := by decide

/-- The database resolves, and one of its two indices is not created. -/
theorem indices_created_group :
    ∃ d, .database (.ok d) ∈ (([.database "app::Db"].mapM (Call.answer groupCatalog)).run {}).run.1 ∧
      d.indexNames = ["index_user_group_name", "index_user_group_name"] ∧ d.created ≠ d.indices := by
  have hrun : ((groupCatalog.database "app::Db").run {}).run.1.toOption.map Database.indexNames =
      some ["index_user_group_name", "index_user_group_name"] := by
    decide +kernel
  obtain ⟨d, hdatabase, hnames⟩ := Option.map_eq_some_iff.mp hrun
  have hreply : Reply.database (.ok d) ∈
      (([Call.database "app::Db"].mapM (Call.answer groupCatalog)).run {}).run.1 := by
    rw [replies_singleton, eq_ok_of_toOption hdatabase]
    exact List.mem_singleton_self _
  refine ⟨d, hreply, hnames, fun hall => ?_⟩
  have hnodup := (indices_created_iff hreply).all_iff.mp hall
  rw [hnames] at hnodup
  exact absurd hnodup (by decide)

end Call

end DaoForge
