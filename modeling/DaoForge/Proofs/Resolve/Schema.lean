import DaoForge.Proofs.Distinct
import DaoForge.Proofs.Except
import DaoForge.Proofs.Resolve.Calls
import DaoForge.Proofs.Resolve.Entity
import DaoForge.Resolve.Schema

/-!
# DaoForge.Proofs.Resolve.Schema

A resolved schema is what the catalog alone says of its annotated declarations.

1. `schema_entities`, `schema_databases`: in declaration order, the entities and databases that
   resolve;
2. what resolves is named for its declaration (`declaration_of_entityOf`,
   `declaration_of_daoFindings`, `database?_eq_some`);
3. a database takes its entities and DAOs from the catalog (`mem_entities_of_database?`,
   `mem_getters_of_database?`).
-/

namespace DaoForge

/-! ## names -/

namespace Catalog

variable {c : Catalog} {d : Declaration}

theorem get?_qualifiedName (hd : d ∈ c.declarations) : c.get? d.qualifiedName = some d := by
  rw [get?, named?_eq_some_iff.mpr ⟨hd, rfl⟩]

theorem lookup_qualifiedName (hd : d ∈ c.declarations) : c.lookup d.qualifiedName = .ok d := by
  rw [lookup, get?_qualifiedName hd]

theorem mem_annotatedWith {name : String} :
    d ∈ c.annotatedWith name ↔ d ∈ c.declarations ∧ Mark.isPresent d.annotations name = true :=
  List.mem_filter

end Catalog

/-! ## the schema of a catalog -/

theorem partitionAnswers_fst {α : Type} (answers : List (Except (List Diagnostic) α)) :
    (partitionAnswers answers).1 = answers.filterMap Except.toOption := by
  induction answers with
  | nil => rfl
  | cons answer rest ih =>
      cases answer with
      | ok a => simp [partitionAnswers, ih, Except.toOption]
      | error e =>
          rw [List.filterMap_cons_none rfl, ← ih]
          rfl

/-- The successes among answers that succeed as `f` does. -/
theorem filterMap_toOption {α β : Type} {xs : List β} {answers : List (Except (List Diagnostic) α)}
    {f : β → Option α} (h : List.Forall₂ (fun x answer => answer.toOption = f x) xs answers) :
    answers.filterMap Except.toOption = xs.filterMap f := by
  induction h with
  | nil => rfl
  | cons hhead _ ih => rw [List.filterMap_cons, List.filterMap_cons, hhead, ih]

section Schema

variable {c : Catalog}

/-- Asked for the annotated declarations in order, a run resolves those that resolve. -/
theorem yields_annotated {α : Type} (name : String)
    {ask : String → Run (Except (List Diagnostic) α)} {f : Declaration → Option α}
    (h : ∀ d ∈ c.declarations,
      Yields (Session.Sound c) (ask d.qualifiedName) fun answer => answer.toOption = f d) :
    Yields (Session.Sound c) ((c.namesWith name).mapM ask) fun answers =>
      (partitionAnswers answers).1 = (c.annotatedWith name).filterMap f := by
  unfold Catalog.namesWith
  rw [List.mapM_map]
  have hall : Yields (Session.Sound c)
      ((c.annotatedWith name).mapM (ask ∘ Declaration.qualifiedName))
      (List.Forall₂ (fun d answer => answer.toOption = f d) (c.annotatedWith name)) :=
    yields_mapM fun d hd => h d (Catalog.mem_annotatedWith.mp hd).1
  refine hall.imp fun answers hanswers => ?_
  rw [partitionAnswers_fst, filterMap_toOption hanswers]

theorem yields_resolveSchema (c : Catalog) :
    Yields (Session.Sound c) c.resolveSchema fun schema =>
      schema.entities = (c.annotatedWith "Entity").filterMap (fun d => (c.entityOf d).toOption) ∧
      schema.databases = (c.annotatedWith "Database").filterMap c.database? := by
  have hentity : ∀ d ∈ c.declarations, Yields (Session.Sound c)
      (c.byName (Session.entity c) d.qualifiedName) fun answer =>
        answer.toOption = (c.entityOf d).toOption := by
    intro d hd
    have hanswer := Call.yields_byName_of_follows (follows_entity c) d.qualifiedName
    rw [Catalog.lookup_qualifiedName hd] at hanswer
    exact hanswer.imp fun answer h => congrArg Except.toOption h
  have hdatabase : ∀ d ∈ c.declarations, Yields (Session.Sound c) (c.database d.qualifiedName)
      fun answer => answer.toOption = c.database? d := by
    intro d hd
    have hanswer := Call.yields_databaseByName (c := c) d.qualifiedName
    rw [Catalog.lookup_qualifiedName hd] at hanswer
    exact hanswer.imp fun answer h => h.1
  unfold Catalog.resolveSchema
  refine (yields_annotated "Entity" hentity).bind fun entities hentities => ?_
  refine (yields_annotated "Database" hdatabase).bind fun databases hdatabases => ?_
  exact yields_pure ⟨hentities, hdatabases⟩

theorem schema_entities (c : Catalog) :
    c.schema.entities = (c.annotatedWith "Entity").filterMap fun d => (c.entityOf d).toOption :=
  (yields_resolveSchema c {} (Session.sound_empty c)).1.1

theorem schema_databases (c : Catalog) :
    c.schema.databases = (c.annotatedWith "Database").filterMap c.database? :=
  (yields_resolveSchema c {} (Session.sound_empty c)).1.2

end Schema

/-! ## what resolves is named for its declaration -/

section Declarations

variable {c : Catalog} {d : Declaration}

theorem declaration_of_entityShape {e : Entity} (h : c.entityShape d = .ok e) :
    e.declaration = d.qualifiedName := by
  unfold Catalog.entityShape at h
  split at h
  · contradiction
  split at h
  · unfold Catalog.shapeOf at h
    simp only at h
    split at h
    · cases h
      simp only
      split <;> rfl
    · contradiction
  · contradiction
  · contradiction

theorem declaration_of_entityOf {e : Entity} (h : c.entityOf d = .ok e) :
    e.declaration = d.qualifiedName := by
  obtain ⟨shape, foreignKeys, hshape, rfl, -⟩ := shape_of_entityOf h
  have hname := declaration_of_entityShape hshape
  exact hname

theorem declaration_of_daoFindings {dao : Dao} (h : c.daoFindings d = .ok dao) :
    dao.declaration = d.qualifiedName := by
  unfold Catalog.daoFindings Catalog.resolveDao at h
  split at h
  · contradiction
  split at h
  · contradiction
  · obtain ⟨hvalue, -⟩ := Checked.toExcept_eq_ok_iff.mp h
    cases hvalue
    rfl

/-- A database that resolves is assembled without a problem from what the catalog says. -/
theorem assembled_of_database? {database : Database} (h : c.database? d = some database) :
    ∃ record : DatabaseMark,
      let mark := (readMark TypeConvertersMark d.qualifiedName d.annotations).1.getD {}
      let assembled := c.assembleDatabase d.qualifiedName record.version mark
        (c.knownEntities d record) (c.knownGetters d)
      assembled.value? = some database ∧ assembled.found = [] := by
  unfold Catalog.database? at h
  split at h
  · split at h
    · next record _ =>
      obtain ⟨hvalue, hfound⟩ := Checked.toExcept_eq_ok_iff.mp (eq_ok_of_toOption h)
      have hassembled : _ ++ (c.assembleDatabase _ _ _ _ _).found = [] := hfound
      exact ⟨record, hvalue, (List.append_eq_nil_iff.mp hassembled).2⟩
    · contradiction
  · contradiction

/-- What a database is assembled from, if it resolves. -/
theorem database?_eq_some {database : Database} (h : c.database? d = some database) :
    ∃ record, (c.knownEntities d record).found = [] ∧ (c.knownGetters d).found = [] ∧
      database.declaration = d.qualifiedName ∧
      database.entities =
        distinctBy Entity.declaration ((c.knownEntities d record).value?.getD []) ∧
      database.getters = (c.knownGetters d).value?.getD [] := by
  obtain ⟨record, hvalue, hfound⟩ := assembled_of_database? h
  simp only [Catalog.assembleDatabase, List.append_eq_nil_iff] at hfound
  cases hvalue
  exact ⟨record, hfound.1.1.1.1, hfound.1.1.2, rfl, rfl, rfl⟩

end Declarations

/-! ## what a database takes from the catalog -/

section Databases

variable {c : Catalog} {d : Declaration}

/-- An entity that something depends on is that of the declaration which its type names. -/
theorem resolved_of_dependentEntity {owner : String} {t : TypeExpr} {e : Entity}
    (h : (c.dependentEntity (.known c.entityOf) owner t).run.run.value? = some e) :
    ∃ d, c.resolve? t = some d ∧ Mark.has EntityMark d.annotations = true ∧ c.entityOf d = .ok e := by
  unfold Catalog.dependentEntity at h
  rw [CheckedT.run_bind_id, Checked.value?_bind, Option.bind_eq_some_iff] at h
  obtain ⟨d, hd, hvalue⟩ := h
  rw [value?_lift, Checked.value?_ofOption] at hd
  split at hvalue
  · next hmark =>
    rw [Resolver.known_apply, value?_ofAnswer] at hvalue
    exact ⟨d, hd, hmark, eq_ok_of_toOption hvalue⟩
  · contradiction

/-- It is a marked declaration that resolves. -/
theorem value?_dependentEntity {owner : String} {t : TypeExpr} {e : Entity}
    (h : (c.dependentEntity (.known c.entityOf) owner t).run.run.value? = some e) :
    ∃ d ∈ c.declarations, Mark.has EntityMark d.annotations = true ∧ c.entityOf d = .ok e := by
  obtain ⟨d, hd, hresolved⟩ := resolved_of_dependentEntity h
  exact ⟨d, Catalog.mem_of_resolve? hd, hresolved⟩

/-- A getter gives out a DAO that resolves. -/
theorem getter?_eq_some {f : Function} {getter : DaoGetter} (h : c.getter? f = some getter) :
    ∃ d ∈ c.declarations, c.daoFindings d = .ok getter.dao := by
  unfold Catalog.getter? at h
  split at h
  · obtain ⟨d, htarget, hmap⟩ := Option.bind_eq_some_iff.mp h
    obtain ⟨dao, hdao, rfl⟩ := Option.map_eq_some_iff.mp hmap
    exact ⟨d, mem_of_getterTarget? htarget, eq_ok_of_toOption hdao⟩
  · contradiction

theorem mem_entities_of_database? {database : Database} (h : c.database? d = some database)
    {e : Entity} (he : e ∈ database.entities) :
    ∃ d ∈ c.declarations, Mark.has EntityMark d.annotations = true ∧ c.entityOf d = .ok e := by
  obtain ⟨record, -, -, -, hentities, -⟩ := database?_eq_some h
  rw [hentities] at he
  have hlisted := mem_of_mem_distinctBy he
  have hvalues : (c.knownEntities d record).value?.getD [] = (record.entities.map fun t =>
      (c.dependentEntity (.known c.entityOf) d.qualifiedName t).run.run).filterMap
        Checked.value? := by
    have hall : (c.knownEntities d record).value? = some (List.filterMap Checked.value?
        ((record.entities.map (c.dependentEntity (.known c.entityOf) d.qualifiedName)).mapM
          CheckedT.run).run) := rfl
    rw [hall, Option.getD_some, List.idRun_mapM, List.map_map]
    rfl
  rw [hvalues, List.mem_filterMap] at hlisted
  obtain ⟨check, hcheck, hvalue⟩ := hlisted
  obtain ⟨t, -, rfl⟩ := List.mem_map.mp hcheck
  exact value?_dependentEntity hvalue

theorem mem_getters_of_database? {database : Database} (h : c.database? d = some database)
    {getter : DaoGetter} (hg : getter ∈ database.getters) :
    ∃ d ∈ c.declarations, c.daoFindings d = .ok getter.dao := by
  obtain ⟨record, -, -, -, -, hgetters⟩ := database?_eq_some h
  rw [hgetters] at hg
  obtain ⟨check, hcheck, hvalue⟩ := List.mem_filterMap.mp hg
  obtain ⟨f, -, rfl⟩ := List.mem_map.mp hcheck
  rw [Checked.value?_ofOption] at hvalue
  exact getter?_eq_some hvalue

end Databases

/-! ## members of the schema -/

section Members

variable {c : Catalog}

theorem mem_schema_entities {e : Entity} :
    e ∈ c.schema.entities ↔
      ∃ d ∈ c.declarations, Mark.has EntityMark d.annotations = true ∧ c.entityOf d = .ok e := by
  rw [schema_entities, List.mem_filterMap]
  constructor
  · rintro ⟨d, hd, hanswer⟩
    obtain ⟨hmem, hmark⟩ := Catalog.mem_annotatedWith.mp hd
    exact ⟨d, hmem, hmark, eq_ok_of_toOption hanswer⟩
  · rintro ⟨d, hmem, hmark, hanswer⟩
    exact ⟨d, Catalog.mem_annotatedWith.mpr ⟨hmem, hmark⟩, by rw [hanswer]; rfl⟩

theorem mem_schema_databases {database : Database} (h : database ∈ c.schema.databases) :
    ∃ d ∈ c.declarations, c.database? d = some database := by
  rw [schema_databases] at h
  obtain ⟨d, hd, hanswer⟩ := List.mem_filterMap.mp h
  exact ⟨d, (Catalog.mem_annotatedWith.mp hd).1, hanswer⟩

/-- A database lists entities of the schema. -/
theorem entities_subset_schema {database : Database} (h : database ∈ c.schema.databases) :
    database.entities ⊆ c.schema.entities := by
  intro e he
  obtain ⟨d, -, hd⟩ := mem_schema_databases h
  exact mem_schema_entities.mpr (mem_entities_of_database? hd he)

/-- What resolves from distinct declarations has distinct names. -/
theorem nodup_filterMap_declaration {α : Type} {name : String} {f : Declaration → Option α}
    {declaration : α → String}
    (h : ∀ d a, f d = some a → declaration a = d.qualifiedName) :
    (((c.annotatedWith name).filterMap f).map declaration).Nodup := by
  have hnames : ((c.annotatedWith name).map Declaration.qualifiedName).Nodup :=
    c.nodup.sublist (List.filter_sublist.map _)
  rw [List.Nodup, List.pairwise_map] at hnames
  rw [List.Nodup, List.pairwise_map, List.pairwise_filterMap]
  refine hnames.imp fun {d d'} hne a ha a' ha' heq => ?_
  rw [h d a ha, h d' a' ha'] at heq
  exact hne heq

theorem nodup_schema_entities : (c.schema.entities.map Entity.declaration).Nodup := by
  rw [schema_entities]
  exact nodup_filterMap_declaration fun d e h => declaration_of_entityOf (eq_ok_of_toOption h)

theorem nodup_schema_databases : (c.schema.databases.map Database.declaration).Nodup := by
  rw [schema_databases]
  refine nodup_filterMap_declaration fun d database h => ?_
  obtain ⟨_, -, -, hname, -, -⟩ := database?_eq_some h
  exact hname

end Members

end DaoForge
