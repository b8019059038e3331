import DaoForge.Proofs.Resolve.Converters
import DaoForge.Proofs.Resolve.Row

/-!
# DaoForge.Proofs.Resolve.Complete

A database has everything that it refers to.

1. `Operation.Touches`: the entities that an operation writes or reads, `touches_iff`;
2. `Database.Complete`: the entities that the DAOs touch and that foreign keys refer to are listed, and
   every adapter can be created; `complete_of_database?`;
3. `Call.database_complete`: so it is of every database that a run replies with.
-/

namespace DaoForge

/-! ## what an operation touches -/

/-- The operation writes the entity, or reads rows from its table. -/
inductive Operation.Touches (o : Operation) : Entity → Prop
  | target {e : Entity} (h : o.kind.target? = some e) : Touches o e
  | row {e : Entity} (h : o.rowType? = some (.entity e)) : Touches o e
  | main {compound : Compound} (h : o.rowType? = some (.compound compound)) :
      Touches o compound.main
  | relation {compound : Compound} {r : Relation} (h : o.rowType? = some (.compound compound))
      (hr : r ∈ compound.relations) : Touches o r.entity
  | junction {compound : Compound} {r : Relation} {j : Junction}
      (h : o.rowType? = some (.compound compound)) (hr : r ∈ compound.relations)
      (hj : r.junction = some j) : Touches o j.entity

theorem Relation.mem_entities {r : Relation} {e : Entity} :
    e ∈ r.entities ↔ e = r.entity ∨ ∃ j, r.junction = some j ∧ e = j.entity := by
  unfold Relation.entities
  cases r.junction <;> simp

theorem touches_iff {o : Operation} {e : Entity} : o.Touches e ↔ e ∈ o.entities := by
  unfold Operation.entities
  constructor
  · intro h
    cases h with
    | target h => simp [h]
    | row h => simp [h, RowType.entities]
    | main h => simp [h, RowType.entities, Compound.entities]
    | relation h hr =>
        simp only [h, Option.map_some, Option.getD_some, RowType.entities, Compound.entities]
        refine List.mem_append_right _ (List.mem_cons_of_mem _ (List.mem_flatMap.mpr ⟨_, hr, ?_⟩))
        exact Relation.mem_entities.mpr (.inl rfl)
    | junction h hr hj =>
        simp only [h, Option.map_some, Option.getD_some, RowType.entities, Compound.entities]
        refine List.mem_append_right _ (List.mem_cons_of_mem _ (List.mem_flatMap.mpr ⟨_, hr, ?_⟩))
        exact Relation.mem_entities.mpr (.inr ⟨_, hj, rfl⟩)
  · intro h
    rcases List.mem_append.mp h with h | h
    · exact .target (Option.mem_toList.mp h)
    cases hrow : o.rowType? with
    | none =>
        rw [hrow] at h
        contradiction
    | some row =>
        rw [hrow] at h
        cases row with
        | entity found =>
            obtain rfl := List.mem_singleton.mp h
            exact .row hrow
        | scalar t mapping => contradiction
        | compound compound =>
            rcases List.mem_cons.mp h with rfl | h
            · exact .main hrow
            obtain ⟨r, hr, h⟩ := List.mem_flatMap.mp h
            rcases Relation.mem_entities.mp h with rfl | ⟨j, hj, rfl⟩
            · exact .relation hrow hr
            · exact .junction hrow hr hj

/-! ## databases -/

/-- Nothing that the database refers to is missing. -/
structure Database.Complete (database : Database) : Prop where
  nodup : (database.entities.map Entity.declaration).Nodup
  /-- An entity inside a DAO is the one that is listed. -/
  touched : ∀ g ∈ database.getters, ∀ o ∈ g.dao.operations, ∀ e, o.Touches e →
    e ∈ database.entities
  foreignKeys : ∀ e ∈ database.entities, ∀ key ∈ e.foreignKeys,
    ∃ target ∈ database.entities, target.declaration = key.entity
  adapters : ∀ key ∈ database.adapters, key.builtin?.isSome = true ∨
    ∃ entry, database.converterFor? key = some entry ∧ entry.reference = key

section Databases

variable {c : Catalog} {d : Declaration} {database : Database}

/-- Every entity that a database needs is listed, by its name. -/
theorem required_of_database? (h : c.database? d = some database) :
    requiredEntities database.entities database.getters ⊆
      database.entities.map Entity.declaration := by
  obtain ⟨record, hvalue, hfound⟩ := assembled_of_database? h
  simp only [Catalog.assembleDatabase, List.append_eq_nil_iff] at hfound
  cases hvalue
  intro name hname
  have hunlisted := List.map_eq_nil_iff.mp hfound.1.2
  simpa using List.filter_eq_nil_iff.mp hunlisted name hname

/-- The entities of the schema are told apart by their names. -/
theorem eq_of_declaration_eq {e e' : Entity} (he : e ∈ c.schema.entities)
    (he' : e' ∈ c.schema.entities) (h : e.declaration = e'.declaration) : e = e' :=
  List.inj_on_of_nodup_map nodup_schema_entities he he' h

theorem database?_entities_subset_schema (h : c.database? d = some database) :
    database.entities ⊆ c.schema.entities :=
  fun _ he => mem_schema_entities.mpr (mem_entities_of_database? h he)

/-- What a DAO of a database touches is listed. -/
theorem touched_of_database? (h : c.database? d = some database) {g : DaoGetter}
    (hg : g ∈ database.getters) {o : Operation} (ho : o ∈ g.dao.operations) {e : Entity}
    (he : o.Touches e) : e ∈ database.entities := by
  obtain ⟨daoDeclaration, -, hdao⟩ := mem_getters_of_database? h hg
  have hneeded : e.declaration ∈ g.dao.entities.map Entity.declaration :=
    mem_map_distinctBy.mpr
      (List.mem_map_of_mem (List.mem_flatMap.mpr ⟨o, ho, touches_iff.mp he⟩))
  have hrequired : e.declaration ∈ requiredEntities database.entities database.getters := by
    refine mem_distinct.mpr (List.mem_append_right _ ?_)
    exact List.mem_flatMap.mpr ⟨g, hg, hneeded⟩
  obtain ⟨found, hfound, hname⟩ := List.mem_map.mp (required_of_database? h hrequired)
  have hschema := entities_subset_schema_of_dao hdao ho (touches_iff.mp he)
  rw [← eq_of_declaration_eq (database?_entities_subset_schema h hfound) hschema hname]
  exact hfound

theorem foreignKeys_of_database? (h : c.database? d = some database) {e : Entity}
    (he : e ∈ database.entities) {key : ForeignKey} (hkey : key ∈ e.foreignKeys) :
    ∃ target ∈ database.entities, target.declaration = key.entity := by
  have hrequired : key.entity ∈ requiredEntities database.entities database.getters := by
    refine mem_distinct.mpr (List.mem_append_left _ ?_)
    exact List.mem_flatMap.mpr ⟨e, he, List.mem_map_of_mem hkey⟩
  exact List.mem_map.mp (required_of_database? h hrequired)

/-- An adapter that an entry is of is found by it. -/
theorem converterFor?_of_mem {entry : Converter} (h : entry ∈ database.converters) :
    ∃ found, database.converterFor? entry.reference = some found ∧
      found.reference = entry.reference := by
  have hsome : (database.converterFor? entry.reference).isSome = true :=
    List.find?_isSome.mpr ⟨entry, h, by simp⟩
  obtain ⟨found, hfound⟩ := Option.isSome_iff_exists.mp hsome
  exact ⟨found, hfound, by simpa using List.find?_some hfound⟩

theorem complete_of_database? (h : c.database? d = some database) : database.Complete where
  nodup := by
    obtain ⟨_, -, -, -, hentities, -⟩ := database?_eq_some h
    rw [hentities]
    exact nodup_distinctBy Entity.declaration _
  touched _ hg _ ho _ he := touched_of_database? h hg ho he
  foreignKeys _ he _ hkey := foreignKeys_of_database? h he hkey
  adapters key hkey := by
    refine ((provision_of_database? h).complete rfl key hkey).imp_right ?_
    rintro ⟨entry, hentry, rfl⟩
    exact converterFor?_of_mem hentry

end Databases

/-! ## runs -/

namespace Call

/-- **Every database is complete** that a run replies with, whatever the run was asked before. -/
theorem database_complete {c : Catalog} {calls : List Call} {database : Database}
    (h : .database (.ok database) ∈ ((calls.mapM (Call.answer c)).run {}).run.1) :
    database.Complete := by
  obtain ⟨d, -, hdatabase⟩ := database?_of_reply h
  exact complete_of_database? hdatabase

/-- Students with their courses, which are loaded through a junction. The code of a course is
converted, and whether a student is active is stored by a built-in adapter. -/
def schoolCatalog : Catalog where
  declarations :=
    [{ qualifiedName := "app::UuidConverter"
       supertypes := [{ name := "ColumnAdapter", arguments := [.ofName "Uuid", .ofName "String"] }] },
      { qualifiedName := "app::Student"
        annotations := [{ name := "Entity" }]
        properties :=
          [{ name := "id", type := .ofName "i64", annotations := [{ name := "PrimaryKey" }] },
            { name := "active", type := .ofName "bool" }] },
      { qualifiedName := "app::Course"
        annotations := [{ name := "Entity" }]
        properties :=
          [{ name := "id", type := .ofName "i64", annotations := [{ name := "PrimaryKey" }] },
            { name := "code"
              type := .ofName "Uuid"
              annotations :=
                [{ name := "ColumnInfo", arguments := [("typeAffinity", .constant "TEXT")] }] }] },
      { qualifiedName := "app::Enrollment"
        annotations :=
          [{ name := "Entity"
             arguments :=
              [("primaryKeys", .array [.text "student", .text "course"]),
                ("foreignKeys", .array
                  [.nested "ForeignKey" [("entity", .type (.ofName "app::Student")),
                      ("parentColumns", .text "id"), ("childColumns", .text "student")],
                    .nested "ForeignKey" [("entity", .type (.ofName "app::Course")),
                      ("parentColumns", .text "id"), ("childColumns", .text "course")]])] }]
        properties :=
          [{ name := "student", type := .ofName "i64" }, { name := "course", type := .ofName "i64" }] },
      { qualifiedName := "app::Curriculum"
        properties :=
          [{ name := "student"
             type := .ofName "app::Student"
             annotations := [{ name := "Embedded" }] },
            { name := "courses"
              type := { name := "Vec", arguments := [.ofName "app::Course"] }
              annotations :=
                [{ name := "Relation"
                   arguments :=
                    [("parentColumn", .text "id"), ("entityColumn", .text "id"),
                      ("associateBy", .nested "Junction"
                        [("value", .type (.ofName "app::Enrollment")),
                          ("parentColumn", .text "student"), ("entityColumn", .text "course")])] }] }] },
      { qualifiedName := "app::StudentDao"
        kind := .trait
        annotations := [{ name := "Dao" }]
        functions :=
          [{ name := "all"
             returnType := some { name := "Vec", arguments := [.ofName "app::Curriculum"] }
             annotations :=
              [{ name := "Query", arguments := [("value", .text "SELECT * FROM Student")] }] },
            { name := "add"
              parameters := [{ name := "student", type := .ofName "app::Student" }]
              annotations := [{ name := "Insert" }] }] },
      { qualifiedName := "app::School"
        kind := .trait
        annotations :=
          [{ name := "Database"
             arguments :=
              [("entities", .array [.type (.ofName "app::Student"), .type (.ofName "app::Course"),
                  .type (.ofName "app::Enrollment")]),
                ("version", .integer 1)] },
            { name := "TypeConverters"
              arguments := [("value", .array [.type (.ofName "app::UuidConverter")])] }]
        functions := [{ name := "students", returnType := some (.ofName "&dyn app::StudentDao") }] }]
  nodup := by decide

/-- The school resolves: the DAO touches all of its entities, and both adapters can be created. -/
theorem database_complete_school :
    ∃ database,
      .database (.ok database) ∈
        (([.database "app::School"].mapM (Call.answer schoolCatalog)).run {}).run.1 ∧
      database.getters.flatMap (fun g => g.dao.entities.map Entity.declaration) =
        ["app::Student", "app::Course", "app::Enrollment"] ∧
      database.adapters = [⟨.ofName "bool", .integer⟩, ⟨.ofName "Uuid", .text⟩] ∧
      database.Complete := by
  have hrun : ((schoolCatalog.database "app::School").run {}).run.1.toOption.map (fun database =>
        (database.getters.flatMap (fun g => g.dao.entities.map Entity.declaration),
          database.adapters)) =
      some (["app::Student", "app::Course", "app::Enrollment"],
        [⟨.ofName "bool", .integer⟩, ⟨.ofName "Uuid", .text⟩]) := by
    decide +kernel
  obtain ⟨database, hdatabase, hparts⟩ := Option.map_eq_some_iff.mp hrun
  obtain ⟨htouched, hadapters⟩ := Prod.mk.inj hparts
  have hreply : Reply.database (.ok database) ∈
      (([Call.database "app::School"].mapM (Call.answer schoolCatalog)).run {}).run.1 := by
    rw [replies_singleton, eq_ok_of_toOption hdatabase]
    exact List.mem_singleton_self _
  exact ⟨database, hreply, htouched, hadapters, database_complete hreply⟩

end Call

end DaoForge
