import DaoForge.Proofs.Wiring

/-!
# DaoForge.Proofs.Fields

Names of the fields that the implementation of a database has.

1. `Database.fieldNames`: the names that the fields get, by what they hold: adapters, mappers, queries
   holders and DAOs. A unit that is composed has fields of these names (`DatabaseUnit.fields_of`);
2. names of different kinds of fields end differently, up to those of DAOs, which are those of functions
   (`nodup_fieldNames_iff`);
3. `compile_fields_distinct_iff`: when the names of the fields are distinct. Nothing looks at them before
   they are written.
-/

namespace DaoForge

/-! ## names -/

/-- The name of the field that holds an entity's mapper. -/
def Entity.mapperFieldName (e : Entity) : String := snakeCase e.simpleName ++ "_mapper"

/-- The name of the field that holds a DAO's queries. -/
def Dao.queriesFieldName (d : Dao) : String := snakeCase d.simpleName ++ "_queries"

/-- The names of the fields that hold what a database creates. -/
def Database.fieldNames (d : Database) : List String :=
  d.adapters.map AdapterKey.fieldName ++ d.entities.map Entity.mapperFieldName ++
    d.daos.map Dao.queriesFieldName ++ d.getters.map DaoGetter.function

/-- The fields of the implementation, in order. -/
def DatabaseUnit.structFields (u : DatabaseUnit) : List Ident :=
  ⟨"driver", false⟩ :: ⟨"schema", false⟩ :: u.fieldNames

/-- The identifier is that of the name. -/
def Spells (name : String) (i : Ident) : Prop := Ident.of name = .ok i

section Idents

variable {names : List String} {idents : List Ident}

theorem names_of_spells (h : List.Forall₂ Spells names idents) : idents.map Ident.name = names := by
  have hsame := map_eq_of_forall₂ (f := id) (h.imp fun _ _ hi => (Ident.name_of hi).symm)
  rw [List.map_id] at hsame
  exact hsame.symm

/-- Names and their identifiers repeat together. -/
theorem nodup_idents_iff (h : List.Forall₂ Spells names idents) : idents.Nodup ↔ names.Nodup := by
  rw [← names_of_spells h]
  constructor
  · intro hnodup
    refine (List.nodup_map_iff_inj_on hnodup).mpr fun i hi j hj hij => ?_
    obtain ⟨name, -, hname⟩ := exists_of_forall₂ h hi
    obtain ⟨name', -, hname'⟩ := exists_of_forall₂ h hj
    rw [Ident.name_of hname, Ident.name_of hname'] at hij
    rw [hij] at hname
    exact Except.ok.inj (hname.symm.trans hname')
  · exact List.Nodup.of_map _

end Idents

section Units

variable {n : Naming}

/-- Fields are made of items each by its name. -/
theorem spells_of_forall₂ {α β : Type} {R : α → β → Prop} {xs : List α} {ys : List β}
    (h : List.Forall₂ R xs ys) {name : α → String} {field : β → Ident}
    (hspells : ∀ x y, R x y → Spells (name x) (field y)) :
    List.Forall₂ Spells (xs.map name) (ys.map field) := by
  rw [List.forall₂_map_left_iff, List.forall₂_map_right_iff]
  exact h.imp hspells

theorem MapperWiring.field_of {w : MapperWiring} {created : Creation} (h : w.create n = .ok created) :
    Spells w.entity.mapperFieldName created.field := by
  obtain ⟨unit, -, h⟩ := bind_eq_ok h
  obtain ⟨field, hfield, h⟩ := bind_eq_ok h
  obtain ⟨adapters, -, h⟩ := bind_eq_ok h
  cases h
  exact hfield

theorem QueriesWiring.field_of {w : QueriesWiring} {mappers : List MapperWiring} {created : Creation}
    (h : w.create n mappers = .ok created) : Spells w.dao.queriesFieldName created.field := by
  obtain ⟨unit, -, h⟩ := bind_eq_ok h
  obtain ⟨field, hfield, h⟩ := bind_eq_ok h
  obtain ⟨adapters, -, h⟩ := bind_eq_ok h
  obtain ⟨passed, -, h⟩ := bind_eq_ok h
  cases h
  exact hfield

theorem DaoGetter.function_of {g : DaoGetter} {u : GetterUnit} (h : g.unit n = .ok u) :
    Spells g.function u.function := by
  obtain ⟨function, hfunction, h⟩ := bind_eq_ok h
  obtain ⟨implementation, -, h⟩ := bind_eq_ok h
  obtain ⟨holder, -, h⟩ := bind_eq_ok h
  obtain ⟨daoTrait, -, h⟩ := bind_eq_ok h
  cases h
  exact hfunction

/-- The fields of a database unit have the names of what they hold, in order. -/
theorem DatabaseUnit.fieldNames_of {d : Database} {mappers : List MapperWiring}
    {queries : List QueriesWiring} {u : DatabaseUnit}
    (h : DatabaseUnit.of n d mappers queries = .ok u) :
    List.Forall₂ Spells ((wiredAdapters mappers queries).map AdapterKey.fieldName ++
      mappers.map (fun w => w.entity.mapperFieldName) ++
      queries.map (fun w => w.dao.queriesFieldName) ++ d.getters.map DaoGetter.function)
      u.fieldNames := by
  obtain ⟨name, -, h⟩ := bind_eq_ok h
  obtain ⟨schema, -, h⟩ := bind_eq_ok h
  obtain ⟨databaseTrait, -, h⟩ := bind_eq_ok h
  obtain ⟨adapters, hadapters, h⟩ := bind_eq_ok h
  obtain ⟨ofMappers, hmappers, h⟩ := bind_eq_ok h
  obtain ⟨ofQueries, hqueries, h⟩ := bind_eq_ok h
  obtain ⟨getters, hgetters, h⟩ := bind_eq_ok h
  cases h
  have hfirst : List.Forall₂ Spells ((wiredAdapters mappers queries).map AdapterKey.fieldName)
      (adapters.map fun a => a.1.name) := by
    refine spells_of_forall₂ (forall₂_of_mapM hadapters) fun key a ha => ?_
    obtain ⟨field, hfield, ha⟩ := bind_eq_ok ha
    obtain ⟨_, -, ha⟩ := bind_eq_ok ha
    cases ha
    exact (AdapterField.key_of (composing_eq_ok hfield)).2
  have hsecond := spells_of_forall₂ (forall₂_of_mapM (composing_eq_ok hmappers))
    fun _ _ => MapperWiring.field_of
  have hthird := spells_of_forall₂ (forall₂_of_mapM (composing_eq_ok hqueries))
    fun _ _ => QueriesWiring.field_of
  have hfourth := spells_of_forall₂ (forall₂_of_mapM (composing_eq_ok hgetters))
    fun _ _ => DaoGetter.function_of
  exact List.rel_append (List.rel_append (List.rel_append hfirst hsecond) hthird) hfourth

/-- The struct has a field of each of the names. -/
theorem DatabaseUnit.fields_typed (n : Naming) (u : DatabaseUnit) :
    List.Forall₂ (fun name field => ∃ type, field = Code.typed name type) u.fieldNames
      (u.fields n) := by
  have hsame {α : Type} (xs : List α) {name : α → Ident} {type : α → Code} :
      List.Forall₂ (fun name field => ∃ type, field = Code.typed name type) (xs.map name)
        (xs.map fun x => Code.typed (name x) (type x)) := by
    rw [List.forall₂_map_left_iff, List.forall₂_map_right_iff, List.forall₂_same]
    exact fun x _ => ⟨type x, rfl⟩
  exact List.rel_append (List.rel_append (List.rel_append (hsame _) (hsame _)) (hsame _)) (hsame _)

end Units

/-! ## when names are distinct -/

/-- Texts that end differently are different. -/
theorem append_ne_append {s t : String} (hst : ¬ s.toList <:+ t.toList) (hts : ¬ t.toList <:+ s.toList)
    (x y : String) : x ++ s ≠ y ++ t := by
  intro h
  have hlists := congrArg String.toList h
  rw [String.toList_append, String.toList_append] at hlists
  have hs : s.toList <:+ y.toList ++ t.toList := ⟨_, hlists⟩
  have ht : t.toList <:+ y.toList ++ t.toList := ⟨_, rfl⟩
  rcases List.suffix_or_suffix_of_suffix hs ht with hsuffix | hsuffix
  · exact hst hsuffix
  · exact hts hsuffix

/-- The names of the fields of a database keep apart what they hold. -/
structure Database.FieldsApart (d : Database) : Prop where
  adapters : ∀ key ∈ d.adapters, ∀ key' ∈ d.adapters, key.fieldName = key'.fieldName → key = key'
  mappers : ∀ e ∈ d.entities, ∀ e' ∈ d.entities,
    snakeCase e.simpleName = snakeCase e'.simpleName → e = e'
  queries : ∀ dao ∈ d.daos, ∀ dao' ∈ d.daos,
    snakeCase dao.simpleName = snakeCase dao'.simpleName → dao = dao'
  getters : (d.getters.map DaoGetter.function).Nodup
  /-- No function has the name of another field. -/
  functions : ∀ g ∈ d.getters, g.function ∉ ["driver", "schema"] ++
    d.adapters.map AdapterKey.fieldName ++ d.entities.map Entity.mapperFieldName ++
    d.daos.map Dao.queriesFieldName

/-- The names end with the suffix. -/
def EndWith (suffix : String) (names : List String) : Prop := ∀ name ∈ names, ∃ start, name = start ++ suffix

theorem endWith_adapters (keys : List AdapterKey) :
    EndWith "_adapter" (keys.map AdapterKey.fieldName) :=
  List.forall_mem_map.mpr fun key _ =>
    ⟨snakeCase key.sourceType.source ++ "_" ++ snakeCase key.storageType.source, rfl⟩

theorem endWith_mappers (entities : List Entity) :
    EndWith "_mapper" (entities.map Entity.mapperFieldName) :=
  List.forall_mem_map.mpr fun e _ => ⟨snakeCase e.simpleName, rfl⟩

theorem endWith_queries (daos : List Dao) :
    EndWith "_queries" (daos.map Dao.queriesFieldName) :=
  List.forall_mem_map.mpr fun d _ => ⟨snakeCase d.simpleName, rfl⟩

theorem endWith_singleton (name : String) : EndWith name [name] :=
  List.forall_mem_singleton.mpr ⟨"", String.empty_append.symm⟩

theorem EndWith.disjoint {s t : String} {names names' : List String} (h : EndWith s names)
    (h' : EndWith t names') (hst : ¬ s.toList <:+ t.toList) (hts : ¬ t.toList <:+ s.toList) :
    names.Disjoint names' := by
  intro name hname hname'
  obtain ⟨x, rfl⟩ := h name hname
  obtain ⟨y, hy⟩ := h' _ hname'
  exact append_ne_append hst hts x y hy

/-- Names of several endings are distinct iff those of each ending are. -/
theorem nodup_fixed_iff {adapters mappers queries : List String}
    (hadapters : EndWith "_adapter" adapters) (hmappers : EndWith "_mapper" mappers)
    (hqueries : EndWith "_queries" queries) :
    (["driver", "schema"] ++ adapters ++ mappers ++ queries).Nodup ↔
      adapters.Nodup ∧ mappers.Nodup ∧ queries.Nodup := by
  have hdriver := endWith_singleton "driver"
  have hschema := endWith_singleton "schema"
  have hsplit : ["driver", "schema"] = ["driver"] ++ ["schema"] := rfl
  have hfixed : ["driver", "schema"].Nodup := by decide
  have hfirst : (["driver", "schema"]).Disjoint adapters := by
    rw [hsplit, List.disjoint_append_left]
    exact ⟨hdriver.disjoint hadapters (by decide) (by decide),
      hschema.disjoint hadapters (by decide) (by decide)⟩
  have hsecond : (["driver", "schema"] ++ adapters).Disjoint mappers := by
    rw [hsplit, List.disjoint_append_left, List.disjoint_append_left]
    exact ⟨⟨hdriver.disjoint hmappers (by decide) (by decide),
      hschema.disjoint hmappers (by decide) (by decide)⟩,
      hadapters.disjoint hmappers (by decide) (by decide)⟩
  have hthird : (["driver", "schema"] ++ adapters ++ mappers).Disjoint queries := by
    rw [hsplit, List.disjoint_append_left, List.disjoint_append_left, List.disjoint_append_left]
    exact ⟨⟨⟨hdriver.disjoint hqueries (by decide) (by decide),
      hschema.disjoint hqueries (by decide) (by decide)⟩,
      hadapters.disjoint hqueries (by decide) (by decide)⟩,
      hmappers.disjoint hqueries (by decide) (by decide)⟩
  rw [List.nodup_append', List.nodup_append', List.nodup_append']
  simp only [hfixed, hfirst, hsecond, hthird, true_and, and_true, and_assoc]

theorem mapperFieldName_inj {e e' : Entity} :
    e.mapperFieldName = e'.mapperFieldName ↔ snakeCase e.simpleName = snakeCase e'.simpleName := by
  rw [Entity.mapperFieldName, Entity.mapperFieldName, String.append_left_inj]

theorem queriesFieldName_inj {d d' : Dao} :
    d.queriesFieldName = d'.queriesFieldName ↔ snakeCase d.simpleName = snakeCase d'.simpleName := by
  rw [Dao.queriesFieldName, Dao.queriesFieldName, String.append_left_inj]

namespace Database

variable {d : Database}

/-- When the names of all fields are distinct, of what a database holds that is itself distinct. -/
theorem nodup_fieldNames_iff (hadapters : d.adapters.Nodup)
    (hentities : (d.entities.map Entity.declaration).Nodup) :
    ("driver" :: "schema" :: d.fieldNames).Nodup ↔ d.FieldsApart := by
  have hsplit : "driver" :: "schema" :: d.fieldNames =
      ["driver", "schema"] ++ d.adapters.map AdapterKey.fieldName ++
        d.entities.map Entity.mapperFieldName ++ d.daos.map Dao.queriesFieldName ++
        d.getters.map DaoGetter.function := by
    simp [fieldNames]
  have hdaos : d.daos.Nodup := (nodup_distinctBy _ _).of_map _
  have hfixed := nodup_fixed_iff (endWith_adapters d.adapters) (endWith_mappers d.entities)
    (endWith_queries d.daos)
  rw [hsplit, List.nodup_append', hfixed, List.nodup_map_iff_inj_on hadapters,
    List.nodup_map_iff_inj_on (hentities.of_map _), List.nodup_map_iff_inj_on hdaos]
  simp only [mapperFieldName_inj, queriesFieldName_inj]
  constructor
  · rintro ⟨⟨hkeys, hmappers, hqueries⟩, hgetters, hapart⟩
    exact ⟨hkeys, hmappers, hqueries, hgetters, fun g hg hmem => hapart hmem (List.mem_map_of_mem hg)⟩
  · rintro ⟨hkeys, hmappers, hqueries, hgetters, hfunctions⟩
    refine ⟨⟨hkeys, hmappers, hqueries⟩, hgetters, fun name hname hfunction => ?_⟩
    obtain ⟨g, hg, rfl⟩ := List.mem_map.mp hfunction
    exact hfunctions g hg hname

end Database

/-! ## runs -/

/-- The fields of an implementation: those of its database, after the driver and the schema. -/
structure DatabaseUnit.FieldsOf (u : DatabaseUnit) (n : Naming) (d : Database) : Prop where
  names : u.structFields.map Ident.name = "driver" :: "schema" :: d.fieldNames
  typed : List.Forall₂ (fun name field => ∃ type, field = Code.typed name type) u.fieldNames
    (u.fields n)
  nodup_iff : u.structFields.Nodup ↔ d.FieldsApart

section Runs

variable {c : Catalog} {n : Naming} {d : Database}

theorem DatabaseUnit.fields_of {u : DatabaseUnit} (hd : d ∈ c.schema.databases)
    (h : DatabaseUnit.of n d (d.entities.map Entity.wiring) (d.daos.map Dao.wiring) = .ok u) :
    u.FieldsOf n d := by
  obtain ⟨_, -, hdatabase⟩ := mem_schema_databases hd
  have hwired := wiredAdapters_eq hd
  have hadapters : d.adapters.Nodup := hwired ▸ nodup_distinct _
  have hspelled := DatabaseUnit.fieldNames_of h
  rw [hwired, List.map_map, List.map_map] at hspelled
  have hall : List.Forall₂ Spells ("driver" :: "schema" :: d.fieldNames) u.structFields :=
    .cons rfl (.cons rfl hspelled)
  refine ⟨names_of_spells hall, u.fields_typed n, ?_⟩
  rw [nodup_idents_iff hall]
  exact Database.nodup_fieldNames_iff hadapters (complete_of_database? hdatabase).nodup

/-- **When the fields of an implementation are distinct**: those of every implementation that is
emitted are, iff distinct adapters of its database give distinct names, and so do its entities, and its
DAOs, and no function that gives out a DAO has the name of another one or of a field. A run without
problems does not make sure of it. -/
theorem compile_fields_distinct_iff {o : Options} {r : Compilation} (h : c.compile o = .ok r)
    {u : DatabaseUnit} (hu : .database u ∈ r.contents) :
    ∃ n, Naming.ofOptions o = .ok n ∧ ∃ d ∈ c.schema.databases, d.declaration = u.declaration ∧
      u.FieldsOf n d := by
  obtain ⟨n, hn, rfl, -⟩ := compile_eq_ok h
  obtain ⟨p, hp, hcontents⟩ := wired_compileWith c n
  rw [hcontents] at hu
  cases hp.units _ hu with
  | @database _ d hd hof =>
      obtain ⟨hname, -⟩ := DatabaseUnit.parts_of hof
      exact ⟨n, hn, d, hd, hname.symm, DatabaseUnit.fields_of hd hof⟩

end Runs

/-- A note with columns of two types that are spelled alike in snake case, and a converter of each. -/
def badgeCatalog : Catalog where
  declarations :=
    [{ qualifiedName := "app::UserIdConverter"
       supertypes :=
        [{ name := "ColumnAdapter", arguments := [.ofName "user::Id", .ofName "String"] }] },
      { qualifiedName := "app::BadgeConverter"
        supertypes :=
          [{ name := "ColumnAdapter", arguments := [.ofName "UserId", .ofName "String"] }] },
      { qualifiedName := "app::Note"
        annotations := [{ name := "Entity" }]
        properties :=
          [{ name := "id", type := .ofName "i64", annotations := [{ name := "PrimaryKey" }] },
            { name := "author"
              type := .ofName "user::Id"
              annotations :=
                [{ name := "ColumnInfo", arguments := [("typeAffinity", .constant "TEXT")] }] },
            { name := "badge"
              type := .ofName "UserId"
              annotations :=
                [{ name := "ColumnInfo", arguments := [("typeAffinity", .constant "TEXT")] }] }] },
      { qualifiedName := "app::Db"
        kind := .trait
        annotations :=
          [{ name := "Database"
             arguments :=
              [("entities", .array [.type (.ofName "app::Note")]), ("version", .integer 1)] },
            { name := "TypeConverters"
              arguments :=
                [("value", .array [.type (.ofName "app::UserIdConverter"),
                  .type (.ofName "app::BadgeConverter")])] }] }]
  nodup := by decide

/-- The run finds no problem, and two fields of the implementation have one name: the adapters of the
database are not kept apart. -/
theorem compile_fields_repeat_badge :
    ∃ r u d, badgeCatalog.compile {} = .ok r ∧ r.report.diagnostics = [] ∧
      .database u ∈ r.contents ∧ u.structFields.map Ident.text = ["driver", "schema",
        "user_id_string_adapter", "user_id_string_adapter", "note_mapper"] ∧
      d ∈ badgeCatalog.schema.databases ∧ d.declaration = u.declaration ∧ ¬ d.FieldsApart := by
  have hrun : (badgeCatalog.compile {}).toOption.map (fun r => (r.report.diagnostics,
      r.contents.any fun u =>
        match u with
        | .database u => u.structFields == [⟨"driver", false⟩, ⟨"schema", false⟩,
          ⟨"user_id_string_adapter", false⟩, ⟨"user_id_string_adapter", false⟩,
          ⟨"note_mapper", false⟩]
        | _ => false)) = some ([], true) := by
    decide +kernel
  obtain ⟨r, hr, hparts⟩ := Option.map_eq_some_iff.mp hrun
  obtain ⟨hclean, hemitted⟩ := Prod.mk.inj hparts
  have hcompile := eq_ok_of_toOption hr
  obtain ⟨content, hmem, hcontent⟩ := List.any_eq_true.mp hemitted
  split at hcontent
  · next u =>
    have hfields := beq_iff_eq.mp hcontent
    obtain ⟨n, -, d, hd, hname, hof⟩ := compile_fields_distinct_iff hcompile hmem
    refine ⟨r, u, d, hcompile, hclean, hmem, by rw [hfields]; rfl, hd, hname, fun hapart => ?_⟩
    have hnodup := hof.nodup_iff.mpr hapart
    rw [hfields] at hnodup
    exact absurd hnodup (by decide)
  · exact absurd hcontent Bool.false_ne_true

end DaoForge
