import DaoForge.Proofs.Closed
import DaoForge.Proofs.Resolve.Complete
import DaoForge.Proofs.Unit.Database

/-!
# DaoForge.Proofs.Wiring

Which adapters the implementation of a database creates.

1. `UnitContent.From`: what an emitted unit is composed from; of a database, its own entities and DAOs,
   all of which have emitted units. Each step of a run keeps it (`Wired.ensureEntity`,
   `Wired.ensureDao`, `Wired.ensureDatabase`), hence `wired_compileWith`;
2. `wiredAdapters_eq`: the adapters that the mappers and queries of a database take are those that it
   was resolved with, in the same order. Queries take those of the entities they write as well, but
   the mappers of these take them before;
3. `compile_wires`: every database that is emitted creates these adapters and no others.
-/

namespace DaoForge

/-! ## what a database is wired from -/

/-- What the mapper of an entity is constructed with. -/
def Entity.wiring (e : Entity) : MapperWiring := ⟨e, e.adapters⟩

/-- What the queries of a DAO are constructed with. -/
def Dao.wiring (d : Dao) : QueriesWiring := ⟨d, d.statementAdapters, d.mappedEntities⟩

/-- The DAOs that a database gives out, each once. -/
def Database.daos (d : Database) : List Dao :=
  distinctBy Dao.declaration (d.getters.map DaoGetter.dao)

section Daos

variable {c : Catalog} {d : Database} (hd : d ∈ c.schema.databases) {dao dao' : Dao}

include hd in
theorem holds_of_mem_getters (hdao : dao ∈ d.getters.map DaoGetter.dao) :
    c.schema.Holds (.dao dao) := by
  obtain ⟨g, hg, rfl⟩ := List.mem_map.mp hdao
  exact ⟨d, hd, g, hg, rfl⟩

include hd in
theorem holds_of_mem_daos (hdao : dao ∈ d.daos) : c.schema.Holds (.dao dao) :=
  holds_of_mem_getters hd (mem_of_mem_distinctBy hdao)

/-- The DAOs of a schema are told apart by their names. -/
theorem eq_of_holds_dao (h : c.schema.Holds (.dao dao)) (h' : c.schema.Holds (.dao dao'))
    (hname : dao.declaration = dao'.declaration) : dao = dao' :=
  Origin.dao.inj (eq_of_key_eq h h' (congrArg (Prod.mk _) hname))

end Daos

/-- The mapper of the entity is among the units. -/
def Entity.MappedIn (n : Naming) (units : List UnitContent) (e : Entity) : Prop :=
  ∃ mapper, MapperUnit.of n e = .ok mapper ∧ .mapper mapper ∈ units

/-- The queries of the DAO are among the units. -/
def Dao.QueriedIn (n : Naming) (units : List UnitContent) (d : Dao) : Prop :=
  ∃ queries, QueriesUnit.of n d = .ok queries ∧ .queries queries ∈ units

/-- What a unit is composed from. The implementation of a database takes what other units take. -/
inductive UnitContent.From (c : Catalog) (n : Naming) (units : List UnitContent) :
    UnitContent → Prop
  | table {u : TableUnit} {e : Entity} (he : e ∈ c.schema.entities)
      (h : TableUnit.of n e = .ok u) : From c n units (.table u)
  | mapper {u : MapperUnit} {e : Entity} (he : e ∈ c.schema.entities)
      (h : MapperUnit.of n e = .ok u) : From c n units (.mapper u)
  | queries {u : QueriesUnit} {d : Dao} (hd : c.schema.Holds (.dao d))
      (h : QueriesUnit.of n d = .ok u) : From c n units (.queries u)
  | dao {u : DaoUnit} {d : Dao} (hd : c.schema.Holds (.dao d))
      (h : DaoUnit.of n d = .ok u) : From c n units (.dao u)
  | schema {u : SchemaUnit} {d : Database} (hd : d ∈ c.schema.databases)
      (h : SchemaUnit.of n d = .ok u) : From c n units (.schema u)
  | database {u : DatabaseUnit} {d : Database} (hd : d ∈ c.schema.databases)
      (h : DatabaseUnit.of n d (d.entities.map Entity.wiring) (d.daos.map Dao.wiring) = .ok u)
      (mapped : ∀ e ∈ d.entities, e.MappedIn n units)
      (queried : ∀ dao ∈ d.daos, dao.QueriedIn n units) : From c n units (.database u)

theorem UnitContent.From.mono {c : Catalog} {n : Naming} {units units' : List UnitContent}
    {u : UnitContent} (h : u.From c n units) (hmore : units ⊆ units') : u.From c n units' := by
  cases h with
  | table he h => exact .table he h
  | mapper he h => exact .mapper he h
  | queries hd h => exact .queries hd h
  | dao hd h => exact .dao hd h
  | schema hd h => exact .schema hd h
  | database hd h mapped queried =>
      refine .database hd h (fun e he => ?_) fun dao hdao => ?_
      · exact (mapped e he).imp fun _ h => ⟨h.1, hmore h.2⟩
      · exact (queried dao hdao).imp fun _ h => ⟨h.1, hmore h.2⟩

namespace Progress

variable {c : Catalog} {n : Naming} {p p' : Progress}

theorem mem_of_noted? {α : Type} {entries : List (String × α)} {name : String} {a : α}
    (h : noted? entries name = some a) : (name, a) ∈ entries := by
  obtain ⟨entry, hentry, rfl⟩ := Option.map_eq_some_iff.mp h
  have hname : entry.1 = name := by simpa using List.find?_some hentry
  rw [← hname]
  exact List.mem_of_find?_eq_some hentry

/-! ## steps -/

/-- What was noted of entities and DAOs is right, and units come from what they should. -/
structure Wired (c : Catalog) (n : Naming) (p : Progress) : Prop where
  entities : ∀ name keys, (name, keys) ∈ p.entities → ∃ e ∈ c.schema.entities,
    e.declaration = name ∧ keys = e.adapters ∧ e.MappedIn n p.units
  daos : ∀ name queries, (name, queries) ∈ p.daos → ∃ d, c.schema.Holds (.dao d) ∧
    d.declaration = name ∧ QueriesUnit.of n d = .ok queries ∧ .queries queries ∈ p.units
  units : ∀ u ∈ p.units, u.From c n p.units

theorem wired_nil (c : Catalog) (n : Naming) : Wired c n {} where
  entities _ _ h := absurd h List.not_mem_nil
  daos _ _ h := absurd h List.not_mem_nil
  units _ h := absurd h List.not_mem_nil

/-- It does not matter what failed, or where the run would stop. -/
theorem Wired.fail (hp : Wired c n p) (failed : List String) (stop : Option (List UnitContent)) :
    Wired c n { p with failed, untilStop := stop } :=
  { hp with }

/-- Units of one kind of origin are added, and something is noted of it. -/
theorem Wired.grow (hp : Wired c n p) {new : List UnitContent} (hunits : p'.units = p.units ++ new)
    (hentities : ∀ name keys, (name, keys) ∈ p'.entities → (name, keys) ∈ p.entities ∨
      ∃ e ∈ c.schema.entities, e.declaration = name ∧ keys = e.adapters ∧ e.MappedIn n p'.units)
    (hdaos : ∀ name queries, (name, queries) ∈ p'.daos → (name, queries) ∈ p.daos ∨
      ∃ d, c.schema.Holds (.dao d) ∧ d.declaration = name ∧ QueriesUnit.of n d = .ok queries ∧
        .queries queries ∈ p'.units)
    (hnew : ∀ u ∈ new, u.From c n p'.units) : Wired c n p' := by
  have hmore : p.units ⊆ p'.units := hunits ▸ List.subset_append_left _ _
  constructor
  · intro name keys h
    obtain hbefore | hnow := hentities name keys h
    · obtain ⟨e, he, hname, hkeys, mapper, hmapper, hmem⟩ := hp.entities name keys hbefore
      exact ⟨e, he, hname, hkeys, mapper, hmapper, hmore hmem⟩
    · exact hnow
  · intro name queries h
    obtain hbefore | hnow := hdaos name queries h
    · obtain ⟨d, hd, hname, hqueries, hmem⟩ := hp.daos name queries hbefore
      exact ⟨d, hd, hname, hqueries, hmore hmem⟩
    · exact hnow
  · intro u hu
    rw [hunits] at hu
    rcases List.mem_append.mp hu with hbefore | hnow
    · exact (hp.units u hbefore).mono hmore
    · exact hnew u hnow

theorem Wired.addEntity (hp : Wired c n p) {e : Entity} (he : e ∈ c.schema.entities)
    {table : TableUnit} {mapper : MapperUnit} (htable : TableUnit.of n e = .ok table)
    (hmapper : MapperUnit.of n e = .ok mapper) : Wired c n (p.addEntity e table mapper) := by
  refine hp.grow rfl (fun name keys h => ?_) (fun _ _ => .inl) ?_
  · refine (List.mem_append.mp h).imp_right fun hnow => ?_
    obtain ⟨rfl, rfl⟩ := Prod.mk.inj (List.mem_singleton.mp hnow)
    obtain ⟨-, -, hkeys, -⟩ := MapperUnit.adapters_of hmapper
    exact ⟨e, he, rfl, hkeys, mapper, hmapper, by simp [Progress.addEntity]⟩
  · intro u hu
    simp only [List.mem_cons, List.not_mem_nil, or_false] at hu
    rcases hu with rfl | rfl
    · exact .table he htable
    · exact .mapper he hmapper

theorem Wired.addDao (hp : Wired c n p) {d : Dao} (hd : c.schema.Holds (.dao d))
    {queries : QueriesUnit} {dao : DaoUnit} (hqueries : QueriesUnit.of n d = .ok queries)
    (hdao : DaoUnit.of n d = .ok dao) : Wired c n (p.addDao d queries dao) := by
  refine hp.grow rfl (fun _ _ => .inl) (fun name found h => ?_) ?_
  · refine (List.mem_append.mp h).imp_right fun hnow => ?_
    obtain ⟨rfl, rfl⟩ := Prod.mk.inj (List.mem_singleton.mp hnow)
    exact ⟨d, hd, rfl, hqueries, by simp [Progress.addDao]⟩
  · intro u hu
    simp only [List.mem_cons, List.not_mem_nil, or_false] at hu
    rcases hu with rfl | rfl
    · exact .queries hd hqueries
    · exact .dao hd hdao

/-- The mappers that a database creates are those of its entities. -/
theorem Wired.mapperWirings_eq (hp : Wired c n p) {d : Database}
    (hd : d.entities ⊆ c.schema.entities) {mappers : List MapperWiring}
    (h : p.mapperWirings d = .ok mappers) :
    mappers = d.entities.map Entity.wiring ∧ ∀ e ∈ d.entities, e.MappedIn n p.units := by
  refine map_of_mapM (fun e he w hw => ?_) h
  split at hw
  · next keys hnoted =>
    cases hw
    obtain ⟨e', he', hname, rfl, hmapped⟩ := hp.entities _ _ (mem_of_noted? hnoted)
    obtain rfl := eq_of_declaration_eq he' (hd he) hname
    exact ⟨rfl, hmapped⟩
  · contradiction

/-- The queries holders that a database creates are those of its DAOs. -/
theorem Wired.queriesWirings_eq (hp : Wired c n p) {d : Database} (hd : d ∈ c.schema.databases)
    {queries : List QueriesWiring} (h : p.queriesWirings d = .ok queries) :
    queries = d.daos.map Dao.wiring ∧ ∀ dao ∈ d.daos, dao.QueriedIn n p.units := by
  refine map_of_mapM (fun dao hdao w hw => ?_) h
  split at hw
  · next found hnoted =>
    cases hw
    obtain ⟨dao', hdao', hname, hqueries, hmem⟩ := hp.daos _ _ (mem_of_noted? hnoted)
    obtain rfl := eq_of_holds_dao hdao' (holds_of_mem_daos hd hdao) hname
    obtain ⟨-, -, ⟨hadapters, -⟩, hmappers, -⟩ := QueriesUnit.fields_of hqueries
    refine ⟨?_, found, hqueries, hmem⟩
    rw [Dao.wiring, hadapters, hmappers]
  · contradiction

theorem Wired.addDatabase (hp : Wired c n p) {d : Database} (hd : d ∈ c.schema.databases)
    {schema : SchemaUnit} {database : DatabaseUnit}
    (h : databaseUnits n p d = .ok (schema, database)) :
    Wired c n (p.addDatabase schema database) := by
  obtain ⟨mappers, hmappers, h⟩ := bind_eq_ok h
  obtain ⟨queries, hqueries, h⟩ := bind_eq_ok h
  obtain ⟨schema', hschema, h⟩ := bind_eq_ok h
  obtain ⟨database', hdatabase, h⟩ := bind_eq_ok h
  cases h
  obtain ⟨rfl, hmapped⟩ := hp.mapperWirings_eq (entities_subset_schema hd) hmappers
  obtain ⟨rfl, hqueried⟩ := hp.queriesWirings_eq hd hqueries
  have hmore : p.units ⊆ (p.addDatabase schema database).units := List.subset_append_left _ _
  refine hp.grow rfl (fun _ _ => .inl) (fun _ _ => .inl) fun u hu => ?_
  simp only [List.mem_cons, List.not_mem_nil, or_false] at hu
  rcases hu with rfl | rfl
  · exact .schema hd (composing_eq_ok hschema)
  · exact (UnitContent.From.database hd hdatabase hmapped hqueried).mono hmore

/-! ## steps keep what units come from -/

theorem Wired.ensureEntity (hp : Wired c n p) {e : Entity} (he : e ∈ c.schema.entities)
    {found : List Diagnostic} (h : ((ensureEntity n e).run p).run = (found, p')) :
    Wired c n p' := by
  obtain ⟨-, rfl⟩ | ⟨-, stop, rfl⟩ | ⟨table, mapper, htable, hmapper, rfl⟩ := ensureEntity_cases h
  · exact hp
  · exact hp.fail _ stop
  · exact hp.addEntity he htable hmapper

theorem Wired.ensureDao (hp : Wired c n p) {d : Dao} (hd : c.schema.Holds (.dao d))
    {found : List Diagnostic} (h : ((ensureDao n d).run p).run = (found, p')) : Wired c n p' := by
  obtain rfl | ⟨stop, rfl⟩ | ⟨queries, dao, hqueries, hdao, rfl⟩ := ensureDao_cases h
  · exact hp
  · exact hp.fail _ stop
  · exact hp.addDao hd hqueries hdao

/-- Entities of the schema, one after the other. -/
theorem Wired.ensureEntities (hp : Wired c n p) {entities : List Entity}
    (hentities : entities ⊆ c.schema.entities) {found : List (List Diagnostic)}
    (h : ((entities.mapM (Progress.ensureEntity n)).run p).run = (found, p')) : Wired c n p' := by
  refine run_mapM_extends (P := fun _ _ p => Wired c n p) ?_ hp h
  intro before e after found p new p' hsplit hp hstep
  exact hp.ensureEntity (hentities (hsplit ▸ by simp)) hstep

/-- The DAOs of a database, one after the other. -/
theorem Wired.ensureDaos (hp : Wired c n p) {d : Database} (hd : d ∈ c.schema.databases)
    {found : List (List Diagnostic)}
    (h : ((d.getters.mapM fun g => Progress.ensureDao n g.dao).run p).run = (found, p')) :
    Wired c n p' := by
  refine run_mapM_extends (P := fun _ _ p => Wired c n p) ?_ hp h
  intro before g after found p new p' hsplit hp hstep
  exact hp.ensureDao ⟨d, hd, g, hsplit ▸ by simp, rfl⟩ hstep

theorem Wired.ensureDatabase (hp : Wired c n p) {d : Database} (hd : d ∈ c.schema.databases)
    {found : List Diagnostic} (h : ((ensureDatabase n d).run p).run = (found, p')) :
    Wired c n p' := by
  obtain ⟨_, p₁, _, p₂, hentities, hdaos, -, hrest⟩ := ensureDatabase_cases h
  have hp₁ := hp.ensureEntities (entities_subset_schema hd) hentities
  have hp₂ := hp₁.ensureDaos hd hdaos
  obtain ⟨-, stop, rfl⟩ | ⟨-, -, schema, database, hunits, rfl⟩ := hrest
  · exact hp₂.fail _ stop
  · exact hp₂.addDatabase hd hunits

end Progress

section Runs

variable {c : Catalog} {n : Naming}

theorem wired_compileWith (c : Catalog) (n : Naming) :
    ∃ p, Progress.Wired c n p ∧ (c.compileWith n).contents = p.units := by
  obtain ⟨_, p₁, _, p₂, hentities, hdatabases, -, hcontents⟩ := compileWith_steps c n
  have hp₁ := (Progress.wired_nil c n).ensureEntities (List.Subset.refl _) hentities
  refine ⟨p₂, ?_, hcontents⟩
  refine Progress.run_mapM_extends (P := fun _ _ p => Progress.Wired c n p) ?_ hp₁ hdatabases
  intro before d after found p new p' hsplit hp hstep
  exact hp.ensureDatabase (hsplit ▸ by simp) hstep

/-! ## adapters -/

variable {d : Database}

theorem adapters_of_database? {declaration : Declaration} (h : c.database? declaration = some d) :
    d.adapters = requiredAdapters d.entities d.getters := by
  obtain ⟨record, hvalue, -⟩ := assembled_of_database? h
  simp only [Catalog.assembleDatabase] at hvalue
  cases hvalue
  rfl

/-- The adapters of the entities that a DAO writes. -/
def Dao.targetAdapters (d : Dao) : List AdapterKey :=
  d.operations.flatMap fun o => (o.kind.target?.map Entity.adapters).getD []

/-- A database lists the entities that its DAOs write. -/
theorem targetAdapters_subset (hd : d ∈ c.schema.databases) :
    ∀ dao ∈ d.getters.map DaoGetter.dao, dao.targetAdapters ⊆ d.entities.flatMap Entity.adapters := by
  obtain ⟨declaration, -, hdatabase⟩ := mem_schema_databases hd
  intro dao hdao key hkey
  obtain ⟨g, hg, rfl⟩ := List.mem_map.mp hdao
  obtain ⟨o, ho, hkey⟩ := List.mem_flatMap.mp hkey
  cases htarget : o.kind.target? with
  | none =>
      rw [htarget] at hkey
      contradiction
  | some e =>
      rw [htarget] at hkey
      have he := touched_of_database? hdatabase hg ho (.target htarget)
      exact List.mem_flatMap.mpr ⟨e, he, hkey⟩

/-- The adapters that the mappers and queries of a database take are its adapters. -/
theorem wiredAdapters_eq (hd : d ∈ c.schema.databases) :
    wiredAdapters (d.entities.map Entity.wiring) (d.daos.map Dao.wiring) = d.adapters := by
  obtain ⟨declaration, -, hdatabase⟩ := mem_schema_databases hd
  calc wiredAdapters (d.entities.map Entity.wiring) (d.daos.map Dao.wiring)
      = distinct (d.entities.flatMap Entity.adapters ++ d.daos.flatMap Dao.statementAdapters) := by
        rw [wiredAdapters, List.flatMap_map, List.flatMap_map]
        rfl
    -- a DAO that several functions give out counts once
    _ = distinct (d.entities.flatMap Entity.adapters ++
          (d.getters.map DaoGetter.dao).flatMap Dao.statementAdapters) :=
        distinct_append_flatMap_distinctBy _ fun dao hdao dao' hdao' hname =>
          congrArg Dao.statementAdapters <|
            eq_of_holds_dao (holds_of_mem_getters hd hdao) (holds_of_mem_getters hd hdao') hname
    -- the entities that it writes came before
    _ = distinct (d.entities.flatMap Entity.adapters ++
          (d.getters.map DaoGetter.dao).flatMap Dao.adapters) :=
        distinct_append_flatMap_of_subset (f := Dao.adapters) (g := Dao.targetAdapters)
          (targetAdapters_subset hd)
    _ = d.adapters := by
        rw [adapters_of_database? hdatabase, requiredAdapters, List.flatMap_map]

theorem mem_wiredAdapters {entities : List Entity} {daos : List Dao} {key : AdapterKey} :
    key ∈ wiredAdapters (entities.map Entity.wiring) (daos.map Dao.wiring) ↔
      (∃ e ∈ entities, key ∈ e.adapters) ∨ ∃ dao ∈ daos, key ∈ dao.statementAdapters := by
  simp [wiredAdapters, mem_distinct, Entity.wiring, Dao.wiring]

/-! ## emitted databases -/

/-- The line that makes the mapper of an entity, from the adapters that its unit takes. -/
def Entity.MapperLine (units : List UnitContent) (e : Entity) (line : Code) : Prop :=
  ∃ mapper name, .mapper mapper ∈ units ∧ mapper.declaration = e.declaration ∧ e.mapperField = .ok name ∧
    (mapper.adapters.map AdapterField.key).mapM AdapterKey.field =
      .ok (mapper.adapters.map AdapterField.name) ∧
    line = Code.shareLine name.code (Code.sharing mapper.name (mapper.adapters.map AdapterField.name))

/-- The line that makes the queries of a DAO, from the driver and the adapters and mappers that its unit
takes. -/
def Dao.QueriesLine (units : List UnitContent) (dao : Dao) (line : Code) : Prop :=
  ∃ queries name, .queries queries ∈ units ∧ queries.declaration = dao.declaration ∧
    dao.queriesField = .ok name ∧
    queries.adapterKeys.mapM AdapterKey.field = .ok (queries.adapters.map AdapterField.name) ∧
    queries.mappedEntities.mapM Entity.mapperField = .ok (queries.mappers.map MapperField.name) ∧
    line = Code.shareLine name.code (Code.sharing queries.name (⟨"driver", false⟩ ::
      (queries.adapters.map AdapterField.name ++ queries.mappers.map MapperField.name)))

/-- What stands in the constructor of an implementation. -/
structure DatabaseUnit.Wires (u : DatabaseUnit) (n : Naming) (d : Database) (units : List UnitContent) :
    Prop where
  /-- It has one line for each adapter of the database, in their order, and then one for each mapper, for
  the queries of each DAO and for each DAO that is given out. There is nothing else in its body but a struct
  of what these lines keep. -/
  creates : ∃ ofAdapters ofMappers ofQueries ofDaos schema names,
    List.Forall₂ (d.AdapterLine n) d.adapters ofAdapters ∧
    List.Forall₂ (Entity.MapperLine units) d.entities ofMappers ∧
    List.Forall₂ (Dao.QueriesLine units) d.daos ofQueries ∧
    List.Forall₂ (DaoGetter.Line n) d.getters ofDaos ∧
    (constructor n schema (ofAdapters ++ ofMappers ++ ofQueries ++ ofDaos) names).Occurs (u.code n)
  nodup : d.adapters.Nodup
  /-- Mappers and queries are made from these adapters: none is missing, and none is unused. -/
  used : ∀ key, key ∈ d.adapters ↔
    (∃ mapper, .mapper mapper ∈ units ∧ (∃ e ∈ d.entities, e.declaration = mapper.declaration) ∧
      key ∈ mapper.adapters.map AdapterField.key) ∨
    ∃ queries, .queries queries ∈ units ∧ (∃ dao ∈ d.daos, dao.declaration = queries.declaration) ∧
      key ∈ queries.adapterKeys

theorem MapperWiring.Line.mapperLine {e : Entity} {line : Code} (h : e.wiring.Line n line)
    {units : List UnitContent} (hmapped : e.MappedIn n units) : e.MapperLine units line := by
  obtain ⟨name, unit, adapters, hname, hunit, hadapters, rfl⟩ := h
  obtain ⟨mapper, hmapper, hmem⟩ := hmapped
  obtain ⟨hunit', hdeclaration, hkeys, hfields⟩ := MapperUnit.adapters_of hmapper
  obtain rfl := Except.ok.inj (hunit.symm.trans hunit')
  obtain rfl := Except.ok.inj (hadapters.symm.trans hfields)
  exact ⟨mapper, name, hmem, hdeclaration, hname, hkeys ▸ hfields, rfl⟩

/-- The queries of a DAO are made from what their unit takes. -/
theorem QueriesWiring.Line.eq_of {dao : Dao} {line : Code} (h : dao.wiring.Line n line)
    {queries : QueriesUnit} (hqueries : QueriesUnit.of n dao = .ok queries) :
    ∃ name, dao.queriesField = .ok name ∧ line = Code.shareLine name.code
      (Code.sharing queries.name (⟨"driver", false⟩ ::
        (queries.adapters.map AdapterField.name ++ queries.mappers.map MapperField.name))) := by
  obtain ⟨name, unit, adapters, mappers, hname, hunit, hadapters, hmappers, rfl⟩ := h
  obtain ⟨hunit', -, ⟨-, hadapters'⟩, -, hmappers'⟩ := QueriesUnit.fields_of hqueries
  obtain rfl := Except.ok.inj (hunit.symm.trans hunit')
  obtain rfl := Except.ok.inj (hadapters.symm.trans hadapters')
  obtain rfl := Except.ok.inj (hmappers.symm.trans hmappers')
  exact ⟨name, hname, rfl⟩

theorem QueriesWiring.Line.queriesLine {dao : Dao} {line : Code} (h : dao.wiring.Line n line)
    {units : List UnitContent} (hqueried : dao.QueriedIn n units) : dao.QueriesLine units line := by
  obtain ⟨queries, hqueries, hmem⟩ := hqueried
  obtain ⟨name, hname, hline⟩ := h.eq_of hqueries
  obtain ⟨-, hdeclaration, ⟨hkeys, hadapters⟩, hentities, hmappers⟩ := QueriesUnit.fields_of hqueries
  exact ⟨queries, name, hmem, hdeclaration, hname, hkeys ▸ hadapters, hentities ▸ hmappers, hline⟩

section Units

variable {units : List UnitContent} (hunits : ∀ u ∈ units, u.From c n units)
include hunits

/-- The mapper unit of an entity takes the adapters of the entity. -/
theorem adapters_of_mem {mapper : MapperUnit} (hmem : .mapper mapper ∈ units) {e : Entity}
    (he : e ∈ c.schema.entities) (hname : e.declaration = mapper.declaration) :
    mapper.adapters.map AdapterField.key = e.adapters := by
  cases hunits _ hmem with
  | mapper he' h =>
      obtain ⟨-, hname', hkeys, -⟩ := MapperUnit.adapters_of h
      obtain rfl := eq_of_declaration_eq he he' (hname.trans hname')
      exact hkeys

/-- The queries unit of a DAO takes the adapters of its statements. -/
theorem adapterKeys_of_mem {queries : QueriesUnit} (hmem : .queries queries ∈ units) {dao : Dao}
    (hdao : c.schema.Holds (.dao dao)) (hname : dao.declaration = queries.declaration) :
    queries.adapterKeys = dao.statementAdapters := by
  cases hunits _ hmem with
  | queries hdao' h =>
      obtain ⟨-, hname', ⟨hkeys, -⟩, -⟩ := QueriesUnit.fields_of h
      obtain rfl := eq_of_holds_dao hdao hdao' (hname.trans hname')
      exact hkeys

section Wires

variable (hd : d ∈ c.schema.databases) (mapped : ∀ e ∈ d.entities, e.MappedIn n units)
  (queried : ∀ dao ∈ d.daos, dao.QueriedIn n units)
include hd mapped queried

/-- The adapters of a database are those that the units of its entities and DAOs take. -/
theorem mem_adapters_iff (key : AdapterKey) : key ∈ d.adapters ↔
    (∃ mapper, .mapper mapper ∈ units ∧ (∃ e ∈ d.entities, e.declaration = mapper.declaration) ∧
      key ∈ mapper.adapters.map AdapterField.key) ∨
    ∃ queries, .queries queries ∈ units ∧ (∃ dao ∈ d.daos, dao.declaration = queries.declaration) ∧
      key ∈ queries.adapterKeys := by
  rw [← wiredAdapters_eq hd, mem_wiredAdapters]
  constructor
  · rintro (⟨e, he, hkey⟩ | ⟨dao, hdao, hkey⟩)
    · obtain ⟨mapper, hmapper, hmem⟩ := mapped e he
      obtain ⟨-, hname, hkeys, -⟩ := MapperUnit.adapters_of hmapper
      exact .inl ⟨mapper, hmem, ⟨e, he, hname.symm⟩, hkeys ▸ hkey⟩
    · obtain ⟨queries, hqueries, hmem⟩ := queried dao hdao
      obtain ⟨-, hname, ⟨hkeys, -⟩, -⟩ := QueriesUnit.fields_of hqueries
      exact .inr ⟨queries, hmem, ⟨dao, hdao, hname.symm⟩, hkeys ▸ hkey⟩
  · rintro (⟨mapper, hmem, ⟨e, he, hname⟩, hkey⟩ | ⟨queries, hmem, ⟨dao, hdao, hname⟩, hkey⟩)
    · rw [adapters_of_mem hunits hmem (entities_subset_schema hd he) hname] at hkey
      exact .inl ⟨e, he, hkey⟩
    · rw [adapterKeys_of_mem hunits hmem (holds_of_mem_daos hd hdao) hname] at hkey
      exact .inr ⟨dao, hdao, hkey⟩

/-- A database whose entities and DAOs have units is wired with them. -/
theorem DatabaseUnit.wires_of {u : DatabaseUnit}
    (hu : DatabaseUnit.of n d (d.entities.map Entity.wiring) (d.daos.map Dao.wiring) = .ok u) :
    u.Wires n d units := by
  obtain ⟨ofAdapters, ofMappers, ofQueries, ofDaos, schema, names, hadapters, hmappers, hqueries, hdaos,
    hcode⟩ := DatabaseUnit.constructed hu
  have hwired := wiredAdapters_eq hd
  rw [hwired] at hadapters
  rw [List.forall₂_map_left_iff] at hmappers hqueries
  constructor
  · refine ⟨ofAdapters, ofMappers, ofQueries, ofDaos, schema, names, hadapters, ?_, ?_, hdaos, hcode⟩
    · exact ((List.forall₂_and_left _ _).mpr ⟨mapped, hmappers⟩).imp fun _ _ ⟨hmapped, hline⟩ =>
        hline.mapperLine hmapped
    · exact ((List.forall₂_and_left _ _).mpr ⟨queried, hqueries⟩).imp fun _ _ ⟨hqueried, hline⟩ =>
        hline.queriesLine hqueried
  · exact hwired ▸ nodup_distinct _
  · exact mem_adapters_iff hunits hd mapped queried

end Wires

end Units

/-- **Adapters of a database**: the constructor of an implementation that is emitted creates the adapters
that its database was resolved with, each once and in the same order. They are those that its mappers and
queries holders are created with: none is missing, and none is unused. -/
theorem compile_wires {o : Options} {n : Naming} (hn : Naming.ofOptions o = .ok n) {r : Compilation}
    (h : c.compile o = .ok r) (hd : d ∈ c.schema.databases) {u : DatabaseUnit}
    (hu : .database u ∈ r.contents) (hname : u.declaration = d.declaration) : u.Wires n d r.contents := by
  obtain ⟨n', hn', rfl, -⟩ := compile_eq_ok h
  obtain rfl : n = n' := Except.ok.inj (hn.symm.trans hn')
  obtain ⟨p, hp, hcontents⟩ := wired_compileWith c n
  rw [hcontents] at hu ⊢
  cases hp.units _ hu with
  | database hd' hof mapped queried =>
      obtain ⟨hname', -⟩ := DatabaseUnit.parts_of hof
      obtain rfl := List.inj_on_of_nodup_map nodup_schema_databases hd' hd (hname'.symm.trans hname)
      exact DatabaseUnit.wires_of hp.units hd mapped queried hof

end Runs

/-- The implementation of the school is emitted. -/
theorem Call.schoolCatalog_emits : ∃ n u, Naming.ofOptions {} = .ok n ∧
    schoolCatalog.compile {} = .ok (schoolCatalog.compileWith n) ∧
    .database u ∈ (schoolCatalog.compileWith n).contents ∧ u.declaration = "app::School" := by
  have hrun : (schoolCatalog.compile {}).toOption.map (fun r =>
      r.contents.any fun u =>
        match u with
        | .database u => u.declaration == "app::School"
        | _ => false) = some true := by
    decide +kernel
  obtain ⟨r, hr, hemitted⟩ := Option.map_eq_some_iff.mp hrun
  obtain ⟨content, hmem, hcontent⟩ := List.any_eq_true.mp hemitted
  have hcompile := eq_ok_of_toOption hr
  obtain ⟨n, hn, hof, -⟩ := compile_eq_ok hcompile
  rw [hof] at hmem hcompile
  split at hcontent
  · next u => exact ⟨n, u, hn, hcompile, hmem, beq_iff_eq.mp hcontent⟩
  · exact absurd hcontent Bool.false_ne_true

/-- The implementation of the school creates two adapters, of its students and of its courses. -/
theorem compile_wires_school :
    ∃ n r d u, Naming.ofOptions {} = .ok n ∧ Call.schoolCatalog.compile {} = .ok r ∧
      d ∈ Call.schoolCatalog.schema.databases ∧ .database u ∈ r.contents ∧ u.declaration = d.declaration ∧
      d.adapters = [⟨.ofName "bool", .integer⟩, ⟨.ofName "Uuid", .text⟩] ∧ u.Wires n d r.contents := by
  have hdatabases : Call.schoolCatalog.schema.databases.map
      (fun d => (d.declaration, d.adapters)) =
        [("app::School", [⟨.ofName "bool", .integer⟩, ⟨.ofName "Uuid", .text⟩])] := by
    decide +kernel
  obtain ⟨d, hd, hparts⟩ := List.mem_map.mp (hdatabases ▸ List.mem_singleton_self _)
  obtain ⟨hschool, hadapters⟩ := Prod.mk.inj hparts
  obtain ⟨n, u, hn, hcompile, hmem, hdeclaration⟩ := Call.schoolCatalog_emits
  have hname : u.declaration = d.declaration := hdeclaration.trans hschool.symm
  exact ⟨n, _, d, u, hn, hcompile, hd, hmem, hname, hadapters, compile_wires hn hcompile hd hmem hname⟩

end DaoForge
