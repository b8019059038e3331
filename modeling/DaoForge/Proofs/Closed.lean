import DaoForge.Proofs.Compile
import DaoForge.Proofs.Resolve.Row
import DaoForge.Proofs.Unit.Reference

/-!
# DaoForge.Proofs.Closed

When the references of the units of a run are met by units of the run.

1. `Progress.Backed`: what was noted was generated, and every reference is met, except that queries may
   refer to a mapper that is missing. Each step of a run keeps it (`Backed.ensureEntity`,
   `Backed.ensureDao`, `Backed.ensureDatabase`), hence `backed_compileWith`;
2. `closed_compileWith_iff`: the units are closed under reference iff no queries unit reads an entity whose
   code cannot be composed. A DAO is generated without a look at the entities that it reads, so
   nothing keeps that from happening in a run that reports the entity (`selfCatalog`).
-/

namespace DaoForge

/-- The code of both units of the entity can be composed. -/
def Entity.Composes (n : Naming) (e : Entity) : Prop :=
  ∃ table mapper, TableUnit.of n e = .ok table ∧ MapperUnit.of n e = .ok mapper

section Names

variable (n : Naming)

/-- Units are named for declarations. -/
theorem Naming.entity_congr {e e' : Entity} (h : e.declaration = e'.declaration) :
    n.table e = n.table e' ∧ n.mapper e = n.mapper e' := by
  simp [Naming.table, Naming.mapper, Entity.simpleName, h]

theorem Naming.dao_congr {d d' : Dao} (h : d.declaration = d'.declaration) :
    n.queries d = n.queries d' ∧ n.dao d = n.dao d' := by
  simp [Naming.queries, Naming.dao, Dao.simpleName, h]

end Names

namespace Progress

variable {c : Catalog} {n : Naming} {visited : List Entity} {p p' : Progress}

/-! ## steps -/

theorem ensureEntity_cases {e : Entity} {found : List Diagnostic}
    (h : ((ensureEntity n e).run p).run = (found, p')) :
    (((noted? p.entities e.declaration).isSome = true ∨ e.declaration ∈ p.failed) ∧ p' = p) ∨
    (¬ e.Composes n ∧
      ∃ stop, p' = { p with failed := p.failed ++ [e.declaration], untilStop := stop }) ∨
    ∃ table mapper, TableUnit.of n e = .ok table ∧ MapperUnit.of n e = .ok mapper ∧
      p' = p.addEntity e table mapper := by
  unfold Progress.ensureEntity at h
  obtain ⟨hdone, -, hp⟩ | ⟨hfailed, -, hp⟩ | ⟨error, hunits, -, hp⟩ | ⟨-, -, u, hunits, hp⟩ :=
    generateOnce_cases h
  · exact .inl ⟨.inl hdone, hp⟩
  · exact .inl ⟨.inr hfailed, hp⟩
  · refine .inr (.inl ⟨?_, _, hp⟩)
    rintro ⟨table, mapper, htable, hmapper⟩
    rw [htable, hmapper] at hunits
    cases hunits
  · obtain ⟨table, htable, hunits⟩ := bind_eq_ok hunits
    obtain ⟨mapper, hmapper, hunits⟩ := bind_eq_ok hunits
    cases hunits
    exact .inr (.inr ⟨table, mapper, htable, hmapper, hp⟩)

theorem ensureDao_cases {d : Dao} {found : List Diagnostic}
    (h : ((ensureDao n d).run p).run = (found, p')) :
    p' = p ∨ (∃ stop, p' = { p with failed := p.failed ++ [d.declaration], untilStop := stop }) ∨
    ∃ queries dao, QueriesUnit.of n d = .ok queries ∧ DaoUnit.of n d = .ok dao ∧
      p' = p.addDao d queries dao := by
  unfold Progress.ensureDao at h
  obtain ⟨-, -, hp⟩ | ⟨-, -, hp⟩ | ⟨error, -, -, hp⟩ | ⟨-, -, u, hunits, hp⟩ :=
    generateOnce_cases h
  · exact .inl hp
  · exact .inl hp
  · exact .inr (.inl ⟨_, hp⟩)
  · obtain ⟨queries, hqueries, hunits⟩ := bind_eq_ok hunits
    obtain ⟨dao, hdao, hunits⟩ := bind_eq_ok hunits
    cases hunits
    exact .inr (.inr ⟨queries, dao, hqueries, hdao, hp⟩)

/-! ## what was generated -/

/-- A unit of the name was generated. -/
def Emits (p : Progress) (name : String) : Prop := ∃ u ∈ p.units, u.name.name = name

theorem Emits.mono {name : String} (h : p.Emits name) (hunits : p.units ⊆ p'.units) :
    p'.Emits name := by
  obtain ⟨u, hu, hname⟩ := h
  exact ⟨u, hunits hu, hname⟩

/-- What was noted was generated. References are met but for those of queries, which are to mappers of
entities that the schema holds; of these the ones that were visited are noted, unless their code cannot
be composed. -/
structure Backed (c : Catalog) (n : Naming) (visited : List Entity) (p : Progress) : Prop where
  entities : ∀ e : Entity, (noted? p.entities e.declaration).isSome = true →
    p.Emits (n.table e) ∧ p.Emits (n.mapper e)
  daos : ∀ d : Dao, (noted? p.daos d.declaration).isSome = true →
    p.Emits (n.queries d) ∧ p.Emits (n.dao d)
  mapped : ∀ q, .queries q ∈ p.units → ∀ f ∈ q.mappers,
    f.entity ∈ c.schema.entities ∧ f.mapper.name = n.mapper f.entity
  references : ∀ u ∈ p.units, u.kind ≠ .queries → ∀ x ∈ u.references, p.Emits x.name
  settled : ∀ e ∈ visited, (noted? p.entities e.declaration).isSome = true ∨ ¬ e.Composes n

theorem backed_nil (c : Catalog) (n : Naming) : Backed c n [] {} where
  entities _ h := by simp [noted?] at h
  daos _ h := by simp [noted?] at h
  mapped _ h := absurd h List.not_mem_nil
  references _ h := absurd h List.not_mem_nil
  settled _ h := absurd h List.not_mem_nil

/-- One more entity was visited. -/
theorem Backed.visit (hp : Backed c n visited p) {e : Entity}
    (h : (noted? p.entities e.declaration).isSome = true ∨ ¬ e.Composes n) :
    Backed c n (visited ++ [e]) p where
  entities := hp.entities
  daos := hp.daos
  mapped := hp.mapped
  references := hp.references
  settled := List.forall_mem_append.mpr ⟨hp.settled, List.forall_mem_singleton.mpr h⟩

/-- It does not matter what failed, or where the run would stop. -/
theorem Backed.fail (hp : Backed c n visited p) (failed : List String) (stop : Option (List UnitContent)) :
    Backed c n visited { p with failed, untilStop := stop } :=
  { hp with }

/-- More units were generated: what was met before still is. -/
theorem Backed.grow (hp : Backed c n visited p) {new : List UnitContent}
    (hunits : p'.units = p.units ++ new)
    (hkept : ∀ e : Entity, (noted? p.entities e.declaration).isSome = true →
      (noted? p'.entities e.declaration).isSome = true)
    (hentities : ∀ e : Entity, (noted? p'.entities e.declaration).isSome = true →
      (noted? p.entities e.declaration).isSome = true ∨
        p'.Emits (n.table e) ∧ p'.Emits (n.mapper e))
    (hdaos : ∀ d : Dao, (noted? p'.daos d.declaration).isSome = true →
      (noted? p.daos d.declaration).isSome = true ∨ p'.Emits (n.queries d) ∧ p'.Emits (n.dao d))
    (hmapped : ∀ q, .queries q ∈ new → ∀ f ∈ q.mappers,
      f.entity ∈ c.schema.entities ∧ f.mapper.name = n.mapper f.entity)
    (hreferences : ∀ u ∈ new, u.kind ≠ .queries → ∀ x ∈ u.references, p'.Emits x.name) :
    Backed c n visited p' := by
  have hmore : p.units ⊆ p'.units := hunits ▸ List.subset_append_left _ _
  refine ⟨fun e h => ?_, fun d h => ?_, fun q h => ?_, ?_, fun e h => ?_⟩
  · obtain hbefore | hnow := hentities e h
    · exact (hp.entities e hbefore).imp (fun h => h.mono hmore) fun h => h.mono hmore
    · exact hnow
  · obtain hbefore | hnow := hdaos d h
    · exact (hp.daos d hbefore).imp (fun h => h.mono hmore) fun h => h.mono hmore
    · exact hnow
  · rw [hunits] at h
    exact (List.mem_append.mp h).elim (hp.mapped q) (hmapped q)
  · rw [hunits, List.forall_mem_append]
    exact ⟨fun u hu hkind x hx => (hp.references u hu hkind x hx).mono hmore, hreferences⟩
  · exact (hp.settled e h).imp_left (hkept e)

theorem Backed.addEntity (hp : Backed c n visited p) {e : Entity} {table : TableUnit}
    {mapper : MapperUnit} (htable : TableUnit.of n e = .ok table)
    (hmapper : MapperUnit.of n e = .ok mapper) :
    Backed c n visited (p.addEntity e table mapper) := by
  have hemits : (p.addEntity e table mapper).Emits (n.table e) ∧
      (p.addEntity e table mapper).Emits (n.mapper e) :=
    ⟨⟨.table table, by simp [Progress.addEntity], TableUnit.name_of htable⟩,
      ⟨.mapper mapper, by simp [Progress.addEntity], MapperUnit.name_of hmapper⟩⟩
  refine hp.grow rfl (fun _ h => isSome_noted?_append.mpr (.inl h)) (fun e' h => ?_)
    (fun _ => .inl) (fun q h => ?_) fun u hu _ x hx => ?_
  · refine (isSome_noted?_append.mp h).imp_right fun hsame => ?_
    obtain ⟨htables, hmappers⟩ := n.entity_congr hsame
    rw [htables, hmappers]
    exact hemits
  · simp at h
  · simp only [List.mem_cons, List.not_mem_nil, or_false] at hu
    rcases hu with rfl | rfl <;> exact absurd hx List.not_mem_nil

theorem Backed.addDao (hp : Backed c n visited p) {d : Dao} {queries : QueriesUnit} {dao : DaoUnit}
    (hmapped : d.mappedEntities ⊆ c.schema.entities) (hqueries : QueriesUnit.of n d = .ok queries)
    (hdao : DaoUnit.of n d = .ok dao) : Backed c n visited (p.addDao d queries dao) := by
  have hemits : (p.addDao d queries dao).Emits (n.queries d) ∧
      (p.addDao d queries dao).Emits (n.dao d) :=
    ⟨⟨.queries queries, by simp [Progress.addDao], QueriesUnit.name_of hqueries⟩,
      ⟨.dao dao, by simp [Progress.addDao], DaoUnit.name_of hdao⟩⟩
  refine hp.grow rfl (fun _ h => h) (fun _ => .inl) (fun d' h => ?_) (fun q h => ?_)
    fun u hu hkind x hx => ?_
  · refine (isSome_noted?_append.mp h).imp_right fun hsame => ?_
    obtain ⟨hqueries', hdaos⟩ := n.dao_congr hsame
    rw [hqueries', hdaos]
    exact hemits
  · obtain rfl : q = queries := by simpa using h
    intro f hf
    obtain ⟨hentity, hmapper, -⟩ := QueriesUnit.mappers_of hqueries f hf
    exact ⟨hmapped hentity, Ident.name_of hmapper⟩
  · simp only [List.mem_cons, List.not_mem_nil, or_false] at hu
    rcases hu with rfl | rfl
    · exact absurd rfl hkind
    · rw [List.mem_singleton.mp hx, Ident.name_of (DaoUnit.queries_of hdao)]
      exact hemits.1

/-- The mappers that a database creates are those of its entities, all of which are noted. -/
theorem mapperWirings_of {d : Database} {mappers : List MapperWiring}
    (h : p.mapperWirings d = .ok mappers) :
    List.Forall₂ (fun e (w : MapperWiring) =>
      w.entity = e ∧ (noted? p.entities e.declaration).isSome = true) d.entities mappers := by
  refine (forall₂_of_mapM h).imp fun e w hw => ?_
  split at hw
  · next hnoted =>
    cases hw
    rw [hnoted]
    exact ⟨rfl, rfl⟩
  · contradiction

/-- The queries holders that a database creates are those of DAOs that are noted. -/
theorem queriesWirings_of {d : Database} {queries : List QueriesWiring}
    (h : p.queriesWirings d = .ok queries) :
    List.Forall₂ (fun dao (w : QueriesWiring) =>
        w.dao = dao ∧ (noted? p.daos dao.declaration).isSome = true)
      (distinctBy Dao.declaration (d.getters.map DaoGetter.dao)) queries := by
  refine (forall₂_of_mapM h).imp fun dao w hw => ?_
  split at hw
  · next hnoted =>
    cases hw
    rw [hnoted]
    exact ⟨rfl, rfl⟩
  · contradiction

theorem noted_of_queriesWirings {d : Database} {queries : List QueriesWiring}
    (h : p.queriesWirings d = .ok queries) {g : DaoGetter} (hg : g ∈ d.getters) :
    (noted? p.daos g.dao.declaration).isSome = true := by
  have hkey : g.dao.declaration ∈
      (distinctBy Dao.declaration (d.getters.map DaoGetter.dao)).map Dao.declaration :=
    mem_map_keepAll.mpr (.inr (List.mem_map_of_mem (List.mem_map_of_mem hg)))
  obtain ⟨dao, hdao, hname⟩ := List.mem_map.mp hkey
  obtain ⟨w, -, -, hnoted⟩ := exists_of_forall₂ (queriesWirings_of h).flip hdao
  rwa [hname] at hnoted

theorem Backed.addDatabase (hp : Backed c n visited p) {d : Database} {schema : SchemaUnit}
    {database : DatabaseUnit} (h : databaseUnits n p d = .ok (schema, database)) :
    Backed c n visited (p.addDatabase schema database) := by
  obtain ⟨mappers, hmappers, h⟩ := bind_eq_ok h
  obtain ⟨queries, hqueries, h⟩ := bind_eq_ok h
  obtain ⟨schema', hschema, h⟩ := bind_eq_ok h
  obtain ⟨database', hdatabase, h⟩ := bind_eq_ok h
  cases h
  have hmore : p.units ⊆ (p.addDatabase schema database).units := List.subset_append_left _ _
  refine hp.grow rfl (fun _ h => h) (fun _ => .inl) (fun _ => .inl) (fun q h => ?_)
    fun u hu _ x hx => ?_
  · simp at h
  simp only [List.mem_cons, List.not_mem_nil, or_false] at hu
  rcases hu with rfl | rfl
  · obtain ⟨e, he, hname⟩ := SchemaUnit.tables_of (composing_eq_ok hschema) x hx
    obtain ⟨w, -, -, hnoted⟩ := exists_of_forall₂ (mapperWirings_of hmappers).flip he
    rw [Ident.name_of hname]
    exact (hp.entities e hnoted).1.mono hmore
  obtain hname | ⟨w, hw, hname⟩ | ⟨w, hw, hname⟩ | ⟨g, hg, hname⟩ :=
    DatabaseUnit.references_of hdatabase x hx
  · rw [Ident.name_of hname]
    exact ⟨.schema schema, by simp [Progress.addDatabase],
      SchemaUnit.name_of (composing_eq_ok hschema)⟩
  · obtain ⟨e, -, rfl, hnoted⟩ := exists_of_forall₂ (mapperWirings_of hmappers) hw
    rw [Ident.name_of hname]
    exact (hp.entities w.entity hnoted).2.mono hmore
  · obtain ⟨dao, -, rfl, hnoted⟩ := exists_of_forall₂ (queriesWirings_of hqueries) hw
    rw [Ident.name_of hname]
    exact (hp.daos w.dao hnoted).1.mono hmore
  · rw [Ident.name_of hname]
    exact (hp.daos g.dao (noted_of_queriesWirings hqueries hg)).2.mono hmore

/-! ## steps keep what was generated -/

theorem Backed.ensureEntity (hp : Backed c n visited p) {e : Entity} {found : List Diagnostic}
    (h : ((ensureEntity n e).run p).run = (found, p')) : Backed c n visited p' := by
  obtain ⟨-, rfl⟩ | ⟨-, stop, rfl⟩ | ⟨table, mapper, htable, hmapper, rfl⟩ := ensureEntity_cases h
  · exact hp
  · exact hp.fail _ stop
  · exact hp.addEntity htable hmapper

theorem Backed.ensureDao (hp : Backed c n visited p) {d : Dao} {found : List Diagnostic}
    (hmapped : d.mappedEntities ⊆ c.schema.entities)
    (h : ((ensureDao n d).run p).run = (found, p')) : Backed c n visited p' := by
  obtain rfl | ⟨stop, rfl⟩ | ⟨queries, dao, hqueries, hdao, rfl⟩ := ensureDao_cases h
  · exact hp
  · exact hp.fail _ stop
  · exact hp.addDao hmapped hqueries hdao

theorem Backed.ensureDatabase (hp : Backed c n visited p) {d : Database} {found : List Diagnostic}
    (hd : d ∈ c.schema.databases) (h : ((ensureDatabase n d).run p).run = (found, p')) :
    Backed c n visited p' := by
  obtain ⟨declaration, -, hresolved⟩ := mem_schema_databases hd
  have hmapped : ∀ g ∈ d.getters, g.dao.mappedEntities ⊆ c.schema.entities := by
    intro g hg
    obtain ⟨_, -, hdao⟩ := mem_getters_of_database? hresolved hg
    exact mappedEntities_subset_schema hdao
  obtain ⟨_, p₁, _, p₂, hentities, hdaos, -, hrest⟩ := ensureDatabase_cases h
  have hp₁ : Backed c n visited p₁ := run_mapM_extends (P := fun _ _ p => Backed c n visited p)
    (fun _ _ _ _ _ _ _ _ h h' => h.ensureEntity h') hp hentities
  have hp₂ : Backed c n visited p₂ := by
    refine run_mapM_extends (P := fun _ _ p => Backed c n visited p) ?_ hp₁ hdaos
    intro before g after found p new p' hsplit h h'
    exact h.ensureDao (hmapped g (hsplit ▸ by simp)) h'
  obtain ⟨-, stop, rfl⟩ | ⟨-, -, schema, database, hunits, rfl⟩ := hrest
  · exact hp₂.fail _ stop
  · exact hp₂.addDatabase hunits

/-- While the entities are visited, only entities whose code cannot be composed have failed. -/
def Fails (c : Catalog) (n : Naming) (p : Progress) : Prop :=
  ∀ name ∈ p.failed, ∃ e ∈ c.schema.entities, e.declaration = name ∧ ¬ e.Composes n

theorem Backed.visitEntity (hp : Backed c n visited p) (hfails : Fails c n p) {e : Entity}
    {found : List Diagnostic} (he : e ∈ c.schema.entities)
    (h : ((Progress.ensureEntity n e).run p).run = (found, p')) :
    Backed c n (visited ++ [e]) p' ∧ Fails c n p' := by
  have hp' := hp.ensureEntity h
  obtain ⟨hdone | hfailed, rfl⟩ | ⟨hcomposes, stop, rfl⟩ | ⟨table, mapper, htable, hmapper, rfl⟩ :=
    ensureEntity_cases h
  · exact ⟨hp'.visit (.inl hdone), hfails⟩
  · obtain ⟨e', he', hname, hcomposes⟩ := hfails _ hfailed
    obtain rfl := List.inj_on_of_nodup_map nodup_schema_entities he' he hname
    exact ⟨hp'.visit (.inr hcomposes), hfails⟩
  · refine ⟨hp'.visit (.inr hcomposes), List.forall_mem_append.mpr ⟨hfails, ?_⟩⟩
    exact List.forall_mem_singleton.mpr ⟨e, he, rfl, hcomposes⟩
  · exact ⟨hp'.visit (.inl (isSome_noted?_append.mpr (.inr rfl))), hfails⟩

end Progress

/-! ## whole runs -/

section Runs

variable {c : Catalog}

theorem backed_compileWith (c : Catalog) (n : Naming) :
    ∃ p, Progress.Backed c n c.schema.entities p ∧ (c.compileWith n).contents = p.units := by
  obtain ⟨_, p₁, _, p₂, hentities, hdatabases, -, hcontents⟩ := compileWith_steps c n
  have hp₁ : Progress.Backed c n c.schema.entities p₁ ∧ Progress.Fails c n p₁ := by
    refine Progress.run_mapM_extends
      (P := fun before _ p => Progress.Backed c n before p ∧ Progress.Fails c n p) ?_
      ⟨Progress.backed_nil c n, fun _ h => absurd h List.not_mem_nil⟩ hentities
    rintro before e after found p new p' hsplit ⟨hp, hfails⟩ hstep
    exact hp.visitEntity hfails (hsplit ▸ by simp) hstep
  refine ⟨p₂, ?_, hcontents⟩
  refine Progress.run_mapM_extends (P := fun _ _ p => Progress.Backed c n c.schema.entities p) ?_
    hp₁.1 hdatabases
  intro before d after found p new p' hsplit hp hstep
  exact hp.ensureDatabase (hsplit ▸ by simp) hstep

/-- Every unit that an emitted unit refers to is emitted. -/
def Compilation.Closed (r : Compilation) : Prop :=
  ∀ u ∈ r.contents, ∀ x ∈ u.references, ∃ v ∈ r.units, v.name = x.name

/-- A unit of the name is emitted iff one was generated. -/
theorem emits_iff {n : Naming} {p : Progress} (h : (c.compileWith n).contents = p.units)
    {name : String} : (∃ v ∈ (c.compileWith n).units, v.name = name) ↔ p.Emits name := by
  have hunits : (c.compileWith n).units = p.units.map (UnitContent.generated n) := by
    rw [← h]
    rfl
  rw [hunits]
  constructor
  · rintro ⟨v, hv, hname⟩
    obtain ⟨u, hu, rfl⟩ := List.mem_map.mp hv
    exact ⟨u, hu, hname⟩
  · rintro ⟨u, hu, hname⟩
    exact ⟨u.generated n, List.mem_map_of_mem hu, hname⟩

/-- The units are closed under reference iff the mappers that queries refer to are there: those of entities
whose units can be composed are. -/
theorem closed_compileWith_iff (c : Catalog) (n : Naming) : (c.compileWith n).Closed ↔
    ∀ q, .queries q ∈ (c.compileWith n).contents → ∀ e ∈ q.mappedEntities,
      e.Composes n ∨ ∃ v ∈ (c.compileWith n).units, v.name = n.mapper e := by
  obtain ⟨p, hp, hcontents⟩ := backed_compileWith c n
  -- a mapper of an entity of the schema is there if it can be
  have hmet : ∀ e ∈ c.schema.entities, e.Composes n → p.Emits (n.mapper e) := by
    intro e he hcomposes
    obtain hnoted | hnot := hp.settled e he
    · exact (hp.entities e hnoted).2
    · exact absurd hcomposes hnot
  unfold Compilation.Closed
  simp only [emits_iff hcontents, hcontents]
  constructor
  · intro hclosed q hq e he
    obtain ⟨f, hf, rfl⟩ := List.mem_map.mp he
    rw [← (hp.mapped q hq f hf).2]
    exact .inr (hclosed _ hq f.mapper (List.mem_map_of_mem hf))
  · intro hcomposed u hu x hx
    by_cases hkind : u.kind = .queries
    · cases u with
      | queries q =>
          obtain ⟨f, hf, rfl⟩ := List.mem_map.mp hx
          obtain ⟨hentity, hname⟩ := hp.mapped q hu f hf
          rw [hname]
          exact (hcomposed q hu f.entity (List.mem_map_of_mem hf)).elim (hmet _ hentity) id
      | _ => cases hkind
    · exact hp.references u hu hkind x hx

/-- In a run without diagnostics every entity that is read has units. -/
theorem closed_compileWith {n : Naming} (h : (c.compileWith n).report.diagnostics = []) :
    (c.compileWith n).Closed := by
  rw [closed_compileWith_iff]
  obtain ⟨p, hp, hcontents⟩ := backed_compileWith c n
  intro q hq e he
  rw [hcontents] at hq
  obtain ⟨f, hf, rfl⟩ := List.mem_map.mp he
  obtain ⟨_, hdone, -⟩ := done_compileWith h
  obtain ⟨_, _, hgives, -⟩ :=
    hdone.gives (.entity f.entity) (mem_origins_iff.mpr (hp.mapped q hq f hf).1)
  cases hgives with
  | entity htable hmapper => exact .inl ⟨_, _, htable, hmapper⟩

end Runs

/-- An entity with a property that has no identifier, and a DAO that reads it. -/
def selfCatalog : Catalog where
  declarations :=
    [{ qualifiedName := "app::User"
       annotations := [{ name := "Entity" }]
       properties :=
        [{ name := "id", type := .ofName "i64", annotations := [{ name := "PrimaryKey" }] },
          { name := "self", type := .ofName "i64" }] },
      { qualifiedName := "app::UserDao"
        kind := .trait
        annotations := [{ name := "Dao" }]
        functions :=
          [{ name := "all"
             returnType := some { name := "Vec", arguments := [.ofName "app::User"] }
             annotations :=
              [{ name := "Query", arguments := [("value", .text "SELECT * FROM User")] }] }] },
      { qualifiedName := "app::Db"
        kind := .trait
        annotations :=
          [{ name := "Database"
             arguments :=
              [("entities", .array [.type (.ofName "app::User")]), ("version", .integer 1)] }]
        functions :=
          [{ name := "users", returnType := some (.ofName "&dyn app::UserDao") }] }]
  nodup := by decide

end DaoForge
