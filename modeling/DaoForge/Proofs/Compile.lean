import DaoForge.Compile
import DaoForge.Proofs.Distinct
import DaoForge.Proofs.Output.Memory
import DaoForge.Proofs.Resolve.Schema
import DaoForge.Proofs.Unit.Composing

/-!
# DaoForge.Proofs.Compile

What a run without problems generates.

1. `Origin`: what two units are generated from; `ResolvedSchema.origins` lists the origins of a schema
   in the order in which a run first meets them, and `mem_origins_iff` says which they are;
2. `Progress.Done`: the units of exactly these origins were generated, in order. Each step of a run
   keeps it (`Done.ensureEntity`, `Done.ensureDao`, `Done.ensureDatabase`), hence `done_compileWith`;
3. `compile_losesNothing_iff`: no unit is lost iff the names of the units are distinct. Nothing that
   is checked before makes them so.
-/

namespace DaoForge

/-! ## origins -/

/-- What two units are generated from. -/
inductive Origin where
  | entity (e : Entity)
  | dao (d : Dao)
  | database (d : Database)

namespace Origin

/-- The kind of an origin, by that of its first unit, and the declaration. -/
def key : Origin → UnitKind × String
  | .entity e => (.table, e.declaration)
  | .dao d => (.queries, d.declaration)
  | .database d => (.schema, d.declaration)

/-- Names of the two units. -/
def names (n : Naming) : Origin → List String
  | .entity e => [n.table e, n.mapper e]
  | .dao d => [n.queries d, n.dao d]
  | .database d => [n.schema d, n.database d]

/-- The two units are generated from the origin. -/
inductive Gives (n : Naming) : Origin → UnitContent → UnitContent → Prop where
  | entity {e : Entity} {table : TableUnit} {mapper : MapperUnit}
      (htable : TableUnit.of n e = .ok table) (hmapper : MapperUnit.of n e = .ok mapper) :
      Gives n (.entity e) (.table table) (.mapper mapper)
  | dao {d : Dao} {queries : QueriesUnit} {dao : DaoUnit}
      (hqueries : QueriesUnit.of n d = .ok queries) (hdao : DaoUnit.of n d = .ok dao) :
      Gives n (.dao d) (.queries queries) (.dao dao)
  | database {d : Database} {schema : SchemaUnit} {database : DatabaseUnit}
      {mappers : List MapperWiring} {queries : List QueriesWiring}
      (hschema : SchemaUnit.of n d = .ok schema)
      (hdatabase : DatabaseUnit.of n d mappers queries = .ok database) :
      Gives n (.database d) (.schema schema) (.database database)

end Origin

/-- The origins that the generation of a database comes to, in order. -/
def Database.origins (d : Database) : List Origin :=
  d.entities.map .entity ++ d.getters.map (fun g => .dao g.dao) ++ [.database d]

namespace ResolvedSchema

/-- The origins of a schema, each where a run first comes to it. -/
def origins (s : ResolvedSchema) : List Origin :=
  distinctBy Origin.key (s.entities.map .entity ++ s.databases.flatMap Database.origins)

/-- The schema holds the entity or database, or one of its databases gives out the DAO. -/
def Holds (s : ResolvedSchema) : Origin → Prop
  | .entity e => e ∈ s.entities
  | .dao d => ∃ database ∈ s.databases, ∃ g ∈ database.getters, g.dao = d
  | .database d => d ∈ s.databases

theorem holds_of_mem_database {s : ResolvedSchema} {d : Database} (hd : d ∈ s.databases)
    (hsubset : d.entities ⊆ s.entities) {o : Origin} (h : o ∈ d.origins) : s.Holds o := by
  unfold Database.origins at h
  rcases List.mem_append.mp h with h | h
  · rcases List.mem_append.mp h with h | h
    · obtain ⟨e, he, rfl⟩ := List.mem_map.mp h
      exact hsubset he
    · obtain ⟨g, hg, rfl⟩ := List.mem_map.mp h
      exact ⟨d, hd, g, hg, rfl⟩
  · rw [List.mem_singleton] at h
    subst h
    exact hd

end ResolvedSchema

section Origins

variable {c : Catalog}

/-- Of a catalog the origins are told apart by kind and declaration. -/
theorem eq_of_key_eq {o o' : Origin} (h : c.schema.Holds o) (h' : c.schema.Holds o')
    (hkey : o.key = o'.key) : o = o' := by
  cases o with
  | entity e =>
      cases o' with
      | entity e' =>
          have hname : e.declaration = e'.declaration := congrArg Prod.snd hkey
          rw [List.inj_on_of_nodup_map nodup_schema_entities h h' hname]
      | dao d' => simp [Origin.key] at hkey
      | database d' => simp [Origin.key] at hkey
  | dao d =>
      cases o' with
      | entity e' => simp [Origin.key] at hkey
      | dao d' =>
          obtain ⟨database, hdatabase, g, hg, rfl⟩ := h
          obtain ⟨database', hdatabase', g', hg', rfl⟩ := h'
          obtain ⟨_, -, hfound⟩ := mem_schema_databases hdatabase
          obtain ⟨_, -, hfound'⟩ := mem_schema_databases hdatabase'
          obtain ⟨d, hd, hdao⟩ := mem_getters_of_database? hfound hg
          obtain ⟨d', hd', hdao'⟩ := mem_getters_of_database? hfound' hg'
          have hname : g.dao.declaration = g'.dao.declaration := congrArg Prod.snd hkey
          rw [declaration_of_daoFindings hdao, declaration_of_daoFindings hdao'] at hname
          rw [Catalog.eq_of_qualifiedName_eq hd hd' hname, hdao'] at hdao
          rw [Except.ok.inj hdao]
      | database d' => simp [Origin.key] at hkey
  | database d =>
      cases o' with
      | entity e' => simp [Origin.key] at hkey
      | dao d' => simp [Origin.key] at hkey
      | database d' =>
          have hname : d.declaration = d'.declaration := congrArg Prod.snd hkey
          rw [List.inj_on_of_nodup_map nodup_schema_databases h h' hname]

/-- A run comes to every entity, DAO and database of the schema, and to nothing else. -/
theorem mem_origins_iff {o : Origin} : o ∈ c.schema.origins ↔ c.schema.Holds o := by
  have hholds : ∀ o ∈ c.schema.entities.map Origin.entity ++
      c.schema.databases.flatMap Database.origins, c.schema.Holds o := by
    intro o ho
    rcases List.mem_append.mp ho with ho | ho
    · obtain ⟨e, he, rfl⟩ := List.mem_map.mp ho
      exact he
    · obtain ⟨d, hd, ho⟩ := List.mem_flatMap.mp ho
      exact ResolvedSchema.holds_of_mem_database hd (entities_subset_schema hd) ho
  rw [ResolvedSchema.origins,
    mem_distinctBy_iff fun o ho o' ho' => eq_of_key_eq (hholds o ho) (hholds o' ho')]
  refine ⟨hholds o, fun h => ?_⟩
  rw [List.mem_append, List.mem_flatMap]
  cases o with
  | entity e => exact .inl (List.mem_map_of_mem h)
  | dao d =>
      obtain ⟨database, hdatabase, g, hg, rfl⟩ := h
      refine .inr ⟨database, hdatabase, ?_⟩
      have hmem : Origin.dao g.dao ∈ database.getters.map fun g => Origin.dao g.dao :=
        List.mem_map_of_mem hg
      exact List.mem_append_left _ (List.mem_append_right _ hmem)
  | database d =>
      exact .inr ⟨d, h, List.mem_append_right _ (List.mem_singleton_self _)⟩

end Origins

/-! ## names of units -/

section Names

variable {n : Naming}

/-- Units are named for their origin. -/
theorem Origin.Gives.names_eq {o : Origin} {u v : UnitContent} (h : o.Gives n u v) :
    [u.name.name, v.name.name] = o.names n := by
  cases h with
  | entity htable hmapper =>
      simp only [names, UnitContent.name, TableUnit.name_of htable, MapperUnit.name_of hmapper]
  | dao hqueries hdao =>
      simp only [names, UnitContent.name, QueriesUnit.name_of hqueries, DaoUnit.name_of hdao]
  | database hschema hdatabase =>
      simp only [names, UnitContent.name, SchemaUnit.name_of hschema,
        DatabaseUnit.name_of hdatabase]

end Names

/-! ## steps of a run -/

namespace Progress

variable {n : Naming}

/-- The units of exactly these origins were generated, in this order. -/
structure Done (n : Naming) (os : List Origin) (p : Progress) : Prop where
  entities : ∀ e : Entity,
    (noted? p.entities e.declaration).isSome = true ↔ (Origin.entity e).key ∈ os.map Origin.key
  daos : ∀ d : Dao,
    (noted? p.daos d.declaration).isSome = true ↔ (Origin.dao d).key ∈ os.map Origin.key
  names : p.units.map (fun u => u.name.name) = os.flatMap (Origin.names n)
  gives : ∀ o ∈ os, ∃ u v, o.Gives n u v ∧ u ∈ p.units ∧ v ∈ p.units

theorem done_nil (n : Naming) : Done n [] {} :=
  ⟨fun _ => by simp [noted?], fun _ => by simp [noted?], rfl, fun _ h => nomatch h⟩

theorem isSome_noted?_append {α : Type} {entries : List (String × α)} {name other : String}
    {a : α} : (noted? (entries ++ [(name, a)]) other).isSome = true ↔
      (noted? entries other).isSome = true ∨ other = name := by
  unfold noted?
  rw [List.find?_append]
  by_cases hname : other = name
  · simp [hname]
  · have hmiss : (name == other) = false := beq_false_of_ne fun heq => hname heq.symm
    simp [hmiss, hname]

/-- Everything that generating units can do: nothing, as that was done; report that it failed before;
fail; or take the units in. -/
theorem generateOnce_cases {α : Type} {declaration : String} {isDone : Progress → Bool}
    {units : Except GenerationError α} {add : Progress → α → Progress} {p p' : Progress}
    {found : List Diagnostic}
    (h : ((generateOnce declaration isDone units add).run p).run = (found, p')) :
    (isDone p = true ∧ found = [] ∧ p' = p) ∨
    (declaration ∈ p.failed ∧ found = [dependencyFailed declaration declaration] ∧ p' = p) ∨
    (∃ error, units = .error error ∧ found = [⟨declaration, .generation error⟩] ∧
      p' = { p.meet (.generation error) with failed := p.failed ++ [declaration] }) ∨
    (isDone p = false ∧ found = [] ∧ ∃ u, units = .ok u ∧ p' = add p u) := by
  unfold generateOnce at h
  rw [StateT.run_bind, StateT.run_get, pure_bind] at h
  split at h
  · next hdone =>
    cases h
    exact .inl ⟨hdone, rfl, rfl⟩
  next hnew =>
  split at h
  · next hfailed =>
    cases h
    exact .inr (.inl ⟨List.contains_iff_mem.mp hfailed, rfl, rfl⟩)
  cases units with
  | error error =>
      cases h
      exact .inr (.inr (.inl ⟨error, rfl, rfl, rfl⟩))
  | ok u =>
      cases h
      exact .inr (.inr (.inr ⟨Bool.eq_false_iff.mpr hnew, rfl, u, rfl, rfl⟩))

/-- Without problems it does nothing or takes the units in. -/
theorem generateOnce_nil {α : Type} {declaration : String} {isDone : Progress → Bool}
    {units : Except GenerationError α} {add : Progress → α → Progress} {p p' : Progress}
    (h : ((generateOnce declaration isDone units add).run p).run = ([], p')) :
    (isDone p = true ∧ p' = p) ∨ (isDone p = false ∧ ∃ u, units = .ok u ∧ p' = add p u) := by
  obtain ⟨hdone, -, hp⟩ | ⟨-, hfound, -⟩ | ⟨_, -, hfound, -⟩ | ⟨hnew, -, hunits⟩ :=
    generateOnce_cases h
  · exact .inl ⟨hdone, hp⟩
  · contradiction
  · contradiction
  · exact .inr ⟨hnew, hunits⟩

/-- Two more units of an origin, behind the others. -/
theorem Done.gives_append {os : List Origin} {p : Progress} {o : Origin} {u v : UnitContent}
    {units : List UnitContent} (hp : Done n os p) (h : o.Gives n u v)
    (hunits : units = p.units ++ [u, v]) :
    units.map (fun u => u.name.name) = (os ++ [o]).flatMap (Origin.names n) ∧
    ∀ o' ∈ os ++ [o], ∃ u v, o'.Gives n u v ∧ u ∈ units ∧ v ∈ units := by
  subst hunits
  constructor
  · rw [List.map_append, List.flatMap_append, hp.names, List.flatMap_singleton, ← h.names_eq]
    rfl
  · intro o' ho'
    rcases List.mem_append.mp ho' with hmem | hmem
    · obtain ⟨u', v', hgives, hu', hv'⟩ := hp.gives o' hmem
      exact ⟨u', v', hgives, List.mem_append_left _ hu', List.mem_append_left _ hv'⟩
    · rw [List.mem_singleton] at hmem
      subst hmem
      exact ⟨u, v, h, by simp, by simp⟩

theorem Done.addEntity {os : List Origin} {p : Progress} {e : Entity} {table : TableUnit}
    {mapper : MapperUnit} (hp : Done n os p) (htable : TableUnit.of n e = .ok table)
    (hmapper : MapperUnit.of n e = .ok mapper) :
    Done n (os ++ [.entity e]) (p.addEntity e table mapper) := by
  obtain ⟨hnames, hgives⟩ := hp.gives_append (.entity htable hmapper) rfl
  refine ⟨fun e' => ?_, fun d => ?_, hnames, hgives⟩
  · rw [Progress.addEntity, isSome_noted?_append, hp.entities, List.map_append, List.mem_append]
    simp [Origin.key]
  · rw [Progress.addEntity, hp.daos, List.map_append, List.mem_append]
    simp [Origin.key]

theorem Done.addDao {os : List Origin} {p : Progress} {d : Dao} {queries : QueriesUnit}
    {dao : DaoUnit} (hp : Done n os p) (hqueries : QueriesUnit.of n d = .ok queries)
    (hdao : DaoUnit.of n d = .ok dao) : Done n (os ++ [.dao d]) (p.addDao d queries dao) := by
  obtain ⟨hnames, hgives⟩ := hp.gives_append (.dao hqueries hdao) rfl
  refine ⟨fun e => ?_, fun d' => ?_, hnames, hgives⟩
  · rw [Progress.addDao, hp.entities, List.map_append, List.mem_append]
    simp [Origin.key]
  · rw [Progress.addDao, isSome_noted?_append, hp.daos, List.map_append, List.mem_append]
    simp [Origin.key]

theorem Done.addDatabase {os : List Origin} {p : Progress} {d : Database} {schema : SchemaUnit}
    {database : DatabaseUnit} (hp : Done n os p)
    (h : (Origin.database d).Gives n (.schema schema) (.database database)) :
    Done n (os ++ [.database d]) (p.addDatabase schema database) := by
  obtain ⟨hnames, hgives⟩ := hp.gives_append h rfl
  refine ⟨fun e => ?_, fun d' => ?_, hnames, hgives⟩
  · rw [Progress.addDatabase, hp.entities, List.map_append, List.mem_append]
    simp [Origin.key]
  · rw [Progress.addDatabase, hp.daos, List.map_append, List.mem_append]
    simp [Origin.key]

/-- Units that are generated once come to their origin unless the run came to it before. -/
theorem Done.generateOnce {α : Type} {declaration : String} {isDone : Progress → Bool}
    {units : Except GenerationError α} {add : Progress → α → Progress} {os : List Origin}
    {o : Origin} {p p' : Progress} (hp : Done n os p)
    (hdone : isDone p = true ↔ o.key ∈ os.map Origin.key)
    (hadd : ∀ u, units = .ok u → Done n (os ++ [o]) (add p u))
    (h : ((Progress.generateOnce declaration isDone units add).run p).run = ([], p')) :
    Done n (keepNew Origin.key os o) p' := by
  obtain ⟨hbefore, rfl⟩ | ⟨hnew, u, hunits, rfl⟩ := generateOnce_nil h
  · have hsame : keepNew Origin.key os o = os := if_pos (hdone.mp hbefore)
    rw [hsame]
    exact hp
  · have hkey : o.key ∉ os.map Origin.key := by
      rw [← hdone, hnew]
      exact Bool.false_ne_true
    have hlonger : keepNew Origin.key os o = os ++ [o] := if_neg hkey
    rw [hlonger]
    exact hadd u hunits

theorem Done.ensureEntity {os : List Origin} {p p' : Progress} {e : Entity} (hp : Done n os p)
    (h : ((ensureEntity n e).run p).run = ([], p')) :
    Done n (keepNew Origin.key os (.entity e)) p' := by
  unfold Progress.ensureEntity at h
  refine hp.generateOnce (hp.entities e) ?_ h
  intro u hu
  obtain ⟨table, htable, hu⟩ := bind_eq_ok hu
  obtain ⟨mapper, hmapper, hu⟩ := bind_eq_ok hu
  cases hu
  exact hp.addEntity htable hmapper

theorem Done.ensureDao {os : List Origin} {p p' : Progress} {d : Dao} (hp : Done n os p)
    (h : ((ensureDao n d).run p).run = ([], p')) : Done n (keepNew Origin.key os (.dao d)) p' := by
  unfold Progress.ensureDao at h
  refine hp.generateOnce (hp.daos d) ?_ h
  intro u hu
  obtain ⟨queries, hqueries, hu⟩ := bind_eq_ok hu
  obtain ⟨dao, hdao, hu⟩ := bind_eq_ok hu
  cases hu
  exact hp.addDao hqueries hdao

/-- Steps in a row: what each of them extends by its item, and by the problems that it finds, holds of
all items and all problems. -/
theorem run_mapM_extends {α : Type} {f : α → StateM Progress (List Diagnostic)} {xs : List α}
    {P : List α → List Diagnostic → Progress → Prop} {p p' : Progress}
    {found : List (List Diagnostic)}
    (hstep : ∀ before x after found p new p', before ++ x :: after = xs → P before found p →
      ((f x).run p).run = (new, p') → P (before ++ [x]) (found ++ new) p')
    (hp : P [] [] p) (h : ((xs.mapM f).run p).run = (found, p')) : P xs found.flatten p' := by
  have key : ∀ after before earlier p found, before ++ after = xs → P before earlier p →
      ((after.mapM f).run p).run = (found, p') → P xs (earlier ++ found.flatten) p' := by
    intro after
    induction after with
    | nil =>
        intro before earlier p found hxs hp h
        rw [List.append_nil] at hxs
        rw [List.mapM_nil] at h
        cases h
        rw [← hxs, List.flatten_nil, List.append_nil]
        exact hp
    | cons x after ih =>
        intro before earlier p found hxs hp h
        rw [List.mapM_cons, StateT.run_bind, Id.run_bind] at h
        rcases hx : ((f x).run p).run with ⟨first, p₁⟩
        rw [hx] at h
        rcases hrest : ((after.mapM f).run p₁).run with ⟨rest, p₂⟩
        rw [StateT.run_bind, Id.run_bind, hrest] at h
        cases h
        have hx' := hstep before x after earlier p first p₁ hxs hp hx
        rw [List.append_cons] at hxs
        rw [List.flatten_cons, ← List.append_assoc]
        exact ih (before ++ [x]) (earlier ++ first) p₁ rest hxs hx' hrest
  exact key xs [] [] p found rfl hp h

/-- Steps in a row that find no problem. -/
theorem run_mapM_nil {α : Type} {f : α → StateM Progress (List Diagnostic)} {xs : List α}
    {P : List α → Progress → Prop} {p p' : Progress} {found : List (List Diagnostic)}
    (hstep : ∀ before x after p p', before ++ x :: after = xs → P before p →
      ((f x).run p).run = ([], p') → P (before ++ [x]) p')
    (hp : P [] p) (h : ((xs.mapM f).run p).run = (found, p')) (hfound : found.flatten = []) :
    P xs p' := by
  refine run_mapM_extends (P := fun before found p => found = [] → P before p) ?_ (fun _ => hp) h
    hfound
  intro before x after found p new p' hxs hp hx hnone
  obtain ⟨hearlier, rfl⟩ := List.append_eq_nil_iff.mp hnone
  exact hstep before x after p p' hxs (hp hearlier) hx

/-- Steps that come to an origin each come to all of them. -/
theorem Done.mapM {α : Type} {f : α → StateM Progress (List Diagnostic)} {origin : α → Origin}
    (hstep : ∀ x os p p', Done n os p → ((f x).run p).run = ([], p') →
      Done n (keepNew Origin.key os (origin x)) p') {xs : List α} {os : List Origin}
    {p p' : Progress} {found : List (List Diagnostic)} (hp : Done n os p)
    (h : ((xs.mapM f).run p).run = (found, p')) (hfound : found.flatten = []) :
    Done n (keepAll Origin.key os (xs.map origin)) p' := by
  refine run_mapM_nil (P := fun before => Done n (keepAll Origin.key os (before.map origin)))
    ?_ hp h hfound
  intro before x after p p' _ hp hx
  rw [List.map_append, keepAll_append]
  exact hstep x _ p p' hp hx

/-- Everything that a database can do after its entities and DAOs: report their problems; or, if there
was none, report one of its own, or give its units. -/
theorem ensureDatabase_outcomes {p p' : Progress} {d : Database} {found : List Diagnostic}
    (h : ((ensureDatabase n d).run p).run = (found, p')) :
    ∃ ofEntities p₁ ofDaos p₂,
      ((d.entities.mapM (ensureEntity n)).run p).run = (ofEntities, p₁) ∧
      ((d.getters.mapM fun g => ensureDao n g.dao).run p₁).run = (ofDaos, p₂) ∧
      ((found = ofEntities.flatten ++ ofDaos.flatten ∧ found ≠ [] ∧ p' = p₂) ∨
        (ofEntities.flatten = [] ∧ ofDaos.flatten = [] ∧ (
          (∃ error, databaseUnits n p₂ d = .error error ∧ found = [⟨d.declaration, error⟩] ∧
            p' = p₂.meet error) ∨
          ∃ schema database, databaseUnits n p₂ d = .ok (schema, database) ∧ found = [] ∧
            p' = p₂.addDatabase schema database))) := by
  unfold ensureDatabase at h
  rw [StateT.run_bind, Id.run_bind] at h
  rcases hentities : ((d.entities.mapM (ensureEntity n)).run p).run with ⟨ofEntities, p₁⟩
  rw [hentities, StateT.run_bind, Id.run_bind] at h
  rcases hdaos : ((d.getters.mapM fun g => ensureDao n g.dao).run p₁).run with ⟨ofDaos, p₂⟩
  rw [hdaos] at h
  simp only at h
  refine ⟨ofEntities, p₁, ofDaos, p₂, rfl, hdaos, ?_⟩
  split at h
  · next hnone =>
    obtain ⟨hfirst, hsecond⟩ := List.append_eq_nil_iff.mp hnone
    rw [StateT.run_bind, StateT.run_get, pure_bind] at h
    cases hunits : databaseUnits n p₂ d with
    | error error =>
        simp only [hunits] at h
        cases h
        exact .inr ⟨hfirst, hsecond, .inl ⟨error, rfl, rfl, rfl⟩⟩
    | ok units =>
        simp only [hunits] at h
        cases h
        exact .inr ⟨hfirst, hsecond, .inr ⟨units.1, units.2, rfl, rfl, rfl⟩⟩
  · next hsome =>
    cases h
    exact .inl ⟨rfl, hsome, rfl⟩

/-- The problems of a database and its units, apart from each other. -/
theorem ensureDatabase_cases {p p' : Progress} {d : Database} {found : List Diagnostic}
    (h : ((ensureDatabase n d).run p).run = (found, p')) :
    ∃ ofEntities p₁ ofDaos p₂,
      ((d.entities.mapM (ensureEntity n)).run p).run = (ofEntities, p₁) ∧
      ((d.getters.mapM fun g => ensureDao n g.dao).run p₁).run = (ofDaos, p₂) ∧
      (found = ofEntities.flatten ++ ofDaos.flatten ∨ ∃ error,
        databaseUnits n p₂ d = .error error ∧ found = [⟨d.declaration, error⟩]) ∧
      ((found ≠ [] ∧ ∃ stop, p' = { p₂ with untilStop := stop }) ∨
        (ofEntities.flatten = [] ∧ ofDaos.flatten = [] ∧ ∃ schema database,
          databaseUnits n p₂ d = .ok (schema, database) ∧
            p' = p₂.addDatabase schema database)) := by
  obtain ⟨ofEntities, p₁, ofDaos, p₂, hentities, hdaos, houtcome⟩ := ensureDatabase_outcomes h
  refine ⟨ofEntities, p₁, ofDaos, p₂, hentities, hdaos, ?_⟩
  obtain ⟨hfound, hsome, hp⟩ | ⟨hfirst, hsecond, ⟨error, hunits, hfound, hp⟩ | ⟨schema, database,
    hunits, hfound, hp⟩⟩ := houtcome
  · exact ⟨.inl hfound, .inl ⟨hsome, _, hp⟩⟩
  · exact ⟨.inr ⟨error, hunits, hfound⟩, .inl ⟨hfound ▸ List.cons_ne_nil _ _, _, hp⟩⟩
  · refine ⟨.inl ?_, .inr ⟨hfirst, hsecond, schema, database, hunits, hp⟩⟩
    rw [hfound, hfirst, hsecond]
    rfl

theorem databaseUnits_gives {p : Progress} {d : Database} {schema : SchemaUnit}
    {database : DatabaseUnit} (h : databaseUnits n p d = .ok (schema, database)) :
    (Origin.database d).Gives n (.schema schema) (.database database) := by
  obtain ⟨mappers, -, h⟩ := bind_eq_ok h
  obtain ⟨queries, -, h⟩ := bind_eq_ok h
  obtain ⟨schema', hschema, h⟩ := bind_eq_ok h
  obtain ⟨database', hdatabase, h⟩ := bind_eq_ok h
  cases h
  exact .database (composing_eq_ok hschema) hdatabase

theorem key_mem_origins_iff {d d' : Database} :
    (Origin.database d).key ∈ d'.origins.map Origin.key ↔ d.declaration = d'.declaration := by
  simp [Database.origins, Origin.key]

/-- No database is come to again, as no declaration comes twice. -/
theorem key_notMem_origins {before after : List Database} {d : Database}
    (h : ((before ++ d :: after).map Database.declaration).Nodup) :
    (Origin.database d).key ∉ (before.flatMap Database.origins).map Origin.key := by
  intro hmem
  rw [List.map_flatMap, List.mem_flatMap] at hmem
  obtain ⟨d', hd', hmem⟩ := hmem
  have hname := key_mem_origins_iff.mp hmem
  rw [List.map_append, List.map_cons, List.nodup_append] at h
  exact h.2.2 _ (List.mem_map_of_mem hd') _ List.mem_cons_self hname.symm

/-- The entities and DAOs of a database have other keys, as their kinds differ. -/
theorem key_notMem_entities_daos (d : Database) :
    (Origin.database d).key ∉ (d.entities.map Origin.entity ++
      d.getters.map fun g => Origin.dao g.dao).map Origin.key := by
  simp [Origin.key]

theorem Done.ensureDatabase {os : List Origin} {p p' : Progress} {d : Database} (hp : Done n os p)
    (h : ((ensureDatabase n d).run p).run = ([], p'))
    (hnew : (Origin.database d).key ∉ os.map Origin.key) :
    Done n (keepAll Origin.key os d.origins) p' := by
  obtain ⟨_, p₁, _, p₂, hentities, hdaos, -, ⟨hfound, -⟩ | ⟨hfirst, hsecond, schema, database,
    hunits, rfl⟩⟩ := ensureDatabase_cases h
  · contradiction
  have hp₁ := hp.mapM (fun e _ _ _ h h' => h.ensureEntity h') hentities hfirst
  have hp₂ := hp₁.mapM (fun g _ _ _ h h' => h.ensureDao h') hdaos hsecond
  rw [← keepAll_append] at hp₂
  have hkey : (Origin.database d).key ∉ (keepAll Origin.key os (d.entities.map Origin.entity ++
      d.getters.map fun g => Origin.dao g.dao)).map Origin.key := by
    rw [mem_map_keepAll]
    rintro (hmem | hmem)
    · exact hnew hmem
    · exact key_notMem_entities_daos d hmem
  have hlonger : keepAll Origin.key os d.origins = keepAll Origin.key os
      (d.entities.map Origin.entity ++ d.getters.map fun g => Origin.dao g.dao) ++
        [.database d] := by
    rw [Database.origins, keepAll_append]
    exact if_neg hkey
  rw [hlonger]
  exact hp₂.addDatabase (databaseUnits_gives hunits)

theorem Done.databases {ds : List Database} {os : List Origin} {p p' : Progress}
    {found : List (List Diagnostic)} (hp : Done n os p)
    (h : ((ds.mapM (Progress.ensureDatabase n)).run p).run = (found, p'))
    (hfound : found.flatten = []) (hds : (ds.map Database.declaration).Nodup)
    (hnew : ∀ d ∈ ds, (Origin.database d).key ∉ os.map Origin.key) :
    Done n (keepAll Origin.key os (ds.flatMap Database.origins)) p' := by
  refine run_mapM_nil
    (P := fun before => Done n (keepAll Origin.key os (before.flatMap Database.origins)))
    ?_ hp h hfound
  intro before d after p p' hsplit hp hd
  rw [List.flatMap_append, List.flatMap_singleton, keepAll_append]
  refine hp.ensureDatabase hd ?_
  rw [mem_map_keepAll]
  rintro (hmem | hmem)
  · exact hnew d (by rw [← hsplit]; simp) hmem
  · rw [← hsplit] at hds
    exact key_notMem_origins hds hmem

end Progress

/-! ## whole runs -/

variable {c : Catalog} {n : Naming}

/-- A run that has an outcome met no name that would stop it. -/
theorem compile_eq_ok {o : Options} {r : Compilation} (h : c.compile o = .ok r) :
    ∃ n, Naming.ofOptions o = .ok n ∧ r = c.compileWith n ∧ (c.compileWith n).stop? = none := by
  obtain ⟨n, hn, h⟩ := bind_eq_ok h
  have hnaming : Naming.ofOptions o = .ok n := by
    cases hof : Naming.ofOptions o with
    | error cause =>
        rw [hof] at hn
        contradiction
    | ok n' =>
        rw [hof] at hn
        exact congrArg Except.ok (Except.ok.inj hn)
  cases hstop : (c.compileWith n).stop? with
  | some name =>
      simp only [hstop] at h
      contradiction
  | none =>
      simp only [hstop] at h
      cases h
      exact ⟨n, hnaming, rfl, hstop⟩

/-- The outcome is that of the run with the naming that the options ask for. -/
theorem compile_of_isSome {o : Options} (hn : Naming.ofOptions o = .ok n)
    (h : (c.compile o).toOption.isSome = true) : c.compile o = .ok (c.compileWith n) := by
  obtain ⟨r, hr⟩ := Option.isSome_iff_exists.mp h
  obtain ⟨n', hn', rfl, -⟩ := compile_eq_ok (eq_ok_of_toOption hr)
  obtain rfl := Except.ok.inj (hn'.symm.trans hn)
  exact eq_ok_of_toOption hr

/-- A run comes to the entities of its schema, then to the databases. -/
theorem compileWith_steps (c : Catalog) (n : Naming) : ∃ ofEntities p₁ ofDatabases p₂,
    ((c.schema.entities.mapM (Progress.ensureEntity n)).run {}).run = (ofEntities, p₁) ∧
    ((c.schema.databases.mapM (Progress.ensureDatabase n)).run p₁).run = (ofDatabases, p₂) ∧
    (c.compileWith n).report.diagnostics =
      distinct (c.schema.diagnostics ++ ofEntities.flatten ++ ofDatabases.flatten) ∧
    (c.compileWith n).contents = p₂.units := by
  rcases hentities : ((c.schema.entities.mapM (Progress.ensureEntity n)).run {}).run with
    ⟨ofEntities, p₁⟩
  rcases hdatabases : ((c.schema.databases.mapM (Progress.ensureDatabase n)).run p₁).run with
    ⟨ofDatabases, p₂⟩
  have hrun : ((c.schema.process (Progress.handler n)).run {}).run = (⟨c.schema.entities.length,
      c.schema.databases.length,
      distinct (c.schema.diagnostics ++ ofEntities.flatten ++ ofDatabases.flatten)⟩, p₂) := by
    unfold ResolvedSchema.process Progress.handler
    rw [StateT.run_bind, Id.run_bind, hentities, StateT.run_bind, Id.run_bind, hdatabases]
    rfl
  refine ⟨ofEntities, p₁, ofDatabases, p₂, rfl, hdatabases, ?_, ?_⟩
  · rw [Catalog.compileWith, hrun]
  · rw [Catalog.compileWith, hrun]

/-- A run without problems generates the units of the origins of its schema. -/
theorem done_compileWith (h : (c.compileWith n).report.diagnostics = []) :
    ∃ p, Progress.Done n c.schema.origins p ∧ (c.compileWith n).contents = p.units := by
  obtain ⟨ofEntities, p₁, ofDatabases, p₂, hentities, hdatabases, hreport, hcontents⟩ :=
    compileWith_steps c n
  rw [hreport] at h
  simp only [distinct_eq_nil_iff, List.append_eq_nil_iff] at h
  refine ⟨p₂, ?_, hcontents⟩
  have hfirst := (Progress.done_nil n).mapM (fun e _ _ _ h h' => h.ensureEntity h') hentities h.1.2
  rw [ResolvedSchema.origins, distinctBy_eq_keepAll, keepAll_append]
  refine hfirst.databases hdatabases h.2 nodup_schema_databases fun d _ hmem => ?_
  rw [mem_map_keepAll] at hmem
  simp [Origin.key] at hmem

/-- No unit of the run was lost: their names do not repeat, and a store that took all of them holds the
two units of each entity and database of the schema, and of each DAO that a database gives out. -/
structure Compilation.LosesNothing (r : Compilation) (n : Naming) (s : ResolvedSchema) : Prop where
  nodup : (r.units.map GeneratedUnit.qualifiedName).Nodup
  holds : ∀ o, s.Holds o → ∃ u v, o.Gives n u v ∧
    u.generated n ∈ (UnitStore.ofList r.units).units ∧
    v.generated n ∈ (UnitStore.ofList r.units).units

theorem qualified_injective (n : Naming) : Function.Injective n.qualified := by
  intro name name' h
  have hlists : (n.outputModule ++ "::" ++ name).toList = (n.outputModule ++ "::" ++ name').toList :=
    congrArg String.toList h
  simp only [String.toList_append] at hlists
  exact String.toList_injective (List.append_cancel_left hlists)

/-- **When no unit is lost**: a run without problems loses no unit iff the names of the units are
distinct. The names are those of the entities, DAOs and databases of the schema with their suffixes;
neither the options nor the catalog keep two of them from being equal. -/
theorem compile_losesNothing_iff {o : Options} {r : Compilation} (h : c.compile o = .ok r)
    (hclean : r.report.diagnostics = []) :
    ∃ n, Naming.ofOptions o = .ok n ∧
      (r.LosesNothing n c.schema ↔ (c.schema.origins.flatMap (Origin.names n)).Nodup) := by
  obtain ⟨n, hn, rfl, -⟩ := compile_eq_ok h
  refine ⟨n, hn, ?_⟩
  obtain ⟨p, hdone, hcontents⟩ := done_compileWith hclean
  have hunits : (c.compileWith n).units = p.units.map (UnitContent.generated n) := by
    rw [← hcontents]
    rfl
  have hnames : (c.compileWith n).units.map GeneratedUnit.qualifiedName =
      (c.schema.origins.flatMap (Origin.names n)).map n.qualified := by
    rw [hunits, List.map_map, ← hdone.names, List.map_map]
    rfl
  constructor
  · intro hkept
    have hnodup := hkept.nodup
    rw [hnames] at hnodup
    exact hnodup.of_map _
  · intro hdistinct
    have hnodup : ((c.compileWith n).units.map GeneratedUnit.qualifiedName).Nodup := by
      rw [hnames]
      exact hdistinct.map (qualified_injective n)
    refine ⟨hnodup, fun o ho => ?_⟩
    obtain ⟨u, v, hgives, hu, hv⟩ := hdone.gives o (mem_origins_iff.mpr ho)
    rw [UnitStore.ofList_units_of_nodup hnodup, hunits]
    exact ⟨u, v, hgives, List.mem_map_of_mem hu, List.mem_map_of_mem hv⟩

/-- An entity and a database of it. -/
def storeCatalog : Catalog where
  declarations :=
    [{ qualifiedName := "app::User"
       annotations := [{ name := "Entity" }]
       properties :=
        [{ name := "id", type := .ofName "i64", annotations := [{ name := "PrimaryKey" }] }] },
      { qualifiedName := "app::Store"
        kind := .trait
        annotations :=
          [{ name := "Database"
             arguments :=
              [("entities", .array [.type (.ofName "app::User")]), ("version", .integer 1)] }] }]
  nodup := by decide

/-- Options by which the two units of a database are named alike. -/
def alikeOptions : Options := { suffixes := { schema := "Impl" } }

/-- Of the two units of the database one is lost, and no problem is reported. -/
theorem compile_loses_database :
    ∃ r n, storeCatalog.compile alikeOptions = .ok r ∧ r.report.diagnostics = [] ∧
      Naming.ofOptions alikeOptions = .ok n ∧ ¬ r.LosesNothing n storeCatalog.schema := by
  have hrun : (storeCatalog.compile alikeOptions).toOption.map (·.report.diagnostics) = some [] := by
    decide +kernel
  have hnames : (Naming.ofOptions alikeOptions).toOption.map (fun n =>
      decide (storeCatalog.schema.origins.flatMap (Origin.names n)).Nodup) = some false := by
    decide +kernel
  obtain ⟨r, hr, hclean⟩ := Option.map_eq_some_iff.mp hrun
  have hcompile := eq_ok_of_toOption hr
  obtain ⟨n, hn, hiff⟩ := compile_losesNothing_iff hcompile hclean
  rw [hn] at hnames
  have hrepeats := of_decide_eq_false (Option.some.inj hnames)
  exact ⟨r, n, hcompile, hclean, hn, fun hkept => hrepeats (hiff.mp hkept)⟩

end DaoForge
