import DaoForge.Proofs.Faults
import DaoForge.Proofs.Resolve.Anchored

/-!
# DaoForge.Proofs.Emission

Units are emitted in pairs, or not at all.

1. `Paired`: units that were emitted pair by pair. Of origins that are told apart each has its two units
   next to each other and no others (`Paired.emittedIn`), and every unit is of one of them
   (`Paired.owner`);
2. `Progress.Tally`: what a run has emitted, reported and met so far. Each step keeps it
   (`Tally.ensureEntity`, `Tally.ensureDao`, `Tally.ensureDatabase`), hence `tally_compileWith`;
3. `compile_all_or_nothing`: what is left out was reported, and no entity is reported that has units. A
   problem of the resolution at a member can look as if it were that of an entity
   (`compile_reports_member_as_entity`).
-/

namespace DaoForge

/-! ## pairs of units -/

namespace Origin

/-- Qualified name of the declaration. -/
def declaration (o : Origin) : String := o.key.2

/-- The kinds of the two units. -/
def kinds : Origin → List UnitKind
  | .entity _ => [.table, .mapper]
  | .dao _ => [.queries, .dao]
  | .database _ => [.schema, .database]

/-- The unit is of the origin's declaration, and of a kind that is generated from it. -/
structure Owns (o : Origin) (u : UnitContent) : Prop where
  kind : u.kind ∈ o.kinds
  declaration : u.declaration = o.declaration

/-- The two units are next to each other, and there is no other unit of the origin. -/
def EmittedIn (n : Naming) (o : Origin) (units : List UnitContent) : Prop :=
  ∃ before u v after, units = before ++ u :: v :: after ∧ o.Gives n u v ∧
    ∀ w ∈ before ++ after, ¬ o.Owns w

/-- There is no unit of the origin. -/
def AbsentFrom (o : Origin) (units : List UnitContent) : Prop := ∀ u ∈ units, ¬ o.Owns u

section Owners

variable {n : Naming} {o o' : Origin} {u v w : UnitContent}

theorem owns_table {e : Entity} {u : TableUnit} (h : TableUnit.of n e = .ok u) :
    (Origin.entity e).Owns (.table u) := by
  obtain ⟨name, -, h⟩ := bind_eq_ok h
  cases h
  exact ⟨by simp [kinds, UnitContent.kind], rfl⟩

theorem owns_mapper {e : Entity} {u : MapperUnit} (h : MapperUnit.of n e = .ok u) :
    (Origin.entity e).Owns (.mapper u) :=
  ⟨by simp [kinds, UnitContent.kind], (MapperUnit.adapters_of h).2.1⟩

theorem owns_queries {d : Dao} {u : QueriesUnit} (h : QueriesUnit.of n d = .ok u) :
    (Origin.dao d).Owns (.queries u) :=
  ⟨by simp [kinds, UnitContent.kind], (QueriesUnit.fields_of h).2.1⟩

theorem owns_dao {d : Dao} {u : DaoUnit} (h : DaoUnit.of n d = .ok u) : (Origin.dao d).Owns (.dao u) := by
  obtain ⟨name, -, h⟩ := bind_eq_ok h
  obtain ⟨queries, -, h⟩ := bind_eq_ok h
  obtain ⟨daoTrait, -, h⟩ := bind_eq_ok h
  obtain ⟨functions, -, h⟩ := bind_eq_ok h
  cases h
  exact ⟨by simp [kinds, UnitContent.kind], rfl⟩

theorem owns_schema {d : Database} {u : SchemaUnit} (h : SchemaUnit.of n d = .ok u) :
    (Origin.database d).Owns (.schema u) := by
  obtain ⟨name, -, h⟩ := bind_eq_ok h
  obtain ⟨tables, -, h⟩ := bind_eq_ok h
  cases h
  exact ⟨by simp [kinds, UnitContent.kind], rfl⟩

theorem owns_database {d : Database} {mappers : List MapperWiring} {queries : List QueriesWiring}
    {u : DatabaseUnit} (h : DatabaseUnit.of n d mappers queries = .ok u) :
    (Origin.database d).Owns (.database u) :=
  ⟨by simp [kinds, UnitContent.kind], (DatabaseUnit.parts_of h).declaration⟩

theorem Gives.owns (h : o.Gives n u v) : o.Owns u ∧ o.Owns v := by
  cases h with
  | entity htable hmapper => exact ⟨owns_table htable, owns_mapper hmapper⟩
  | dao hqueries hdao => exact ⟨owns_queries hqueries, owns_dao hdao⟩
  | database hschema hdatabase => exact ⟨owns_schema hschema, owns_database hdatabase⟩

/-- A unit is of one origin only. -/
theorem Owns.key_eq (h : o.Owns w) (h' : o'.Owns w) : o.key = o'.key := by
  have hname : o.key.2 = o'.key.2 := h.declaration.symm.trans h'.declaration
  have hkind : ∀ k ∈ o.kinds, k ∈ o'.kinds → o.key.1 = o'.key.1 := by
    cases o <;> cases o' <;> simp [kinds, key]
  exact Prod.ext (hkind _ h.kind h'.kind) hname

theorem not_absentFrom_of_emittedIn {units : List UnitContent} (h : o.EmittedIn n units) :
    ¬ o.AbsentFrom units := by
  obtain ⟨before, u, v, after, rfl, hgives, -⟩ := h
  exact fun habsent => habsent u (by simp) hgives.owns.1

end Owners

end Origin

/-- Units that were emitted two by two for these origins. -/
inductive Paired (n : Naming) : List Origin → List UnitContent → Prop where
  | nil : Paired n [] []
  | concat {os : List Origin} {units : List UnitContent} {o : Origin} {u v : UnitContent}
      (h : Paired n os units) (hgives : o.Gives n u v) : Paired n (os ++ [o]) (units ++ [u, v])

namespace Paired

variable {n : Naming} {os : List Origin} {units : List UnitContent} {o : Origin}

/-- Every unit is of one of the origins. -/
theorem owner (h : Paired n os units) {w : UnitContent} (hw : w ∈ units) : ∃ o ∈ os, o.Owns w := by
  induction h with
  | nil => contradiction
  | @concat os units o u v _ hgives ih =>
      rcases List.mem_append.mp hw with hw | hw
      · obtain ⟨o', ho', howns⟩ := ih hw
        exact ⟨o', List.mem_append_left _ ho', howns⟩
      · refine ⟨o, List.mem_append_right _ (List.mem_singleton_self o), ?_⟩
        obtain ⟨hu, hv⟩ := hgives.owns
        rcases List.mem_cons.mp hw with rfl | hw
        · exact hu
        · rw [List.mem_singleton] at hw
          exact hw ▸ hv

theorem absentFrom (h : Paired n os units) (ho : o.key ∉ os.map Origin.key) : o.AbsentFrom units := by
  intro w hw howns
  obtain ⟨o', ho', howns'⟩ := h.owner hw
  exact ho (List.mem_map.mpr ⟨o', ho', howns'.key_eq howns⟩)

theorem emittedIn (h : Paired n os units) (hnodup : (os.map Origin.key).Nodup) (ho : o ∈ os) :
    o.EmittedIn n units := by
  induction h with
  | nil => contradiction
  | @concat os units last u v hpaired hgives ih =>
      rw [List.map_append, List.map_singleton, ← List.concat_eq_append, List.nodup_concat] at hnodup
      obtain ⟨hnew, hnodup⟩ := hnodup
      rcases List.mem_append.mp ho with ho | ho
      · -- the units of another origin come behind
        obtain ⟨before, u', v', after, rfl, hgives', hothers⟩ := ih hnodup ho
        refine ⟨before, u', v', after ++ [u, v], by simp, hgives', ?_⟩
        have hforeign : ∀ w, last.Owns w → ¬ o.Owns w := by
          intro w hlast howns
          exact hnew (List.mem_map.mpr ⟨o, ho, howns.key_eq hlast⟩)
        obtain ⟨hu, hv⟩ := hgives.owns
        rw [← List.append_assoc, List.forall_mem_append]
        refine ⟨hothers, ?_⟩
        exact List.forall_mem_cons.mpr ⟨hforeign u hu, List.forall_mem_singleton.mpr (hforeign v hv)⟩
      · rw [List.mem_singleton] at ho
        subst ho
        refine ⟨units, u, v, [], rfl, hgives, ?_⟩
        rw [List.append_nil]
        exact hpaired.absentFrom hnew

end Paired

/-! ## reports -/

/-- A problem of the generation family is anchored at the declaration. -/
def Reported (found : List Diagnostic) (declaration : String) : Prop :=
  ∃ error, ⟨declaration, .generation error⟩ ∈ found

theorem reported_append {found new : List Diagnostic} {declaration : String} :
    Reported (found ++ new) declaration ↔ Reported found declaration ∨ Reported new declaration := by
  simp only [Reported, List.mem_append, exists_or]

theorem not_reported_nil (declaration : String) : ¬ Reported [] declaration := by
  simp [Reported]

theorem not_reported_dependencyFailed (anchor name declaration : String) :
    ¬ Reported [dependencyFailed anchor name] declaration := by
  simp [Reported, dependencyFailed]

theorem reported_singleton {anchor declaration : String} {error : SpecError} :
    Reported [⟨anchor, error⟩] declaration → declaration = anchor := by
  rintro ⟨error', h⟩
  rw [List.mem_singleton] at h
  cases h
  rfl

/-! ## names of entities -/

section Names

variable {c : Catalog}

theorem trait_of_daoFindings {d : Declaration} {dao : Dao} (h : c.daoFindings d = .ok dao) :
    d.isTrait = true := by
  unfold Catalog.daoFindings Catalog.resolveDao at h
  split at h
  · contradiction
  split at h
  · contradiction
  · next htrait => simpa using htrait

theorem trait_of_database? {d : Declaration} {database : Database}
    (h : c.database? d = some database) : d.isTrait = true := by
  unfold Catalog.database? at h
  split at h
  · next htrait => exact htrait
  · contradiction

/-- Entities are structs, DAOs and databases are traits. -/
theorem eq_entity_of_declaration_eq {e : Entity} {o : Origin} (he : e ∈ c.schema.entities)
    (ho : c.schema.Holds o) (hname : e.declaration = o.declaration) : o = .entity e := by
  obtain ⟨d, hd, hdeclaration, hstruct, -⟩ := declaration_of_mem_schema he
  have hother : ∀ d' ∈ c.declarations, d'.qualifiedName = o.declaration → d'.isTrait ≠ true := by
    intro d' hd' hname' htrait
    have hsame := Catalog.eq_of_qualifiedName_eq hd hd' (hdeclaration.trans (hname.trans hname'.symm))
    rw [hsame, htrait] at hstruct
    contradiction
  cases o with
  | entity e' => rw [eq_of_declaration_eq he ho hname]
  | dao dao =>
      obtain ⟨database, hdatabase, g, hg, rfl⟩ := ho
      obtain ⟨_, -, hfound⟩ := mem_schema_databases hdatabase
      obtain ⟨d', hd', hdao⟩ := mem_getters_of_database? hfound hg
      exact absurd (trait_of_daoFindings hdao)
        (hother d' hd' (declaration_of_daoFindings hdao).symm)
  | database database =>
      obtain ⟨d', hd', hfound⟩ := mem_schema_databases ho
      obtain ⟨_, -, -, hdeclaration', -⟩ := database?_eq_some hfound
      exact absurd (trait_of_database? hfound) (hother d' hd' hdeclaration'.symm)

end Names

/-! ## what a run keeps -/

namespace Progress

variable {c : Catalog} {n : Naming} {visited os : List Origin} {found new : List Diagnostic}
  {p p' : Progress} {o : Origin}

/-- A run has met the origins `visited` and has emitted the units of the origins `os`. -/
structure Tally (c : Catalog) (n : Naming) (visited os : List Origin) (found : List Diagnostic)
    (p : Progress) : Prop where
  done : Done n os p
  paired : Paired n os p.units
  nodup : (os.map Origin.key).Nodup
  emitted : os ⊆ visited
  holds : ∀ o ∈ visited, c.schema.Holds o
  failed : ∀ name ∈ p.failed, Reported found name
  /-- Only entities are reported whose code cannot be composed. -/
  faults : ∀ e ∈ c.schema.entities, Reported found e.declaration → ¬ e.Composes n
  /-- Entities and DAOs that were met have units, or were reported. -/
  met : ∀ o ∈ visited, o.key.1 ≠ .schema → o.key ∈ os.map Origin.key ∨ Reported found o.declaration

theorem tally_nil (c : Catalog) (n : Naming) : Tally c n [] [] [] {} where
  done := done_nil n
  paired := .nil
  nodup := List.nodup_nil
  emitted := List.Subset.refl _
  holds _ h := nomatch h
  failed _ h := nomatch h
  faults e _ h := absurd h (not_reported_nil e.declaration)
  met _ h := nomatch h

namespace Tally

/-- An origin is met, and nothing is emitted. -/
theorem visit (hp : Tally c n visited os found p) (ho : c.schema.Holds o)
    (hfaults : ∀ e ∈ c.schema.entities, Reported new e.declaration → ¬ e.Composes n)
    (hmet : o.key.1 ≠ .schema → o.key ∈ os.map Origin.key ∨ Reported (found ++ new) o.declaration) :
    Tally c n (visited ++ [o]) os (found ++ new) p where
  done := hp.done
  paired := hp.paired
  nodup := hp.nodup
  emitted := List.subset_append_of_subset_left _ hp.emitted
  holds := List.forall_mem_append.mpr ⟨hp.holds, List.forall_mem_singleton.mpr ho⟩
  failed name hname := reported_append.mpr (.inl (hp.failed name hname))
  faults e he h := (reported_append.mp h).elim (hp.faults e he) (hfaults e he)
  met := by
    refine List.forall_mem_append.mpr ⟨fun o' ho' hkind => ?_, List.forall_mem_singleton.mpr hmet⟩
    exact (hp.met o' ho' hkind).imp_right fun h => reported_append.mpr (.inl h)

/-- It does not matter where the run would stop. -/
theorem meet (hp : Tally c n visited os found p) (error : SpecError) :
    Tally c n visited os found (p.meet error) :=
  { hp with done := ⟨hp.done.entities, hp.done.daos, hp.done.names, hp.done.gives⟩ }

/-- What was reported now counts as failed. -/
theorem fail (hp : Tally c n visited os found p) {name : String} (h : Reported found name) :
    Tally c n visited os found { p with failed := p.failed ++ [name] } :=
  { hp with
    done := ⟨hp.done.entities, hp.done.daos, hp.done.names, hp.done.gives⟩
    failed := List.forall_mem_append.mpr ⟨hp.failed, List.forall_mem_singleton.mpr h⟩ }

/-- The units of an origin are emitted, behind the others. -/
theorem add (hp : Tally c n visited os found p) (ho : c.schema.Holds o)
    (hnew : o.key ∉ os.map Origin.key) {u v : UnitContent} (hgives : o.Gives n u v)
    (hdone : Done n (os ++ [o]) p') (hunits : p'.units = p.units ++ [u, v])
    (hfailed : p'.failed = p.failed) : Tally c n (visited ++ [o]) (os ++ [o]) found p' where
  done := hdone
  paired := hunits ▸ hp.paired.concat hgives
  nodup := by
    rw [List.map_append, List.map_singleton, ← List.concat_eq_append, List.nodup_concat]
    exact ⟨hnew, hp.nodup⟩
  emitted := List.append_subset.mpr
    ⟨List.subset_append_of_subset_left _ hp.emitted, List.subset_append_right _ _⟩
  holds := List.forall_mem_append.mpr ⟨hp.holds, List.forall_mem_singleton.mpr ho⟩
  failed := hfailed ▸ hp.failed
  faults := hp.faults
  met := by
    rw [List.map_append, List.map_singleton]
    refine List.forall_mem_append.mpr ⟨fun o' ho' hkind => ?_, ?_⟩
    · exact (hp.met o' ho' hkind).imp_left fun h => List.mem_append_left _ h
    · exact List.forall_mem_singleton.mpr fun _ =>
        .inl (List.mem_append_right _ (List.mem_singleton_self _))

/-- The step: an origin is met whose units are generated once. -/
theorem generateOnce {α : Type} {isDone : Progress → Bool} {units : Except GenerationError α}
    {add : Progress → α → Progress} (hp : Tally c n visited os found p) (ho : c.schema.Holds o)
    (hdone : isDone p = true ↔ o.key ∈ os.map Origin.key)
    (hfault : ∀ error, units = .error error → ∀ e ∈ c.schema.entities,
      e.declaration = o.declaration → ¬ e.Composes n)
    (hadd : ∀ a, units = .ok a → ∃ u v, o.Gives n u v ∧ (add p a).units = p.units ++ [u, v] ∧
      (add p a).failed = p.failed ∧ Done n (os ++ [o]) (add p a))
    (h : ((Progress.generateOnce o.declaration isDone units add).run p).run = (new, p')) :
    ∃ os', Tally c n (visited ++ [o]) os' (found ++ new) p' := by
  obtain ⟨hbefore, rfl, rfl⟩ | ⟨hfailed, rfl, rfl⟩ | ⟨error, herror, rfl, rfl⟩ |
    ⟨hfresh, rfl, a, ha, rfl⟩ := generateOnce_cases h
  · -- its units were emitted before
    refine ⟨os, hp.visit ho (fun e _ h => absurd h (not_reported_nil _)) fun _ => .inl ?_⟩
    exact hdone.mp hbefore
  · -- it failed before, and what was reported then still is
    refine ⟨os, hp.visit ho ?_ fun _ => .inr (reported_append.mpr (.inl (hp.failed _ hfailed)))⟩
    exact fun e _ h => absurd h (not_reported_dependencyFailed _ _ _)
  · have hreported : Reported (found ++ [⟨o.declaration, .generation error⟩]) o.declaration :=
      reported_append.mpr (.inr ⟨error, List.mem_singleton_self _⟩)
    have hvisit := hp.visit ho (fun e he h => hfault error herror e he (reported_singleton h)) fun _ =>
      .inr hreported
    exact ⟨os, (hvisit.meet (.generation error)).fail hreported⟩
  · obtain ⟨u, v, hgives, hunits, hfailed, hnew⟩ := hadd a ha
    have hkey : o.key ∉ os.map Origin.key := by
      rw [← hdone, hfresh]
      exact Bool.false_ne_true
    rw [List.append_nil]
    exact ⟨_, hp.add ho hkey hgives hnew hunits hfailed⟩

theorem ensureEntity (hp : Tally c n visited os found p) {e : Entity} (he : e ∈ c.schema.entities)
    (h : ((ensureEntity n e).run p).run = (new, p')) :
    ∃ os', Tally c n (visited ++ [.entity e]) os' (found ++ new) p' := by
  unfold Progress.ensureEntity at h
  refine hp.generateOnce (o := .entity e) he (hp.done.entities e) ?_ ?_ h
  · rintro error herror e' he' hname ⟨table, mapper, htable, hmapper⟩
    obtain rfl := eq_of_declaration_eq he' he hname
    rw [htable, hmapper] at herror
    cases herror
  · intro units hunits
    obtain ⟨table, htable, hunits⟩ := bind_eq_ok hunits
    obtain ⟨mapper, hmapper, hunits⟩ := bind_eq_ok hunits
    cases hunits
    exact ⟨_, _, .entity htable hmapper, rfl, rfl, hp.done.addEntity htable hmapper⟩

theorem ensureDao (hp : Tally c n visited os found p) {d : Dao} (hd : c.schema.Holds (.dao d))
    (h : ((ensureDao n d).run p).run = (new, p')) :
    ∃ os', Tally c n (visited ++ [.dao d]) os' (found ++ new) p' := by
  unfold Progress.ensureDao at h
  refine hp.generateOnce (o := .dao d) hd (hp.done.daos d) ?_ ?_ h
  · intro error _ e he hname
    cases eq_entity_of_declaration_eq he hd hname
  · intro units hunits
    obtain ⟨queries, hqueries, hunits⟩ := bind_eq_ok hunits
    obtain ⟨dao, hdao, hunits⟩ := bind_eq_ok hunits
    cases hunits
    exact ⟨_, _, .dao hqueries hdao, rfl, rfl, hp.done.addDao hqueries hdao⟩

/-- Steps in a row meet one origin each. -/
theorem mapM {α : Type} {f : α → StateM Progress (List Diagnostic)} {xs : List α}
    {founds : List (List Diagnostic)} (hp : Tally c n visited os found p) (origin : α → Origin)
    (hstep : ∀ x ∈ xs, ∀ visited os found p new p', Tally c n visited os found p →
      ((f x).run p).run = (new, p') → ∃ os', Tally c n (visited ++ [origin x]) os' (found ++ new) p')
    (h : ((xs.mapM f).run p).run = (founds, p')) :
    ∃ os', Tally c n (visited ++ xs.map origin) os' (found ++ founds.flatten) p' := by
  refine run_mapM_extends (P := fun before new p =>
    ∃ os, Tally c n (visited ++ before.map origin) os (found ++ new) p) ?_ ⟨os, by simpa using hp⟩ h
  rintro before x after earlier p new p' hsplit ⟨os, hp⟩ hx
  have hmem : x ∈ xs := by rw [← hsplit]; simp
  obtain ⟨os', hp'⟩ := hstep x hmem _ _ _ _ _ _ hp hx
  rw [List.map_append, List.map_singleton, ← List.append_assoc, ← List.append_assoc]
  exact ⟨os', hp'⟩

theorem ensureDatabase (hp : Tally c n visited os found p) {d : Database}
    (hd : d ∈ c.schema.databases) (hnew : (Origin.database d).key ∉ visited.map Origin.key)
    (h : ((ensureDatabase n d).run p).run = (new, p')) :
    ∃ os', Tally c n (visited ++ d.origins) os' (found ++ new) p' := by
  obtain ⟨ofEntities, p₁, ofDaos, p₂, hentities, hdaos, houtcome⟩ := ensureDatabase_outcomes h
  obtain ⟨os₁, hp₁⟩ := hp.mapM .entity (fun e he _ _ _ _ _ _ hp he' =>
    hp.ensureEntity (entities_subset_schema hd he) he') hentities
  obtain ⟨os₂, hp₂⟩ := hp₁.mapM (fun g => .dao g.dao) (fun g hg _ _ _ _ _ _ hp hg' =>
    hp.ensureDao ⟨d, hd, g, hg, rfl⟩ hg') hdaos
  have hown : ∀ error, ∀ e ∈ c.schema.entities, Reported [⟨d.declaration, error⟩] e.declaration →
      ¬ e.Composes n := by
    intro error e he h
    cases eq_entity_of_declaration_eq (o := .database d) he hd (reported_singleton h)
  rw [List.append_assoc, List.append_assoc] at hp₂
  rw [Database.origins, ← List.append_assoc]
  obtain ⟨rfl, -, rfl⟩ | ⟨hfirst, hsecond, hrest⟩ := houtcome
  · refine ⟨os₂, ?_⟩
    have hnone : ∀ e ∈ c.schema.entities, Reported [] e.declaration → ¬ e.Composes n :=
      fun e _ h => absurd h (not_reported_nil _)
    have hvisit := hp₂.visit (o := .database d) hd hnone fun hkind => absurd rfl hkind
    rwa [List.append_nil] at hvisit
  · rw [hfirst, hsecond, List.append_nil, List.append_nil] at hp₂
    obtain ⟨error, -, rfl, rfl⟩ | ⟨schema, database, hunits, rfl, rfl⟩ := hrest
    · have hvisit := hp₂.visit (o := .database d) hd (hown error) fun hkind => absurd rfl hkind
      exact ⟨os₂, hvisit.meet error⟩
    · have hgives := databaseUnits_gives hunits
      have hkey : (Origin.database d).key ∉ os₂.map Origin.key := by
        intro hmem
        have hvisited := List.map_subset Origin.key hp₂.emitted hmem
        rw [List.map_append, List.mem_append] at hvisited
        exact hvisited.elim hnew (key_notMem_entities_daos d)
      rw [List.append_nil]
      exact ⟨_, hp₂.add hd hkey hgives (hp₂.done.addDatabase hgives) rfl rfl⟩

end Tally

theorem Tally.databases {ds : List Database} {founds : List (List Diagnostic)}
    (hp : Tally c n visited os found p) (hds : ds ⊆ c.schema.databases)
    (hnodup : (ds.map Database.declaration).Nodup)
    (hnew : ∀ d ∈ ds, (Origin.database d).key ∉ visited.map Origin.key)
    (h : ((ds.mapM (Progress.ensureDatabase n)).run p).run = (founds, p')) :
    ∃ os', Tally c n (visited ++ ds.flatMap Database.origins) os' (found ++ founds.flatten) p' := by
  refine run_mapM_extends (P := fun before new p =>
    ∃ os, Tally c n (visited ++ before.flatMap Database.origins) os (found ++ new) p) ?_
    ⟨os, by simpa using hp⟩ h
  rintro before d after earlier p new p' hsplit ⟨os, hp⟩ hd
  have hmem : d ∈ ds := by rw [← hsplit]; simp
  have hfresh : (Origin.database d).key ∉
      (visited ++ before.flatMap Database.origins).map Origin.key := by
    rw [List.map_append, List.mem_append, not_or]
    rw [← hsplit] at hnodup
    exact ⟨hnew d hmem, key_notMem_origins hnodup⟩
  rw [List.flatMap_append, List.flatMap_singleton, ← List.append_assoc, ← List.append_assoc]
  exact hp.ensureDatabase (hds hmem) hfresh hd

/-! ## what a run has emitted -/

theorem Tally.emittedIn (hp : Tally c n visited os found p) (ho : c.schema.Holds o)
    (hkey : o.key ∈ os.map Origin.key) : o.EmittedIn n p.units := by
  obtain ⟨o', ho', hsame⟩ := List.mem_map.mp hkey
  obtain rfl := eq_of_key_eq (hp.holds o' (hp.emitted ho')) ho hsame
  exact hp.paired.emittedIn hp.nodup ho'

theorem Tally.emittedIn_or_absentFrom (hp : Tally c n visited os found p) (ho : c.schema.Holds o) :
    o.EmittedIn n p.units ∨ o.AbsentFrom p.units := by
  by_cases hkey : o.key ∈ os.map Origin.key
  · exact .inl (hp.emittedIn ho hkey)
  · exact .inr (hp.paired.absentFrom hkey)

/-- An entity or DAO that was met and has no units was reported. -/
theorem Tally.reported (hp : Tally c n visited os found p) (ho : o ∈ visited)
    (hkind : o.key.1 ≠ .schema) (hnone : o.AbsentFrom p.units) : Reported found o.declaration := by
  refine (hp.met o ho hkind).resolve_left fun hkey => ?_
  exact Origin.not_absentFrom_of_emittedIn (hp.emittedIn (hp.holds o ho) hkey) hnone

/-- An entity that was reported has no units, as its code cannot be composed. -/
theorem Tally.absentFrom_of_reported (hp : Tally c n visited os found p) {e : Entity}
    (he : c.schema.Holds (.entity e)) (hreported : Reported found e.declaration) :
    (Origin.entity e).AbsentFrom p.units := by
  refine hp.paired.absentFrom fun hkey => hp.faults e he hreported ?_
  obtain ⟨o, ho, hsame⟩ := List.mem_map.mp hkey
  obtain rfl := eq_of_key_eq (hp.holds o (hp.emitted ho)) he hsame
  obtain ⟨u, v, hgives, -⟩ := hp.done.gives _ ho
  cases hgives with
  | entity htable hmapper => exact ⟨_, _, htable, hmapper⟩

end Progress

/-! ## whole runs -/

section Runs

variable {c : Catalog} {n : Naming}

/-- The origins that a run comes to, as often as it does. -/
def ResolvedSchema.visited (s : ResolvedSchema) : List Origin :=
  s.entities.map .entity ++ s.databases.flatMap Database.origins

theorem mem_visited_of_holds {o : Origin} (h : c.schema.Holds o) : o ∈ c.schema.visited :=
  mem_of_mem_distinctBy (mem_origins_iff.mpr h)

/-- What a whole run has met, emitted and reported. -/
theorem tally_compileWith (c : Catalog) (n : Naming) :
    ∃ os p, Progress.Tally c n c.schema.visited os (c.generationFaults n) p ∧
      (c.compileWith n).contents = p.units ∧
      (c.compileWith n).report.diagnostics =
        distinct (c.schema.diagnostics ++ c.generationFaults n) := by
  obtain ⟨ofEntities, p₁, ofDatabases, p₂, hentities, hdatabases, hreport, hcontents⟩ :=
    compileWith_steps c n
  have hfaults := generationFaults_eq hentities hdatabases
  obtain ⟨os₁, hp₁⟩ := (Progress.tally_nil c n).mapM .entity
    (fun e he _ _ _ _ _ _ hp he' => hp.ensureEntity he he') hentities
  rw [List.nil_append, List.nil_append] at hp₁
  obtain ⟨os₂, hp₂⟩ := hp₁.databases (List.Subset.refl _) nodup_schema_databases
    (fun d _ hmem => by simp [Origin.key] at hmem) hdatabases
  rw [← hfaults] at hp₂
  rw [List.append_assoc, ← hfaults] at hreport
  exact ⟨os₂, p₂, hp₂, hcontents, hreport⟩

/-- Units of a run go in pairs: of an origin there are both, next to each other and once, or none, and
there are no other units. An entity has none iff the generation of code reported it, and a DAO has none
only if it did. The resolution reports problems of the same family at members: such an anchor is an
entity's name only if the name continues that of another declaration. -/
structure Compilation.AllOrNothing (r : Compilation) (c : Catalog) (n : Naming) : Prop where
  pairs : ∀ o, c.schema.Holds o → o.EmittedIn n r.contents ∨ o.AbsentFrom r.contents
  owned : ∀ u ∈ r.contents, ∃ o, c.schema.Holds o ∧ o.Owns u
  entities : ∀ e ∈ c.schema.entities, (Origin.entity e).AbsentFrom r.contents ↔
    Reported (c.generationFaults n) e.declaration
  daos : ∀ d, c.schema.Holds (.dao d) → (Origin.dao d).AbsentFrom r.contents →
    Reported (c.generationFaults n) d.declaration
  report : r.report.diagnostics = distinct (c.schema.diagnostics ++ c.generationFaults n)
  members : ∀ e ∈ c.schema.entities, Reported c.schema.diagnostics e.declaration →
    ∃ d ∈ c.declarations, ∃ member, e.declaration = Diagnostic.memberAnchor d.qualifiedName member

/-- **All or nothing**: units are emitted in pairs, and what is left out was reported. -/
theorem compile_all_or_nothing {o : Options} {r : Compilation} (h : c.compile o = .ok r) :
    ∃ n, Naming.ofOptions o = .ok n ∧ r.AllOrNothing c n := by
  obtain ⟨n, hn, rfl, -⟩ := compile_eq_ok h
  obtain ⟨os, p, hp, hcontents, hreport⟩ := tally_compileWith c n
  refine ⟨n, hn, ?_⟩
  constructor
  case pairs =>
    rw [hcontents]
    exact fun o ho => hp.emittedIn_or_absentFrom ho
  case owned =>
    intro u hu
    rw [hcontents] at hu
    obtain ⟨o, ho, howns⟩ := hp.paired.owner hu
    exact ⟨o, hp.holds o (hp.emitted ho), howns⟩
  case entities =>
    intro e he
    rw [hcontents]
    have hvisited : Origin.entity e ∈ c.schema.visited := mem_visited_of_holds he
    exact ⟨hp.reported hvisited UnitKind.noConfusion, hp.absentFrom_of_reported he⟩
  case daos =>
    intro d hd hnone
    rw [hcontents] at hnone
    exact hp.reported (mem_visited_of_holds hd) UnitKind.noConfusion hnone
  case report => exact hreport
  case members =>
    rintro e he ⟨error, hmem⟩
    exact member_of_generation he hmem

end Runs

/-- The entity with a property that has no identifier has no units, and the DAO that reads it has both. -/
theorem compile_all_or_nothing_self :
    ∃ r n, selfCatalog.compile {} = .ok r ∧ Naming.ofOptions {} = .ok n ∧
      selfCatalog.schema.entities.map Entity.declaration = ["app::User"] ∧
      r.contents.map (fun u => (u.kind, u.declaration)) =
        [(.queries, "app::UserDao"), (.dao, "app::UserDao")] ∧
      r.AllOrNothing selfCatalog n := by
  have hrun : (selfCatalog.compile {}).toOption.map (fun r =>
      r.contents.map fun u => (u.kind, u.declaration)) =
        some [(.queries, "app::UserDao"), (.dao, "app::UserDao")] := by
    decide +kernel
  obtain ⟨r, hr, hcontents⟩ := Option.map_eq_some_iff.mp hrun
  have hcompile := eq_ok_of_toOption hr
  obtain ⟨n, hn, hall⟩ := compile_all_or_nothing hcompile
  exact ⟨r, n, hcompile, hn, by decide +kernel, hcontents, hall⟩

/-- An entity that embeds a struct which is not built from its properties, and a sound entity that is
named like the property. -/
def addressCatalog : Catalog where
  declarations :=
    [{ qualifiedName := "app::Street"
       properties := [{ name := "name", type := .ofName "String" }]
       constructor := some ⟨"new", [{ name := "town", type := .ofName "String" }]⟩ },
      { qualifiedName := "app::User"
        annotations := [{ name := "Entity" }]
        properties :=
         [{ name := "id", type := .ofName "i64", annotations := [{ name := "PrimaryKey" }] },
           { name := "address", type := .ofName "app::Street"
             annotations := [{ name := "Embedded" }] }] },
      { qualifiedName := "app::User::address"
        annotations := [{ name := "Entity" }]
        properties :=
         [{ name := "id", type := .ofName "i64", annotations := [{ name := "PrimaryKey" }] }] }]
  nodup := by decide

/-- The problem of the property is reported as if it were one of the sound entity, of which both units are
emitted. -/
theorem compile_reports_member_as_entity :
    ∃ r e, addressCatalog.compile {} = .ok r ∧ e ∈ addressCatalog.schema.entities ∧
      e.declaration = "app::User::address" ∧
      r.contents.map (fun u => (u.kind, u.declaration)) =
        [(.table, "app::User::address"), (.mapper, "app::User::address")] ∧
      ¬ ((Origin.entity e).AbsentFrom r.contents ↔
        Reported r.report.diagnostics e.declaration) := by
  have hrun : (addressCatalog.compile {}).toOption.map (fun r =>
      (r.contents.map fun u => (u.kind, u.declaration), r.report.diagnostics)) =
        some ([(.table, "app::User::address"), (.mapper, "app::User::address")],
          [⟨"app::User::address", .generation (.unmatchedConstructorParameter "app::Street" "town")⟩,
            ⟨"app::User::address", .generation (.uncoveredMember "app::Street" "name")⟩]) := by
    decide +kernel
  have hschema : addressCatalog.schema.entities.map Entity.declaration = ["app::User::address"] := by
    decide +kernel
  obtain ⟨r, hr, hparts⟩ := Option.map_eq_some_iff.mp hrun
  obtain ⟨hcontents, hdiagnostics⟩ := Prod.mk.inj hparts
  obtain ⟨e, he, hname⟩ := List.mem_map.mp (hschema ▸ List.mem_singleton_self _)
  refine ⟨r, e, eq_ok_of_toOption hr, he, hname, hcontents, fun hiff => ?_⟩
  have habsent := hiff.mpr (by rw [hdiagnostics, hname]; exact ⟨_, List.mem_cons_self⟩)
  have hfirst : (UnitKind.table, "app::User::address") ∈
      r.contents.map fun u => (u.kind, u.declaration) := hcontents ▸ List.mem_cons_self
  obtain ⟨u, hu, htable⟩ := List.mem_map.mp hfirst
  obtain ⟨hkind, hdeclaration⟩ := Prod.mk.inj htable
  refine habsent u hu ⟨?_, hdeclaration.trans hname.symm⟩
  rw [hkind]
  exact List.mem_cons_self

end DaoForge
