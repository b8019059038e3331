import DaoForge.Proofs.Resolve.Buildable
import DaoForge.Proofs.Wiring

/-!
# DaoForge.Proofs.Faults

What the generation of code can find wrong with a catalog that resolves.

1. `failsWithin_databaseUnits`: with what a run noted, a database lacks nothing but names, or what it
   needs has failed before;
2. each step of a run finds problems of these two kinds only (`naming_of_ensureEntity`,
   `naming_of_ensureDao`, `naming_of_ensureDatabase`);
3. `compile_faults_naming`: so does the whole run.
-/

namespace DaoForge

/-- The problems that the generation of code finds, after those of the resolution. -/
def Catalog.generationFaults (c : Catalog) (n : Naming) : List Diagnostic :=
  let generation : StateM Progress (List Diagnostic) := do
    let ofEntities ← c.schema.entities.mapM (Progress.ensureEntity n)
    let ofDatabases ← c.schema.databases.mapM (Progress.ensureDatabase n)
    return ofEntities.flatten ++ ofDatabases.flatten
  (generation.run {}).run.1

/-! ## what a database needs -/

section Databases

variable {c : Catalog} {d : Database}

/-- The mappers that the queries of a database take are of its entities. -/
theorem mappedEntities_subset_entities (hd : d ∈ c.schema.databases) {dao : Dao}
    (hdao : dao ∈ d.daos) : dao.mappedEntities ⊆ d.entities := by
  obtain ⟨declaration, -, hdatabase⟩ := mem_schema_databases hd
  obtain ⟨g, hg, rfl⟩ := List.mem_map.mp (mem_of_mem_distinctBy hdao)
  intro e he
  obtain ⟨o, ho, row, hrow, he⟩ := rowType_of_mem_mappedEntities he
  have hentities : e ∈ o.entities := by
    rw [Operation.entities, hrow]
    exact List.mem_append_right _ (row.mappedEntities_subset he)
  exact touched_of_database? hdatabase hg ho (touches_iff.mpr hentities)

/-- The adapters of a database can be created. -/
theorem creatable_of_mem_schema (hd : d ∈ c.schema.databases) :
    ∀ key ∈ d.adapters, key.builtin?.isSome = true ∨ (d.converterFor? key).isSome = true := by
  obtain ⟨declaration, -, hdatabase⟩ := mem_schema_databases hd
  intro key hkey
  obtain hbuiltin | ⟨entry, hentry, -⟩ := (complete_of_database? hdatabase).adapters key hkey
  · exact .inl hbuiltin
  · exact .inr (hentry ▸ rfl)

end Databases

namespace Progress

variable {c : Catalog} {n : Naming} {p p' : Progress}

theorem failsWithin_databaseUnits (hp : Wired c n p) {d : Database}
    (hd : d ∈ c.schema.databases) : FailsWithin SpecError.OfNaming (databaseUnits n p d) := by
  unfold databaseUnits
  refine FailsWithin.bind (failsWithin_mapM fun e _ => ?_) fun mappers hmappers => ?_
  · split
    · exact failsWithin_ok _
    · exact failsWithin_error (.dependency e.declaration)
  refine FailsWithin.bind (failsWithin_mapM fun dao _ => ?_) fun queries hqueries => ?_
  · split
    · exact failsWithin_ok _
    · exact failsWithin_error (.dependency dao.declaration)
  refine (failsWithin_composing (onlyNaming_schemaUnit n d)).bind fun schema _ => ?_
  obtain ⟨rfl, -⟩ := hp.mapperWirings_eq (entities_subset_schema hd) hmappers
  obtain ⟨rfl, -⟩ := hp.queriesWirings_eq hd hqueries
  refine FailsWithin.bind_ok (failsWithin_databaseUnit n ?_ ?_)
  · rw [wiredAdapters_eq hd]
    exact creatable_of_mem_schema hd
  · rw [List.forall_mem_map]
    intro dao hdao e he
    exact ⟨e.wiring, List.mem_map_of_mem (mappedEntities_subset_entities hd hdao he), rfl⟩

/-! ## steps -/

theorem naming_of_generateOnce {α : Type} {declaration : String} {isDone : Progress → Bool}
    {units : Except GenerationError α} {add : Progress → α → Progress} {found : List Diagnostic}
    (hunits : OnlyNaming units)
    (h : ((generateOnce declaration isDone units add).run p).run = (found, p')) :
    ∀ x ∈ found, x.error.OfNaming := by
  obtain ⟨-, rfl, -⟩ | ⟨-, rfl, -⟩ | ⟨error, herror, rfl, -⟩ | ⟨-, rfl, -⟩ := generateOnce_cases h
  · simp
  · exact List.forall_mem_singleton.mpr (.dependency declaration)
  · exact List.forall_mem_singleton.mpr (.name (hunits error herror))
  · simp

theorem naming_of_ensureEntity {e : Entity} (he : e.Buildable) {found : List Diagnostic}
    (h : ((ensureEntity n e).run p).run = (found, p')) : ∀ x ∈ found, x.error.OfNaming := by
  unfold Progress.ensureEntity at h
  refine naming_of_generateOnce ?_ h
  exact (onlyNaming_tableUnit n e).bind fun table _ => (onlyNaming_mapperUnit n he).bind_ok

theorem naming_of_ensureDao {d : Dao} (hd : d.Buildable) {found : List Diagnostic}
    (h : ((ensureDao n d).run p).run = (found, p')) : ∀ x ∈ found, x.error.OfNaming := by
  unfold Progress.ensureDao at h
  refine naming_of_generateOnce ?_ h
  exact (onlyNaming_queriesUnit n hd).bind fun queries _ => (onlyNaming_daoUnit n d).bind_ok

/-- The problems of steps in a row are those of the steps. -/
theorem naming_of_mapM {α : Type} {f : α → StateM Progress (List Diagnostic)} {xs : List α}
    (hstep : ∀ x ∈ xs, ∀ {p p' : Progress} {found : List Diagnostic},
      ((f x).run p).run = (found, p') → ∀ y ∈ found, y.error.OfNaming)
    {found : List (List Diagnostic)} (h : ((xs.mapM f).run p).run = (found, p')) :
    ∀ y ∈ found.flatten, y.error.OfNaming := by
  refine run_mapM_extends (P := fun _ found _ => ∀ y ∈ found, y.error.OfNaming) ?_ (by simp) h
  intro before x after found p new p' hsplit hfound hx
  exact List.forall_mem_append.mpr ⟨hfound, hstep x (hsplit ▸ by simp) hx⟩

theorem naming_of_ensureDatabase (hnames : c.PropertiesDistinct) (hp : Wired c n p) {d : Database}
    (hd : d ∈ c.schema.databases) {found : List Diagnostic}
    (h : ((ensureDatabase n d).run p).run = (found, p')) : ∀ x ∈ found, x.error.OfNaming := by
  obtain ⟨ofEntities, p₁, ofDaos, p₂, hentities, hdaos, hfound, -⟩ := ensureDatabase_cases h
  have hp₂ := (hp.ensureEntities (entities_subset_schema hd) hentities).ensureDaos hd hdaos
  obtain rfl | ⟨error, hunits, rfl⟩ := hfound
  · rw [List.forall_mem_append]
    constructor
    · refine naming_of_mapM (fun e he => ?_) hentities
      exact naming_of_ensureEntity (buildable_of_mem_schema hnames (entities_subset_schema hd he))
    · refine naming_of_mapM (fun g hg => ?_) hdaos
      obtain ⟨declaration, -, hdatabase⟩ := mem_schema_databases hd
      obtain ⟨_, -, hdao⟩ := mem_getters_of_database? hdatabase hg
      exact naming_of_ensureDao (buildable_of_daoFindings hdao)
  · exact List.forall_mem_singleton.mpr (failsWithin_databaseUnits hp₂ hd error hunits)

end Progress

/-! ## runs -/

section Runs

variable {c : Catalog}

/-- They are what the steps of a run find. -/
theorem generationFaults_eq {n : Naming} {p₁ p₂ : Progress}
    {ofEntities ofDatabases : List (List Diagnostic)}
    (hentities : ((c.schema.entities.mapM (Progress.ensureEntity n)).run {}).run = (ofEntities, p₁))
    (hdatabases : ((c.schema.databases.mapM (Progress.ensureDatabase n)).run p₁).run =
      (ofDatabases, p₂)) :
    c.generationFaults n = ofEntities.flatten ++ ofDatabases.flatten := by
  dsimp only [Catalog.generationFaults]
  rw [StateT.run_bind, Id.run_bind, hentities, StateT.run_bind, Id.run_bind, hdatabases]
  rfl

theorem naming_of_generationFaults (hnames : c.PropertiesDistinct) (n : Naming) :
    (c.compileWith n).report.diagnostics =
        distinct (c.schema.diagnostics ++ c.generationFaults n) ∧
      ∀ x ∈ c.generationFaults n, x.error.OfNaming := by
  obtain ⟨ofEntities, p₁, ofDatabases, p₂, hentities, hdatabases, hreport, -⟩ := compileWith_steps c n
  have hfaults := generationFaults_eq hentities hdatabases
  have hwired := (Progress.wired_nil c n).ensureEntities (List.Subset.refl _) hentities
  have hfirst : ∀ x ∈ ofEntities.flatten, x.error.OfNaming := by
    refine Progress.naming_of_mapM (fun e he => ?_) hentities
    exact Progress.naming_of_ensureEntity (buildable_of_mem_schema hnames he)
  have hsecond : (∀ x ∈ ofDatabases.flatten, x.error.OfNaming) ∧ Progress.Wired c n p₂ := by
    refine Progress.run_mapM_extends
      (P := fun _ found p => (∀ x ∈ found, x.error.OfNaming) ∧ Progress.Wired c n p) ?_
      ⟨by simp, hwired⟩ hdatabases
    rintro before d after found p new p' hsplit ⟨hfound, hp⟩ hstep
    have hd : d ∈ c.schema.databases := hsplit ▸ by simp
    have hnew := Progress.naming_of_ensureDatabase hnames hp hd hstep
    exact ⟨List.forall_mem_append.mpr ⟨hfound, hnew⟩, hp.ensureDatabase hd hstep⟩
  rw [hreport, hfaults, List.append_assoc]
  exact ⟨rfl, List.forall_mem_append.mpr ⟨hfirst, hsecond.1⟩⟩

/-- **Faults of the generation**: beyond the problems of the resolution, a run reports names that are refused
as identifiers, texts that are no types or paths, and declarations that depend on one which failed. -/
theorem compile_faults_naming {o : Options} {r : Compilation} (hnames : c.PropertiesDistinct)
    (h : c.compile o = .ok r) :
    ∃ n, Naming.ofOptions o = .ok n ∧
      r.report.diagnostics = distinct (c.schema.diagnostics ++ c.generationFaults n) ∧
      ∀ x ∈ c.generationFaults n, x.error.OfNaming ∧ x.error.stop? = none := by
  obtain ⟨n, hn, rfl, hstop⟩ := compile_eq_ok h
  obtain ⟨hreport, hnaming⟩ := naming_of_generationFaults hnames n
  refine ⟨n, hn, hreport, fun x hx => ⟨hnaming x hx, ?_⟩⟩
  rw [Compilation.stop?, List.findSome?_eq_none_iff, hreport] at hstop
  exact hstop x (mem_distinct.mpr (List.mem_append_right _ hx))

end Runs

/-- A property without an identifier keeps an entity from being generated, and a database with it. -/
theorem compile_faults_naming_self :
    selfCatalog.PropertiesDistinct ∧ ∃ r n, selfCatalog.compile {} = .ok r ∧
      Naming.ofOptions {} = .ok n ∧
      selfCatalog.generationFaults n =
        [⟨"app::User", .generation (.invalidIdentifier "self")⟩,
          dependencyFailed "app::User" "app::User"] ∧
      r.report.diagnostics = distinct (selfCatalog.schema.diagnostics ++ selfCatalog.generationFaults n) ∧
      ∀ x ∈ selfCatalog.generationFaults n, x.error.OfNaming ∧ x.error.stop? = none := by
  have hnames : selfCatalog.PropertiesDistinct := by
    unfold Catalog.PropertiesDistinct
    decide
  have hrun : (Naming.ofOptions {}).toOption.map selfCatalog.generationFaults =
      some [⟨"app::User", .generation (.invalidIdentifier "self")⟩,
        dependencyFailed "app::User" "app::User"] := by
    decide +kernel
  obtain ⟨n, hn, hfaults⟩ := Option.map_eq_some_iff.mp hrun
  have hnaming := eq_ok_of_toOption hn
  have hcompile : selfCatalog.compile {} = .ok (selfCatalog.compileWith n) :=
    compile_of_isSome hnaming (by decide +kernel)
  obtain ⟨n', hn', hreport, hall⟩ := compile_faults_naming hnames hcompile
  obtain rfl : n = n' := Except.ok.inj (hnaming.symm.trans hn')
  exact ⟨hnames, _, n, hcompile, hnaming, hfaults, hreport, hall⟩

end DaoForge
