import DaoForge.Proofs.Resolve.Told
import Mathlib.Data.List.Perm.Subperm

/-!
# DaoForge.Proofs.Resolve.Report

The diagnostics of a resolved schema.

1. `schema_run`: where they come from: all problems of the entities that fail, and what the answers for
   the databases list, in a run that tells of every name it reported (`Session.Told`);
2. `schema_accounts`: no declaration is left out in silence, and nothing is said to have failed without a
   problem of its own;
3. `hidden_iff`: of what the DAOs of a run fail with, the report leaves out nothing but problems of
   structs that the run meets both as a DAO and as a compound.
-/

namespace DaoForge

/-! ## the run -/

theorem partitionAnswers_snd {α : Type} (answers : List (Except (List Diagnostic) α)) :
    (partitionAnswers answers).2 = answers.flatMap problemsOf := by
  induction answers with
  | nil => rfl
  | cons answer rest ih =>
      cases answer with
      | ok a => exact ih
      | error problems =>
          rw [List.flatMap_cons, ← ih]
          rfl

section Run

variable {c : Catalog}

/-- A getter that fails has a problem of the database. -/
theorem yields_concerns_getter (owner : String) (f : Function) :
    Yields (Session.Sound c) (c.getter owner f) fun getter =>
      getter.found ≠ [] → ∃ p ∈ getter.found, p.Concerns owner := by
  have hanchor := Diagnostic.anchors_member owner f.name
  unfold Catalog.getter
  split
  · exact yields_pure fun _ => ⟨_, List.mem_cons_self, hanchor⟩
  split
  · exact yields_pure fun _ => ⟨_, List.mem_cons_self, hanchor⟩
  · next d htarget =>
    refine (yields_dao c (mem_of_getterTarget? htarget)).bind fun answer _ => ?_
    cases answer with
    | ok dao => exact yields_pure fun h => absurd rfl h
    | error problems =>
        refine Yields.bind (yields_list c _) ?_
        rintro _ ⟨reported, rfl⟩
        refine yields_pure fun _ => ⟨dependencyFailed _ d.qualifiedName, ?_, hanchor⟩
        exact Finding.dependencyFailed_mem_list (List.mem_singleton_self _)

/-- A database that fails has a problem of its own. -/
theorem yields_concerns_databaseOf (d : Declaration) :
    Yields (Session.Sound c) (c.databaseOf d) fun answer =>
      ∀ problems, answer = .error problems → ∃ p ∈ problems, p.Concerns d.qualifiedName := by
  have hself := Diagnostic.anchors_self d.qualifiedName
  have hown (error : SpecError) (problems : List Diagnostic)
      (h : (.error [⟨d.qualifiedName, error⟩] : Except _ Database) = .error problems) :
      ∃ p ∈ problems, p.Concerns d.qualifiedName := by
    cases h
    exact ⟨_, List.mem_cons_self, hself⟩
  unfold Catalog.databaseOf
  split
  · exact yields_pure (hown _)
  split
  · exact yields_pure (hown _)
  · exact yields_pure (hown _)
  next record _ =>
  unfold Catalog.markedDatabase
  refine (yields_knownEntities d record).bind ?_
  rintro _ rfl
  refine (yields_mapM fun f _ => yields_concerns_getter d.qualifiedName f).bind fun getters h => ?_
  refine yields_pure fun problems hproblems => ?_
  obtain ⟨p, hp⟩ := List.exists_mem_of_ne_nil _ (Checked.toExcept_ne_nil rfl hproblems)
  obtain rfl := Checked.found_of_toExcept hproblems
  rcases List.mem_append.mp hp with hmark | hassembled
  · exact ⟨p, hp, (raised_readMark (c := c) hself p hmark).concerns⟩
  rcases found_assembleDatabase hassembled with hlisted | hgetters | hraised
  · have hraised : (c.knownEntities d record).Finds (Diagnostic.Raised c d.qualifiedName) :=
      CheckedT.finds_all fun t _ => raised_dependentEntity hself
    exact ⟨p, hp, (hraised p hlisted).concerns⟩
  · -- the problem of the getter that is there may be a DAO's, but not all of the getter's are
    obtain ⟨getter, hmem, hp⟩ := List.mem_flatMap.mp hgetters
    obtain ⟨f, -, hconcerns⟩ := exists_of_forall₂ h hmem
    obtain ⟨q, hq, hconcerns⟩ := hconcerns (List.ne_nil_of_mem hp)
    have hall : q ∈ (Checked.all getters).found := List.mem_flatMap.mpr ⟨getter, hmem, hq⟩
    refine ⟨q, List.mem_append_right _ ?_, hconcerns⟩
    exact getters_subset_assembleDatabase (.all getters) hall
  · exact ⟨p, hp, hraised.concerns⟩

theorem Yields.and {α : Type} {inv : Session → Prop} {p : Run α} {post post' : α → Prop}
    (h : Yields inv p post) (h' : Yields inv p post') :
    Yields inv p fun a => post a ∧ post' a :=
  fun s hs => ⟨⟨(h s hs).1, (h' s hs).1⟩, (h s hs).2⟩

/-- Asked for the name of a declaration, a run resolves the declaration. -/
theorem byName_qualifiedName {α : Type} {resolver : Resolver Run α} {d : Declaration}
    (hd : d ∈ c.declarations) : c.byName resolver d.qualifiedName = resolver d := by
  unfold Catalog.byName
  rw [Catalog.lookup_qualifiedName hd]

theorem raised_of_mem_problemsOf_entityOf {d : Declaration} {p : Diagnostic}
    (hp : p ∈ problemsOf (c.entityOf d)) : p.Raised c d.qualifiedName := by
  cases hanswer : c.entityOf d with
  | ok e =>
      rw [hanswer] at hp
      contradiction
  | error problems =>
      rw [hanswer] at hp
      exact raised_entityOf hanswer p hp

/-- Asked for the annotated declarations, a run answers for each in turn. -/
theorem mapM_namesWith {α : Type} (name : String) {ask : String → Run α} {answer : Declaration → Run α}
    (h : ∀ d ∈ c.declarations, ask d.qualifiedName = answer d) :
    (c.namesWith name).mapM ask = (c.annotatedWith name).mapM answer := by
  have hdeclared : ∀ d ∈ c.annotatedWith name, ask d.qualifiedName = answer d :=
    fun d hd => h d (Catalog.mem_annotatedWith.mp hd).1
  unfold Catalog.namesWith
  generalize c.annotatedWith name = declarations at hdeclared
  induction declarations with
  | nil => rfl
  | cons d rest ih =>
      obtain ⟨hd, hrest⟩ := List.forall_mem_cons.mp hdeclared
      rw [List.map_cons, List.mapM_cons, List.mapM_cons, hd, ih hrest]

/-- The diagnostics of a schema are those of the answers for its entities and databases, and of the
databases' answers holds what any run gives them. -/
theorem schema_run_of {post : Declaration → Except (List Diagnostic) Database → Prop}
    (hpost : ∀ d ∈ c.annotatedWith "Database", Yields (Session.Sound c) (c.databaseOf d) (post d)) :
    ∃ answers : List (Except (List Diagnostic) Database),
      c.schema.diagnostics = distinct (((c.annotatedWith "Entity").map c.entityOf).flatMap problemsOf ++
        answers.flatMap problemsOf) ∧
      List.Forall₂ post (c.annotatedWith "Database") answers ∧
      ∃ s : Session, s.Told c c.reached c.schema.diagnostics := by
  have hentities : Yields (Session.Told c [] []) ((c.annotatedWith "Entity").mapM (Session.entity c))
      fun answers => answers = (c.annotatedWith "Entity").map c.entityOf := by
    have hanswers : Yields (Session.Told c [] []) _
        (List.Forall₂ (fun d answer => answer = c.entityOf d) (c.annotatedWith "Entity")) :=
      yields_mapM fun d hd => (Session.Told.recalls c [] []).follows_entity d
        (Catalog.mem_annotatedWith.mp hd).1
    refine hanswers.imp fun answers h => ?_
    have hmap := map_eq_of_forall₂ (h.imp fun d answer heq => heq.symm)
    rw [List.map_id'] at hmap
    exact hmap.symm
  obtain ⟨hfaults, hs₁⟩ := hentities {} (Session.Told.empty c)
  have hreports : Reports c ((c.annotatedWith "Database").mapM c.databaseOf) c.reached
      fun answers => answers.flatMap problemsOf := reports_mapM fun d _ => reports_databaseOf d
  have hanswers : Yields (Session.Sound c) ((c.annotatedWith "Database").mapM c.databaseOf)
      (List.Forall₂ post (c.annotatedWith "Database")) := yields_mapM hpost
  have hgrounded : ∀ p ∈ ((c.annotatedWith "Entity").map c.entityOf).flatMap problemsOf,
      ∀ reported, p.Grounded c reported := by
    intro p hp reported
    obtain ⟨answer, hanswer, hp⟩ := List.mem_flatMap.mp hp
    obtain ⟨d, -, rfl⟩ := List.mem_map.mp hanswer
    exact (raised_of_mem_problemsOf_entityOf hp).grounded
  have hdatabase : ∀ d ∈ c.declarations, c.database d.qualifiedName = c.databaseOf d :=
    fun d hd => byName_qualifiedName hd
  have hschema : c.schema = (c.resolveSchema.run {}).run.1 := rfl
  unfold Catalog.resolveSchema at hschema
  rw [mapM_namesWith "Entity" fun d hd => byName_qualifiedName hd,
    mapM_namesWith "Database" hdatabase] at hschema
  have hdiagnostics : c.schema.diagnostics =
      let entities := ((c.annotatedWith "Entity").mapM (Session.entity c)).run {}
      let databases := ((c.annotatedWith "Database").mapM c.databaseOf).run entities.run.2
      distinct ((partitionAnswers entities.run.1).2 ++ (partitionAnswers databases.run.1).2) :=
    congrArg ResolvedSchema.diagnostics hschema
  simp only [partitionAnswers_snd, hfaults] at hdiagnostics
  have hs₂ := hreports _ _ _ (hs₁.add fun p hp => hgrounded p hp _)
  refine ⟨_, hdiagnostics, (hanswers _ hs₁.sound).1, _, hs₂.congr (fun d => ?_) fun p => ?_⟩
  · rw [List.append_nil]
  · rw [hdiagnostics, List.append_nil, mem_distinct, List.mem_append, List.mem_append, or_comm]

/-- Where the diagnostics of a schema come from. -/
theorem schema_run (c : Catalog) :
    ∃ answers : List (Except (List Diagnostic) Database),
      c.schema.diagnostics = distinct (((c.annotatedWith "Entity").map c.entityOf).flatMap problemsOf ++
        answers.flatMap problemsOf) ∧
      List.Forall₂ (fun d answer => Tells (c.database? d) answer ∧ ∀ problems,
          answer = .error problems → ∃ p ∈ problems, p.Concerns d.qualifiedName)
        (c.annotatedWith "Database") answers ∧
      ∃ s : Session, s.Told c c.reached c.schema.diagnostics :=
  schema_run_of fun d _ => (yields_databaseOf d).and (yields_concerns_databaseOf d)

/-! ## what is reported -/

theorem problems_of_entityOf_subset {d : Declaration} (hd : d ∈ c.annotatedWith "Entity") :
    problemsOf (c.entityOf d) ⊆ c.schema.diagnostics := by
  obtain ⟨answers, hdiagnostics, -, -⟩ := schema_run c
  intro p hp
  rw [hdiagnostics, mem_distinct]
  exact List.mem_append_left _ (List.mem_flatMap.mpr ⟨_, List.mem_map_of_mem hd, hp⟩)

/-- An entity that fails has a problem in the report. -/
theorem exists_concerns_of_entityOf {d : Declaration} (hd : d ∈ c.annotatedWith "Entity")
    {problems : List Diagnostic} (h : c.entityOf d = .error problems) :
    ∃ p ∈ c.schema.diagnostics, p.Concerns d.qualifiedName := by
  obtain ⟨p, hp⟩ := List.exists_mem_of_ne_nil _ (entityOf_ne_nil h)
  have hsub := problems_of_entityOf_subset hd
  rw [h] at hsub
  exact ⟨p, hsub hp, (raised_entityOf h p hp).concerns⟩

/-- A database that fails has a problem in the report. -/
theorem exists_concerns_of_database? {d : Declaration} (hd : d ∈ c.annotatedWith "Database")
    (h : c.database? d = none) : ∃ p ∈ c.schema.diagnostics, p.Concerns d.qualifiedName := by
  obtain ⟨answers, hdiagnostics, hanswers, -⟩ := schema_run c
  obtain ⟨answer, hmem, ⟨htells, -⟩, hconcerns⟩ := exists_of_forall₂ hanswers.flip hd
  cases answer with
  | ok database =>
      rw [h] at htells
      contradiction
  | error problems =>
      obtain ⟨p, hp, hconcerns⟩ := hconcerns problems rfl
      refine ⟨p, ?_, hconcerns⟩
      rw [hdiagnostics, mem_distinct]
      exact List.mem_append_right _ (List.mem_flatMap.mpr ⟨_, hmem, hp⟩)

/-- Without an entity or database that fails there is nothing to report. -/
theorem diagnostics_eq_nil
    (hentities : ∀ d ∈ c.annotatedWith "Entity", (c.entityOf d).toOption.isSome = true)
    (hdatabases : ∀ d ∈ c.annotatedWith "Database", (c.database? d).isSome = true) :
    c.schema.diagnostics = [] := by
  have hnone {α : Type} {answer : Except (List Diagnostic) α} (h : answer.toOption.isSome = true) :
      problemsOf answer = [] := by
    cases answer with
    | ok a => rfl
    | error problems => contradiction
  obtain ⟨answers, hdiagnostics, hanswers, -⟩ := schema_run c
  rw [hdiagnostics, distinct_eq_nil_iff, List.append_eq_nil_iff, List.flatMap_eq_nil_iff,
    List.flatMap_eq_nil_iff]
  constructor
  · intro answer hanswer
    obtain ⟨d, hd, rfl⟩ := List.mem_map.mp hanswer
    exact hnone (hentities d hd)
  · intro answer hanswer
    obtain ⟨d, -, hsome, ⟨htells, -⟩, -⟩ := exists_of_forall₂
      ((List.forall₂_and_left _ _).mpr ⟨hdatabases, hanswers⟩) hanswer
    rw [← htells] at hsome
    exact hnone hsome

/-- What a problem says to have failed has a problem in the report. -/
theorem exists_concerns_of_dependency? {p : Diagnostic} (hp : p ∈ c.schema.diagnostics) {name : String}
    (hname : p.error.dependency? = some name) : ∃ q ∈ c.schema.diagnostics, q.Concerns name := by
  obtain ⟨-, -, -, s, hs⟩ := schema_run c
  rcases hs.grounded p hp name hname with ⟨d, hd, rfl, hmark, problems, hfails⟩ | hreported
  · exact exists_concerns_of_entityOf (Catalog.mem_annotatedWith.mpr ⟨hd, hmark⟩) hfails
  cases hs.reported name hreported with
  | compound hd hname _ hfails _ _ hlisted =>
      obtain ⟨q, hq⟩ := List.exists_mem_of_ne_nil _ (compoundOf_ne_nil hfails)
      have hconcerns := (raised_compoundOf hfails q hq).concerns
      rw [hname] at hconcerns
      exact ⟨q, hlisted hq, hconcerns⟩
  | dao _ hname hfails hlisted =>
      obtain ⟨f, hf⟩ := List.exists_mem_of_ne_nil _ (daoFindings_ne_nil hfails)
      have hraised := raised_daoFindings hfails f hf
      rw [hname] at hraised
      cases f with
      | own q => exact ⟨q, hlisted _ hf, Diagnostic.Raised.concerns hraised⟩
      | dependency anchor name' theirs => exact ⟨_, (hlisted _ hf).1, hraised.1⟩

end Run

/-! ## what is resolved -/

/-- What is resolved of some names: these in order, each once, and of every other one there is a problem
in the report. -/
structure Accounts (names resolved : List String) (diagnostics : List Diagnostic) : Prop where
  inOrder : resolved.Sublist names
  once : ∀ name ∈ names, resolved.count name = 1 ∨ ∃ p ∈ diagnostics, p.Concerns name

/-- Without problems all names are resolved. -/
theorem Accounts.eq_of_nil {names resolved : List String} (h : Accounts names resolved [])
    (hnodup : names.Nodup) : resolved = names := by
  have hsub : names ⊆ resolved := by
    intro name hname
    rcases h.once name hname with hcount | ⟨p, hp, -⟩
    · exact List.count_pos_iff.mp (by omega)
    · contradiction
  exact h.inOrder.eq_of_length_le (hnodup.subperm hsub).length_le

section Resolved

variable {c : Catalog} {α : Type} {name : String} {f : Declaration → Option α}
  {declaration : α → String} (hnamed : ∀ d a, f d = some a → declaration a = d.qualifiedName)

include hnamed

theorem sublist_namesWith (c : Catalog) (name : String) :
    (((c.annotatedWith name).filterMap f).map declaration).Sublist (c.namesWith name) := by
  unfold Catalog.namesWith
  induction c.annotatedWith name with
  | nil => exact .slnil
  | cons d rest ih =>
      cases hd : f d with
      | none =>
          rw [List.filterMap_cons_none hd, List.map_cons]
          exact ih.cons _
      | some a =>
          rw [List.filterMap_cons_some hd, List.map_cons, List.map_cons, hnamed d a hd]
          exact ih.cons_cons _

/-- A declaration is among the resolved ones iff it resolves. -/
theorem mem_resolved_iff {d : Declaration} (hd : d ∈ c.annotatedWith name) :
    d.qualifiedName ∈ ((c.annotatedWith name).filterMap f).map declaration ↔
      (f d).isSome = true := by
  constructor
  · intro hmem
    obtain ⟨a, ha, hname⟩ := List.mem_map.mp hmem
    obtain ⟨d', hd', hanswer⟩ := List.mem_filterMap.mp ha
    rw [hnamed d' a hanswer] at hname
    obtain rfl := Catalog.eq_of_qualifiedName_eq (Catalog.mem_annotatedWith.mp hd').1
      (Catalog.mem_annotatedWith.mp hd).1 hname
    exact Option.isSome_of_mem hanswer
  · intro hsome
    obtain ⟨a, ha⟩ := Option.isSome_iff_exists.mp hsome
    rw [← hnamed d a ha]
    exact List.mem_map_of_mem (List.mem_filterMap.mpr ⟨d, hd, ha⟩)

theorem accounts_filterMap {diagnostics : List Diagnostic}
    (hfails : ∀ d ∈ c.annotatedWith name, f d = none →
      ∃ p ∈ diagnostics, p.Concerns d.qualifiedName) :
    Accounts (c.namesWith name) (((c.annotatedWith name).filterMap f).map declaration)
      diagnostics := by
  refine ⟨sublist_namesWith hnamed c name, fun n hn => ?_⟩
  obtain ⟨d, hd, rfl⟩ := List.mem_map.mp hn
  cases hanswer : f d with
  | none => exact .inr (hfails d hd hanswer)
  | some a =>
      refine .inl (List.count_eq_one_of_mem (nodup_filterMap_declaration hnamed) ?_)
      exact (mem_resolved_iff hnamed hd).mpr (Option.isSome_of_mem hanswer)

end Resolved

theorem nodup_namesWith (c : Catalog) (name : String) : (c.namesWith name).Nodup :=
  c.nodup.sublist (List.filter_sublist.map _)

/-- **No declaration is left out in silence**: an entity or database is resolved, once and in
declaration order, or the report has a problem of it; the report is empty iff all of them are resolved;
and what the report says to have failed has a problem in the report. -/
theorem schema_accounts (c : Catalog) :
    Accounts (c.namesWith "Entity") (c.schema.entities.map Entity.declaration)
        c.schema.diagnostics ∧
      Accounts (c.namesWith "Database") (c.schema.databases.map Database.declaration)
        c.schema.diagnostics ∧
      (c.schema.diagnostics = [] ↔
        c.schema.entities.map Entity.declaration = c.namesWith "Entity" ∧
        c.schema.databases.map Database.declaration = c.namesWith "Database") ∧
      ∀ p ∈ c.schema.diagnostics, ∀ name, p.error = .resolution (.dependencyFailed name) →
        ∃ q ∈ c.schema.diagnostics, q.Concerns name := by
  have hentity : ∀ d e, (c.entityOf d).toOption = some e → e.declaration = d.qualifiedName :=
    fun d e h => declaration_of_entityOf (eq_ok_of_toOption h)
  have hdatabase : ∀ d database, c.database? d = some database →
      database.declaration = d.qualifiedName := by
    intro d database h
    obtain ⟨_, -, -, hname, -, -⟩ := database?_eq_some h
    exact hname
  have hentities : Accounts (c.namesWith "Entity") (c.schema.entities.map Entity.declaration)
      c.schema.diagnostics := by
    rw [schema_entities]
    refine accounts_filterMap hentity fun d hd hnone => ?_
    cases hanswer : c.entityOf d with
    | ok e =>
        rw [hanswer] at hnone
        contradiction
    | error problems => exact exists_concerns_of_entityOf hd hanswer
  have hdatabases : Accounts (c.namesWith "Database")
      (c.schema.databases.map Database.declaration) c.schema.diagnostics := by
    rw [schema_databases]
    exact accounts_filterMap hdatabase fun d hd hnone => exists_concerns_of_database? hd hnone
  refine ⟨hentities, hdatabases, ⟨fun hnil => ?_, fun ⟨hall, hall'⟩ => ?_⟩, fun p hp name herror => ?_⟩
  · rw [hnil] at hentities hdatabases
    exact ⟨hentities.eq_of_nil (nodup_namesWith c _), hdatabases.eq_of_nil (nodup_namesWith c _)⟩
  · rw [schema_entities] at hall
    rw [schema_databases] at hall'
    refine diagnostics_eq_nil (fun d hd => ?_) fun d hd => ?_
    · rw [← mem_resolved_iff hentity hd, hall]
      exact List.mem_map_of_mem hd
    · rw [← mem_resolved_iff hdatabase hd, hall']
      exact List.mem_map_of_mem hd
  · refine exists_concerns_of_dependency? hp ?_
    rw [herror]
    rfl

/-! ## what is hidden -/

namespace Catalog

/-- What the DAO of a declaration fails with in a run of its own. -/
def daoProblems (c : Catalog) (d : Declaration) : List Diagnostic :=
  problemsOf ((c.dao d.qualifiedName).run {}).run.1

/-- A run meets the declaration both as the DAO of a getter and as a compound that the rows of a DAO
become. -/
def MeetsTwice (c : Catalog) (d : Declaration) : Prop :=
  d ∈ c.reached ∧ ∃ dao ∈ c.reached, d.qualifiedName ∈ c.brokenRows dao

end Catalog

section Hidden

variable {c : Catalog}

theorem marked_of_mem_reached {d : Declaration} (hd : d ∈ c.reached) :
    d ∈ c.declarations ∧ Mark.has DaoMark d.annotations = true := by
  obtain ⟨database, -, hd⟩ := List.mem_flatMap.mp hd
  unfold Catalog.reachedFrom at hd
  split at hd
  · obtain ⟨f, -, hd⟩ := List.mem_flatMap.mp hd
    unfold Catalog.targets at hd
    split at hd
    · have htarget := Option.mem_toList.mp hd
      exact ⟨mem_of_getterTarget? htarget, (Option.filter_eq_some_iff.mp htarget).2⟩
    · contradiction
  · contradiction

/-- What a DAO fails with in a run of its own: its findings, all of them listed. -/
theorem mem_daoProblems {d : Declaration} (hd : d ∈ c.declarations) {p : Diagnostic} :
    p ∈ c.daoProblems d ↔
      ∃ findings, c.daoFindings d = .error findings ∧ p ∈ (Finding.list [] findings).1 := by
  have hrun : ((c.dao d.qualifiedName).run {}).run.1 = listed [] (c.daoFindings d) := by
    rw [Call.run_daoByName_fresh, Catalog.lookup_qualifiedName hd]
    rfl
  unfold Catalog.daoProblems
  rw [hrun]
  cases c.daoFindings d with
  | ok dao =>
      constructor
      · exact fun h => nomatch h
      · exact fun ⟨_, h, _⟩ => nomatch h
  | error findings =>
      constructor
      · exact fun h => ⟨findings, rfl, h⟩
      · rintro ⟨_, ⟨⟩, h⟩
        exact h

/-- A compound that fails in the rows of a DAO is a struct. -/
theorem struct_of_mem_brokenRows {d dao : Declaration} (hd : d ∈ c.declarations)
    (h : d.qualifiedName ∈ c.brokenRows dao) :
    d.isTrait = false ∧ ∃ findings anchor theirs, c.daoFindings dao = .error findings ∧
      .dependency anchor d.qualifiedName theirs ∈ findings ∧ c.compoundOf d = .error theirs := by
  cases hfindings : c.daoFindings dao with
  | ok found =>
      unfold Catalog.brokenRows at h
      rw [hfindings] at h
      contradiction
  | error findings =>
      obtain ⟨anchor, theirs, hmem⟩ := (mem_brokenRows hfindings).mp h
      obtain ⟨-, d', hd', hname, hshape, hcompound⟩ := raised_daoFindings hfindings _ hmem
      obtain rfl := Catalog.eq_of_qualifiedName_eq hd' hd hname
      have hstruct := (Catalog.struct_of_isCompound hshape).1
      exact ⟨hstruct, findings, anchor, theirs, rfl, hmem, hcompound⟩

/-- The problems of a compound that fails in the rows of a DAO are among those of the DAO. -/
theorem problems_of_compoundOf_subset {d dao : Declaration} (hd : d ∈ c.declarations)
    (hdao : dao ∈ c.declarations) (h : d.qualifiedName ∈ c.brokenRows dao) :
    problemsOf (c.compoundOf d) ⊆ c.daoProblems dao := by
  obtain ⟨-, findings, anchor, theirs, hfindings, hmem, hcompound⟩ := struct_of_mem_brokenRows hd h
  have hname : d.qualifiedName ∈ (Finding.list [] findings).2 := (Finding.listed_of_mem hmem).2
  rcases Finding.mem_list_names hname with hold | ⟨anchor', theirs', hmem', hsub⟩
  · contradiction
  · -- the first finding of the name lists what every finding of it holds
    obtain ⟨-, d', hd', hsame, -, hcompound'⟩ := raised_daoFindings hfindings _ hmem'
    obtain rfl := Catalog.eq_of_qualifiedName_eq hd' hd hsame
    intro p hp
    rw [hcompound'] at hp
    exact (mem_daoProblems hdao).mpr ⟨findings, hfindings, hsub hp⟩

/-- What a struct fails with as a DAO. -/
theorem daoProblems_of_struct {d : Declaration} (hd : d ∈ c.declarations)
    (hmark : Mark.has DaoMark d.annotations = true) (hstruct : d.isTrait = false) {p : Diagnostic} :
    p ∈ c.daoProblems d ↔ p = ⟨d.qualifiedName, .validation (.notATrait d.qualifiedName)⟩ := by
  rw [mem_daoProblems hd, daoFindings_of_struct hmark hstruct]
  constructor
  · rintro ⟨_, ⟨⟩, hp⟩
    exact List.mem_singleton.mp hp
  · rintro rfl
    exact ⟨_, rfl, List.mem_singleton_self _⟩

/-- Of what a DAO fails with, the report has everything but problems of structs that are met twice. -/
theorem reported_or_meetsTwice {dao : Declaration} (hdao : dao ∈ c.reached) {p : Diagnostic}
    (hp : p ∈ c.daoProblems dao) :
    p ∈ c.schema.diagnostics ∨ ∃ d, c.MeetsTwice d ∧
      (p ∈ c.daoProblems d ∨ p ∈ problemsOf (c.compoundOf d)) := by
  obtain ⟨hd, hmark⟩ := marked_of_mem_reached hdao
  obtain ⟨-, -, -, s, hs⟩ := schema_run c
  obtain ⟨findings, hfindings, hlisted⟩ := (mem_daoProblems hd).mp hp
  obtain ⟨answer, hanswer⟩ := hs.met dao hdao
  obtain ⟨reported, rfl⟩ := hs.sound.daos dao hd answer hanswer
  rw [hfindings] at hanswer
  cases hs.reported _ (hs.kept _ _ hanswer) with
  | compound hd' hname hstruct _ hmet hrow _ =>
      obtain rfl := Catalog.eq_of_qualifiedName_eq hd' hd hname
      exact .inr ⟨_, ⟨hdao, _, hmet, hrow⟩, .inl hp⟩
  | @dao d' findings' hmet hname hfails hall =>
      obtain rfl := Catalog.eq_of_qualifiedName_eq (marked_of_mem_reached hmet).1 hd hname
      obtain rfl : findings' = findings := Except.error.inj (hfails.symm.trans hfindings)
      rcases Finding.mem_list hlisted with hown | ⟨anchor, name, theirs, hmem, hp'⟩
      · exact .inl (hall _ hown)
      obtain ⟨hline, hname⟩ := hall _ hmem
      rcases hp' with hp' | rfl
      · obtain ⟨-, row, hrow, rfl, -, hcompound⟩ := raised_daoFindings hfindings _ hmem
        cases hs.reported _ hname with
        | compound hd'' hsame _ hfails' _ _ hsub =>
            obtain rfl := Catalog.eq_of_qualifiedName_eq hd'' hrow hsame
            rw [hcompound] at hfails'
            cases hfails'
            exact .inl (hsub hp')
        | dao hmet' hsame _ _ =>
            obtain rfl := Catalog.eq_of_qualifiedName_eq (marked_of_mem_reached hmet').1 hrow hsame
            have hbroken := (mem_brokenRows hfindings).mpr ⟨anchor, theirs, hmem⟩
            refine .inr ⟨_, ⟨hmet', _, hdao, hbroken⟩, .inr ?_⟩
            rw [hcompound]
            exact hp'
      · exact .inl hline

/-- **What the report hides**: of all that the DAOs of a run fail with, each in a run of its own, it leaves
out exactly what it leaves out of the structs that the run meets twice, as a DAO and as a compound in the
rows of one. -/
theorem hidden_iff (c : Catalog) (p : Diagnostic) :
    (p ∉ c.schema.diagnostics ∧ ∃ dao ∈ c.reached, p ∈ c.daoProblems dao) ↔
      p ∉ c.schema.diagnostics ∧ ∃ d, c.MeetsTwice d ∧
        (p = ⟨d.qualifiedName, .validation (.notATrait d.qualifiedName)⟩ ∨
          p ∈ problemsOf (c.compoundOf d)) := by
  refine and_congr_right fun hmissing => ⟨fun ⟨dao, hdao, hp⟩ => ?_, fun ⟨d, hmet, hp⟩ => ?_⟩
  · rcases reported_or_meetsTwice hdao hp with hreported | ⟨d, hmet, hp⟩
    · contradiction
    · refine ⟨d, hmet, ?_⟩
      obtain ⟨hreached, other, -, hrow⟩ := hmet
      obtain ⟨hd, hmark⟩ := marked_of_mem_reached hreached
      obtain ⟨hstruct, -⟩ := struct_of_mem_brokenRows hd hrow
      rwa [daoProblems_of_struct hd hmark hstruct] at hp
  · obtain ⟨hreached, other, hother, hrow⟩ := hmet
    obtain ⟨hd, hmark⟩ := marked_of_mem_reached hreached
    rcases hp with rfl | hp
    · obtain ⟨hstruct, -⟩ := struct_of_mem_brokenRows hd hrow
      exact ⟨d, hreached, (daoProblems_of_struct hd hmark hstruct).mpr rfl⟩
    · refine ⟨other, hother, ?_⟩
      exact problems_of_compoundOf_subset hd (marked_of_mem_reached hother).1 hrow hp

end Hidden

/-- A struct that is marked as a DAO and has the shape of a compound, with a property of no role. -/
def profileStruct : Declaration where
  qualifiedName := "app::Profile"
  annotations := [{ name := "Dao" }]
  properties :=
    [{ name := "user", type := .ofName "app::User", annotations := [{ name := "Embedded" }] },
      { name := "note", type := .ofName "String" }]

/-- A database with a DAO whose rows are to be the struct, and with the struct for another. -/
def profileCatalog : Catalog where
  declarations :=
    [{ qualifiedName := "app::User"
       annotations := [{ name := "Entity" }]
       properties :=
        [{ name := "id", type := .ofName "i64", annotations := [{ name := "PrimaryKey" }] }] },
      profileStruct,
      { qualifiedName := "app::UserDao"
        kind := .trait
        annotations := [{ name := "Dao" }]
        functions :=
          [{ name := "all"
             returnType := some { name := "Vec", arguments := [.ofName "app::Profile"] }
             annotations :=
              [{ name := "Query", arguments := [("value", .text "SELECT * FROM User")] }] }] },
      { qualifiedName := "app::Db"
        kind := .trait
        annotations :=
          [{ name := "Database"
             arguments :=
              [("entities", .array [.type (.ofName "app::User")]), ("version", .integer 1)] }]
        functions :=
          [{ name := "users", returnType := some (.ofName "&dyn app::UserDao") },
            { name := "profiles", returnType := some (.ofName "&dyn app::Profile") }] }]
  nodup := by decide

/-- The problem of the compound is reported, and that the struct is no trait is not. -/
theorem hidden_profile :
    ⟨"app::Profile", .validation (.notATrait "app::Profile")⟩ ∉ profileCatalog.schema.diagnostics ∧
      ∃ dao ∈ profileCatalog.reached,
        ⟨"app::Profile", .validation (.notATrait "app::Profile")⟩ ∈ profileCatalog.daoProblems dao := by
  have hmissing : ⟨"app::Profile", .validation (.notATrait "app::Profile")⟩ ∉
      profileCatalog.schema.diagnostics := by
    decide +kernel
  have hmet : profileStruct ∈ profileCatalog.reached ∧
      ∃ dao ∈ profileCatalog.reached, "app::Profile" ∈ profileCatalog.brokenRows dao := by
    decide +kernel
  exact (hidden_iff _ _).mpr ⟨hmissing, profileStruct, hmet, .inl rfl⟩

end DaoForge
