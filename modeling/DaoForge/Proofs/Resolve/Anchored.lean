import DaoForge.Proofs.Resolve.Report

/-!
# DaoForge.Proofs.Resolve.Anchored

Problems that are anchored at the name of an entity which resolves.

1. `Diagnostic.Stems`: whose problem it is: that of an entity or compound which fails, or of a trait; or
   that something is no trait. So it is of every diagnostic of a schema (`stems_of_mem_diagnostics`);
2. `member_of_generation`: a problem of the generation family is anchored at a member of another
   declaration, of which the anchor is spelled like the name.
-/

namespace DaoForge

variable {c : Catalog}

/-- Whose problem it is. -/
inductive Diagnostic.Stems (c : Catalog) (p : Diagnostic) : Prop where
  | entity {d : Declaration} (hd : d ∈ c.declarations) (h : p ∈ problemsOf (c.entityOf d))
  | compound {d : Declaration} (hd : d ∈ c.declarations) (hshape : c.isCompound d = true)
      (h : p ∈ problemsOf (c.compoundOf d))
  | ofTrait {d : Declaration} (hd : d ∈ c.declarations) (htrait : d.isTrait = true)
      (h : p.Concerns d.qualifiedName)
  | noTrait {name : String} (h : p = ⟨name, .validation (.notATrait name)⟩)

/-- What is listed for a DAO that fails. -/
theorem stems_of_daoFindings {d : Declaration} (hd : d ∈ c.declarations)
    (hmark : Mark.has DaoMark d.annotations = true) {findings : List Finding}
    (h : c.daoFindings d = .error findings) {reported : List String} :
    ∀ p ∈ (Finding.list reported findings).1, p.Stems c := by
  intro p hp
  by_cases htrait : d.isTrait = true
  · have hraised := raised_daoFindings h
    rcases Finding.mem_list hp with hown | ⟨anchor, name, theirs, hmem, hp⟩
    · exact .ofTrait hd htrait (Diagnostic.Raised.concerns (hraised _ hown))
    obtain ⟨hanchor, d', hd', -, hshape, hfails⟩ := hraised _ hmem
    rcases hp with hp | rfl
    · exact .compound hd' hshape (hfails ▸ hp)
    · exact .ofTrait hd htrait hanchor
  · rw [daoFindings_of_struct hmark (Bool.eq_false_iff.mpr htrait)] at h
    cases h
    rcases Finding.mem_list hp with hown | ⟨anchor, name, theirs, hmem, -⟩
    · cases List.mem_singleton.mp hown
      exact .noTrait rfl
    · cases List.mem_singleton.mp hmem

section Databases

variable {d : Declaration} (hd : d ∈ c.declarations)

include hd

theorem yields_stems_getter (htrait : d.isTrait = true) (f : Function) :
    Yields (Session.Sound c) (c.getter d.qualifiedName f) fun getter =>
      ∀ p ∈ getter.found, p.Stems c := by
  have hanchor := Diagnostic.anchors_member d.qualifiedName f.name
  unfold Catalog.getter
  split
  · exact yields_pure (List.forall_mem_singleton.mpr (.ofTrait hd htrait hanchor))
  split
  · exact yields_pure (List.forall_mem_singleton.mpr (.ofTrait hd htrait hanchor))
  · next target htarget =>
    have hmem := mem_of_getterTarget? htarget
    have hmark : Mark.has DaoMark target.annotations = true :=
      (Option.filter_eq_some_iff.mp htarget).2
    refine (yields_dao c hmem).bind ?_
    rintro _ ⟨reported, rfl⟩
    cases hfindings : c.daoFindings target with
    | ok dao => exact yields_pure (List.forall_mem_nil _)
    | error findings =>
        refine Yields.bind (yields_list c _) ?_
        rintro _ ⟨reported', rfl⟩
        refine yields_pure fun p hp => ?_
        rcases Finding.mem_list hp with hown | ⟨anchor, name, theirs, hline, hp⟩
        · cases List.mem_singleton.mp hown
        · cases List.mem_singleton.mp hline
          rcases hp with hp | rfl
          · exact stems_of_daoFindings hmem hmark hfindings p hp
          · exact .ofTrait hd htrait hanchor

theorem yields_stems_databaseOf :
    Yields (Session.Sound c) (c.databaseOf d) fun answer => ∀ p ∈ problemsOf answer, p.Stems c := by
  have hself := Diagnostic.anchors_self d.qualifiedName
  unfold Catalog.databaseOf
  by_cases htrait : d.isTrait = true
  · simp only [htrait, Bool.not_true, Bool.false_eq_true, if_false]
    split
    · exact yields_pure (List.forall_mem_singleton.mpr (.ofTrait hd htrait hself))
    · exact yields_pure (List.forall_mem_singleton.mpr (.ofTrait hd htrait hself))
    next record _ =>
    unfold Catalog.markedDatabase
    refine (yields_knownEntities d record).bind ?_
    rintro _ rfl
    refine (yields_mapM fun f _ => yields_stems_getter hd htrait f).bind fun getters h => ?_
    refine yields_pure fun p hp => ?_
    rw [problemsOf_toExcept rfl] at hp
    rcases List.mem_append.mp hp with hmark | hassembled
    · exact .ofTrait hd htrait (raised_readMark (c := c) hself p hmark).concerns
    rcases found_assembleDatabase hassembled with hlisted | hgetters | hraised
    · have hall : (c.knownEntities d record).Finds (Diagnostic.Raised c d.qualifiedName) :=
        CheckedT.finds_all fun t _ => raised_dependentEntity hself
      exact .ofTrait hd htrait (hall p hlisted).concerns
    · obtain ⟨getter, hmem, hp⟩ := List.mem_flatMap.mp hgetters
      obtain ⟨f, -, hstems⟩ := exists_of_forall₂ h hmem
      exact hstems p hp
    · exact .ofTrait hd htrait hraised.concerns
  · simp only [htrait, Bool.not_false, if_true]
    exact yields_pure (List.forall_mem_singleton.mpr (.noTrait rfl))

end Databases

theorem stems_of_mem_diagnostics {p : Diagnostic} (hp : p ∈ c.schema.diagnostics) : p.Stems c := by
  obtain ⟨answers, hdiagnostics, hanswers, -⟩ := schema_run_of fun d hd =>
    yields_stems_databaseOf (Catalog.mem_annotatedWith.mp hd).1
  rw [hdiagnostics, mem_distinct, List.mem_append, List.mem_flatMap, List.mem_flatMap] at hp
  rcases hp with ⟨answer, hanswer, hp⟩ | ⟨answer, hanswer, hp⟩
  · obtain ⟨d, hd, rfl⟩ := List.mem_map.mp hanswer
    exact .entity (Catalog.mem_annotatedWith.mp hd).1 hp
  · obtain ⟨d, -, hstems⟩ := exists_of_forall₂ hanswers hanswer
    exact hstems p hp

/-- An entity of the schema is that of a struct which is marked so. -/
theorem declaration_of_mem_schema {e : Entity} (he : e ∈ c.schema.entities) :
    ∃ d ∈ c.declarations, d.qualifiedName = e.declaration ∧ d.isTrait = false ∧
      Mark.has EntityMark d.annotations = true ∧ c.entityOf d = .ok e := by
  obtain ⟨d, hd, hmark, hentity⟩ := mem_schema_entities.mp he
  obtain ⟨shape, -, hshape, -⟩ := shape_of_entityOf hentity
  obtain ⟨hstruct, -⟩ := shapedBy_of_entityShape hshape
  exact ⟨d, hd, (declaration_of_entityOf hentity).symm, hstruct, hmark, hentity⟩

/-- A problem that concerns a declaration and is not anchored at it is anchored at a member. -/
theorem member_of_concerns {d : Declaration} (hd : d ∈ c.declarations) {p : Diagnostic}
    (h : p.Concerns d.qualifiedName) (hne : p.declaration ≠ d.qualifiedName) :
    ∃ d ∈ c.declarations, ∃ member, p.declaration = Diagnostic.memberAnchor d.qualifiedName member :=
  ⟨d, hd, h.resolve_left hne⟩

theorem member_of_generation {e : Entity} (he : e ∈ c.schema.entities) {error : GenerationError}
    (h : ⟨e.declaration, .generation error⟩ ∈ c.schema.diagnostics) :
    ∃ d ∈ c.declarations, ∃ member, e.declaration = Diagnostic.memberAnchor d.qualifiedName member := by
  obtain ⟨own, hown, hname, hstruct, hmark, hentity⟩ := declaration_of_mem_schema he
  have hsame : ∀ d ∈ c.declarations, e.declaration = d.qualifiedName → d = own := by
    intro d hd heq
    exact Catalog.eq_of_qualifiedName_eq hd hown (heq.symm.trans hname.symm)
  cases stems_of_mem_diagnostics h with
  | @entity d hd h =>
      refine member_of_concerns hd (raised_of_mem_problemsOf_entityOf h).concerns fun heq => ?_
      rw [hsame d hd heq, hentity] at h
      contradiction
  | @compound d hd hcompound h =>
      cases hanswer : c.compoundOf d with
      | ok compound =>
          rw [hanswer] at h
          contradiction
      | error problems =>
          rw [hanswer] at h
          refine member_of_concerns hd (raised_compoundOf hanswer _ h).concerns fun heq => ?_
          obtain ⟨-, hunmarked⟩ := Catalog.struct_of_isCompound hcompound
          rw [hsame d hd heq, hmark] at hunmarked
          contradiction
  | @ofTrait d hd htrait h =>
      refine member_of_concerns hd h fun heq => ?_
      rw [hsame d hd heq, hstruct] at htrait
      contradiction
  | noTrait h => cases h

end DaoForge
