import DaoForge.Proofs.Resolve.Admits
import DaoForge.Proofs.Resolve.Operation

/-!
# DaoForge.Proofs.Resolve.Raised

Where problems are anchored, and which declarations they blame.

1. `Diagnostic.Raised`: a problem concerns its owner, and the only declarations that it says to have
   failed are entities that fail. So it is of every problem of an entity (`raised_entityOf`), of a
   compound (`raised_compoundOf`) and of what a database is assembled from
   (`found_assembleDatabase`);
2. what fails has a problem (`entityOf_ne_nil`, `compoundOf_ne_nil`);
3. `Finding.Ends`: the check of a function stops at its first problem, or at a compound that failed; only
   that of a query goes on from its parameters to its result;
4. `Finding.Raised`: a finding of a DAO is a problem of its own, or holds all problems of a compound
   that its rows become (`raised_daoFindings`).
-/

namespace DaoForge

/-- The name is that of a declaration that is marked as an entity and fails as one. -/
def Catalog.FailsAsEntity (c : Catalog) (name : String) : Prop :=
  ∃ d ∈ c.declarations, d.qualifiedName = name ∧ Mark.has EntityMark d.annotations = true ∧
    ∃ problems, c.entityOf d = .error problems

/-- The problem concerns its owner; if it says that a declaration failed, that is an entity which
does. -/
structure Diagnostic.Raised (c : Catalog) (owner : String) (p : Diagnostic) : Prop where
  concerns : p.Concerns owner
  dependency : ∀ name ∈ p.error.dependency?, c.FailsAsEntity name

section Raised

open Diagnostic (Anchors anchors_self anchors_member)

variable {c : Catalog} {owner anchor : String}

/-- A problem that blames nobody. -/
theorem raised_of_none {error : SpecError} (h : Anchors owner anchor)
    (hnone : error.dependency? = none) : Diagnostic.Raised c owner ⟨anchor, error⟩ := by
  refine ⟨h, fun name hname => ?_⟩
  have hblamed : error.dependency? = some name := hname
  rw [hnone] at hblamed
  contradiction

theorem raised_singleton {error : SpecError} (h : Anchors owner anchor)
    (hnone : error.dependency? = none) : ∀ p ∈ [Diagnostic.mk anchor error], p.Raised c owner :=
  List.forall_mem_singleton.mpr (raised_of_none h hnone)

theorem raised_fail {α : Type} {error : SpecError} (h : Anchors owner anchor)
    (hnone : error.dependency? = none) :
    (Checked.fail [Diagnostic.mk anchor error] : Checked Diagnostic α).Finds
      (Diagnostic.Raised c owner) :=
  Checked.finds_fail (raised_singleton h hnone)

theorem admits_raised (c : Catalog) (owner : String) :
    Diagnostic.Admits c owner (Diagnostic.Raised c owner) where
  plain hanchor hplain := raised_of_none hanchor (SpecError.dependency?_of_isPlain hplain)
  failed hanchor hd hmark hfails := by
    refine ⟨hanchor, ?_⟩
    rintro _ ⟨⟩
    exact ⟨_, hd, rfl, hmark, _, hfails⟩

theorem raised_readMark {R : Type} [MarkRecord R] {annotations : List Mark}
    (h : Anchors owner anchor) : ∀ p ∈ (readMark R anchor annotations).2, p.Raised c owner :=
  (admits_raised c owner).readMark h

/-! ## members -/

/-- The findings of the properties of an entity, all of them its own. -/
structure MemberFindings.Raised (c : Catalog) (owner : String) (f : MemberFindings) : Prop where
  diagnostics : ∀ p ∈ f.diagnostics, p.Raised c owner
  keys : ∀ key ∈ f.keys, Anchors owner key.anchor

theorem raised_concat {findings : List MemberFindings} (h : ∀ f ∈ findings, f.Raised c owner) :
    (MemberFindings.concat findings).Raised c owner := by
  constructor
  · intro p hp
    obtain ⟨f, hf, hp⟩ := List.mem_flatMap.mp hp
    exact (h f hf).diagnostics p hp
  · intro key hkey
    obtain ⟨f, hf, hkey⟩ := List.mem_flatMap.mp hkey
    exact (h f hf).keys key hkey

theorem raised_problem {error : SpecError} (h : Anchors owner anchor)
    (hnone : error.dependency? = none) : (MemberFindings.problem anchor error).Raised c owner :=
  ⟨raised_singleton h hnone, List.forall_mem_nil _⟩

theorem dependency?_of_embeddedTarget {s : MemberScope} {p : Property} {error : SpecError}
    (h : embeddedTarget c s p = .error error) : error.dependency? = none := by
  unfold embeddedTarget at h
  split at h
  · cases h
    rfl
  split at h
  · cases h
    rfl
  split at h
  · cases h
    rfl
  · contradiction

theorem raised_memberFindings (c : Catalog) (depth : Nat) (s : MemberScope) (p : Property) :
    (memberFindings c depth s p).Raised c s.entity := by
  have hanchor (s : MemberScope) (p : Property) : Anchors s.entity (s.anchorOf p) :=
    anchors_member s.entity (s.pathOf p)
  induction depth, s, p using memberFindings_induction (c := c) with
  | malformed depth s p faults hmarks =>
      exact ⟨(admits_raised c _).marks (hanchor s p) hmarks, List.forall_mem_nil _⟩
  | ignored depth s p marks reason hmarks =>
      unfold ignoredMember
      split
      · exact raised_problem (hanchor s p) rfl
      · exact ⟨List.forall_mem_nil _, List.forall_mem_nil _⟩
  | column depth s p marks hmarks =>
      unfold columnMember
      split
      · exact raised_problem (hanchor s p) rfl
      · refine ⟨List.forall_mem_nil _, List.forall_mem_map.mpr fun record _ => ?_⟩
        exact hanchor s p
  | untargeted depth s p error htarget =>
      exact raised_problem (hanchor s p) (dependency?_of_embeddedTarget htarget)
  | exhausted s p target htarget => exact ⟨List.forall_mem_nil _, List.forall_mem_nil _⟩
  | embedded depth s p marks embedded target htarget ih =>
      have hinner : MemberFindings.Raised c s.entity _ :=
        raised_concat (List.forall_mem_map.mpr ih)
      constructor
      · refine List.forall_mem_append.mpr ⟨hinner.diagnostics, ?_⟩
        exact (admits_raised c _).construction _ _ (hanchor s p)
      · refine List.forall_mem_append.mpr ⟨hinner.keys, List.forall_mem_map.mpr fun record _ => ?_⟩
        exact hanchor s p

theorem raised_findings (c : Catalog) (d : Declaration) (record : EntityMark) :
    (c.findings d record).Raised c d.qualifiedName := by
  refine raised_concat (List.forall_mem_map.mpr fun p _ => ?_)
  exact raised_memberFindings c c.size
    { entity := d.qualifiedName, ignored := record.ignoredColumns, chain := [d.qualifiedName] } p

/-! ## entities -/

theorem raised_shapeOf {d : Declaration} {record : EntityMark} {problems : List Diagnostic}
    (h : c.shapeOf d record = .error problems) : ∀ p ∈ problems, p.Raised c d.qualifiedName := by
  have hself := anchors_self d.qualifiedName
  unfold Catalog.shapeOf at h
  extract_lets owner unknown scope findings stored at h
  split at h
  next construction constructionFaults hconstruction =>
  extract_lets entity duplicates key keyed at h
  split at h
  next indices indexFaults hindices =>
  split at h
  · contradiction
  · cases h
    have hfindings : findings.Raised c d.qualifiedName := raised_findings c d record
    have hdeclaration : keyed.declaration = d.qualifiedName := by
      unfold keyed
      split <;> rfl
    simp only [List.forall_mem_append]
    refine ⟨⟨⟨⟨⟨?_, hfindings.diagnostics⟩, ?_⟩, ?_⟩, ?_⟩, ?_⟩
    · exact List.forall_mem_map.mpr fun name _ => raised_of_none hself rfl
    · have hraised := (admits_raised c _).construction d stored hself
      rw [hconstruction] at hraised
      exact hraised
    · exact List.forall_mem_map.mpr fun name _ => raised_of_none hself rfl
    · exact (admits_raised c d.qualifiedName).resolvePrimaryKey (e := entity) hfindings.keys
    · have hraised := (admits_raised c keyed.declaration).resolveIndices (e := keyed) record
      rw [hindices, hdeclaration] at hraised
      exact hraised

theorem raised_entityShape {d : Declaration} {problems : List Diagnostic}
    (h : c.entityShape d = .error problems) : ∀ p ∈ problems, p.Raised c d.qualifiedName := by
  have hself := anchors_self d.qualifiedName
  unfold Catalog.entityShape at h
  split at h
  · cases h
    exact raised_singleton hself rfl
  split at h
  · exact raised_shapeOf h
  · cases h
    exact raised_singleton hself rfl
  · cases h
    exact raised_singleton hself rfl

theorem entityShape_ne_nil {d : Declaration} {problems : List Diagnostic}
    (h : c.entityShape d = .error problems) : problems ≠ [] := by
  unfold Catalog.entityShape at h
  split at h
  · cases h
    exact List.cons_ne_nil _ _
  split at h
  · unfold Catalog.shapeOf at h
    simp only at h
    split at h
    · contradiction
    · next faults hfaults =>
      cases h
      exact hfaults
  · cases h
    exact List.cons_ne_nil _ _
  · cases h
    exact List.cons_ne_nil _ _

/-- An entity whose shape resolves fails with its foreign keys. -/
theorem foreignKeys_of_entityOf_error {d : Declaration} {shape : Entity}
    {problems : List Diagnostic} (hshape : c.entityShape d = .ok shape)
    (h : c.entityOf d = .error problems) :
    (CheckedT.all (d.foreignKeyMarks.map
      (c.foreignKey (.known c.entityShape) shape))).run.run.toExcept = .error problems := by
  unfold Catalog.entityOf Catalog.resolveEntity at h
  rw [Resolver.known_apply, pure_bind, hshape] at h
  exact eq_error_of_map h

/-- **The problems of an entity** are its own. -/
theorem raised_entityOf {d : Declaration} {problems : List Diagnostic}
    (h : c.entityOf d = .error problems) : ∀ p ∈ problems, p.Raised c d.qualifiedName := by
  cases hshape : c.entityShape d with
  | error faults =>
      rw [entityOf_of_entityShape_error hshape] at h
      cases h
      exact raised_entityShape hshape
  | ok shape =>
      have hkeys := foreignKeys_of_entityOf_error hshape h
      refine Checked.Finds.of_toExcept ?_ hkeys
      rw [← declaration_of_entityShape hshape]
      exact CheckedT.finds_all fun mark _ => (admits_raised c shape.declaration).foreignKey

theorem entityOf_ne_nil {d : Declaration} {problems : List Diagnostic}
    (h : c.entityOf d = .error problems) : problems ≠ [] := by
  cases hshape : c.entityShape d with
  | error faults =>
      rw [entityOf_of_entityShape_error hshape] at h
      cases h
      exact entityShape_ne_nil hshape
  | ok shape => exact Checked.toExcept_ne_nil rfl (foreignKeys_of_entityOf_error hshape h)

theorem raised_dependentEntity {t : TypeExpr} (h : Anchors owner anchor) :
    (c.dependentEntity (.known c.entityOf) anchor t).run.run.Finds (Diagnostic.Raised c owner) :=
  (admits_raised c owner).dependentEntity h

/-- **The problems of a compound** are its own. -/
theorem raised_compoundOf {d : Declaration} {problems : List Diagnostic}
    (h : c.compoundOf d = .error problems) : ∀ p ∈ problems, p.Raised c d.qualifiedName :=
  (admits_raised c d.qualifiedName).compoundOf h

/-! ## compounds -/

theorem decides_compoundBody (c : Catalog) (d : Declaration) (roles : List CompoundRole)
    (construction : Construction) :
    (c.compoundBody (.known c.entityOf) d roles construction).run.run.Decides := by
  unfold Catalog.compoundBody
  refine CheckedT.decides_bind ?_ fun mainProperty => ?_
  · have hmain : (d.mainProperty roles).Decides := by
      unfold Declaration.mainProperty
      simp only
      split
      · exact Checked.decides_pure _
      · exact Checked.decides_fail (List.cons_ne_nil _ _)
    exact hmain
  refine CheckedT.decides_bind (decides_dependentEntity c _ _) fun main => ?_
  refine CheckedT.decides_bind ?_ fun relations => Checked.decides_pure _
  exact fun _ => ⟨_, rfl⟩

theorem compoundOf_ne_nil {d : Declaration} {problems : List Diagnostic}
    (h : c.compoundOf d = .error problems) : problems ≠ [] := by
  unfold Catalog.compoundOf Catalog.resolveCompound at h
  split at h
  · cases h
    exact List.cons_ne_nil _ _
  extract_lets owner kept properties named at h
  split at h
  next construction constructionFaults hconstruction =>
  refine Checked.Decides.toExcept_ne_nil ?_ h
  intro hfound
  have hbody := (List.append_eq_nil_iff.mp (List.append_eq_nil_iff.mp hfound).1).2
  exact decides_compoundBody c d _ _ hbody

/-! ## databases -/

theorem raised_listedConverter {t : TypeExpr} :
    (c.listedConverter owner t).Finds (Diagnostic.Raised c owner) := by
  have hself := anchors_self owner
  unfold Catalog.listedConverter
  refine .bind (Checked.finds_ofOption _ fun _ => raised_of_none hself rfl) fun d _ => ?_
  simp only
  split
  · exact raised_fail hself rfl
  split
  · exact raised_fail hself rfl
  split
  · exact raised_fail hself rfl
  · exact Checked.finds_pure _

theorem raised_addConverter {taken : List Converter × List Diagnostic}
    {candidate : Checked Diagnostic Converter} (htaken : ∀ p ∈ taken.2, p.Raised c owner)
    (hcandidate : candidate.Finds (Diagnostic.Raised c owner)) :
    ∀ p ∈ (Catalog.addConverter owner taken candidate).2, p.Raised c owner := by
  have hboth := List.forall_mem_append.mpr ⟨htaken, hcandidate⟩
  unfold Catalog.addConverter
  split
  · exact hboth
  split
  · exact hboth
  · exact List.forall_mem_append.mpr ⟨hboth, raised_singleton (anchors_self owner) rfl⟩

theorem raised_provideAdapter {taken : List Converter × List Diagnostic} {reference : AdapterKey}
    (htaken : ∀ p ∈ taken.2, p.Raised c owner) :
    ∀ p ∈ (Catalog.provideAdapter owner taken reference).2, p.Raised c owner := by
  unfold Catalog.provideAdapter
  split
  · exact htaken
  simp only
  split
  · exact htaken
  · exact List.forall_mem_append.mpr ⟨htaken, raised_singleton (anchors_self owner) rfl⟩

/-- What a database is assembled with: the problems of its entities and getters are listed, and all
others are its own. -/
theorem found_assembleDatabase {version : Int64} {converters : TypeConvertersMark}
    {listed : Checked Diagnostic (List Entity)} {getters : Checked Diagnostic (List DaoGetter)}
    {p : Diagnostic}
    (hp : p ∈ (c.assembleDatabase owner version converters listed getters).found) :
    p ∈ listed.found ∨ p ∈ getters.found ∨ p.Raised c owner := by
  have hconverters : ∀ p ∈ ((converters.value.map (c.listedConverter owner)).foldl
      (Catalog.addConverter owner) ([], [])).2, p.Raised c owner := by
    refine forall_foldl ?_
    intro taken htaken candidate hcandidate
    obtain ⟨t, -, rfl⟩ := List.mem_map.mp hcandidate
    exact raised_addConverter htaken raised_listedConverter
  have hadapters (adapters : List AdapterKey) (declared : List Converter) :
      ∀ p ∈ (adapters.foldl (Catalog.provideAdapter owner) (declared, [])).2, p.Raised c owner := by
    refine forall_foldl ?_
    intro taken htaken reference _
    exact raised_provideAdapter htaken
  simp only [Catalog.assembleDatabase, List.mem_append] at hp
  rcases hp with (((hp | hp) | hp) | hp) | hp
  · exact .inl hp
  · exact .inr (.inr (hconverters p hp))
  · exact .inr (.inl hp)
  · obtain ⟨name, -, rfl⟩ := List.mem_map.mp hp
    exact .inr (.inr (raised_of_none (anchors_self owner) rfl))
  · exact .inr (.inr (hadapters _ _ p hp))

/-! ## findings -/

/-- A compound is a struct, and no entity. -/
theorem Catalog.struct_of_isCompound {d : Declaration} (h : c.isCompound d = true) :
    d.isTrait = false ∧ Mark.has EntityMark d.annotations = false := by
  simp only [Catalog.isCompound, Bool.and_eq_true, Bool.not_eq_true'] at h
  exact h.1

/-- A finding of an owner's function: a problem of the owner, or a compound that its rows become, with
all the problems that the compound fails with. -/
def Finding.Raised (c : Catalog) (owner : String) : Finding → Prop
  | .own p => p.Raised c owner
  | .dependency anchor name theirs =>
    Anchors owner anchor ∧
      ∃ d ∈ c.declarations, d.qualifiedName = name ∧ c.isCompound d = true ∧
        c.compoundOf d = .error theirs

/-- A finding at which the check of a function stops: a problem that is there, which is no mismatch of
placeholders, or a compound that failed. -/
inductive Finding.Ends (c : Catalog) (anchor : String) : Finding → Prop
  | own {error : SpecError} (hmatches : error.isMismatch = false)
      (hblames : ∀ name ∈ error.dependency?, c.FailsAsEntity name) : Ends c anchor (.own ⟨anchor, error⟩)
  | dependency {d : Declaration} {theirs : List Diagnostic} (hd : d ∈ c.declarations)
      (hcompound : c.isCompound d = true) (hfails : c.compoundOf d = .error theirs) :
      Ends c anchor (.dependency anchor d.qualifiedName theirs)

theorem ends_plain {error : SpecError} (h : error.isPlain = true) :
    (Finding.own ⟨anchor, error⟩).Ends c anchor := by
  refine .own (SpecError.isMismatch_of_isPlain h) ?_
  rw [SpecError.dependency?_of_isPlain h]
  exact fun _ h => nomatch h

theorem stops_fail_problem {α : Type} {error : SpecError} (h : error.isPlain = true) :
    (Checked.fail [problem anchor error] : Checked Finding α).Stops (Finding.Ends c anchor) :=
  .problem (ends_plain h)

section Stops

variable {f : Function}

theorem stops_readOperation {R : Type} [MarkRecord R] {wrap : R → OperationMark}
    (h : Mark.isPresent f.annotations (MarkRecord.name R) = true) :
    (readOperation anchor f.annotations wrap).Stops (Finding.Ends c anchor) := by
  have hdecides : (readOperation anchor f.annotations wrap).Decides := decides_readOperation wrap h
  unfold readOperation at hdecides ⊢
  cases hfind : Mark.find R f.annotations with
  | error error => exact stops_fail_problem rfl
  | ok found =>
      cases found with
      | some mark => exact .value _
      | none =>
          rw [hfind] at hdecides
          obtain ⟨_, hvalue⟩ := hdecides rfl
          contradiction

theorem stops_operationMark : (f.operationMark anchor).Stops (Finding.Ends c anchor) := by
  unfold Function.operationMark
  split
  · exact stops_fail_problem rfl
  · next reader hreader =>
    obtain ⟨hmem, hpresent⟩ := List.mem_filter.mp (hreader ▸ List.mem_singleton_self reader)
    simp only [operationReaders, List.mem_cons, List.not_mem_nil, or_false] at hmem
    rcases hmem with rfl | rfl | rfl | rfl
    all_goals exact stops_readOperation hpresent
  · exact stops_fail_problem rfl

theorem stops_writeShape {returns : TypeExpr} :
    (writeShape f returns anchor).Stops (Finding.Ends c anchor) := by
  unfold writeShape
  split
  · exact .value _
  split
  · exact .value _
  · exact stops_fail_problem rfl

theorem stops_scalarRow {t : TypeExpr} : (c.scalarRow t anchor).Stops (Finding.Ends c anchor) :=
  Checked.stops_ofOption (ends_plain rfl) _

theorem stops_dependentEntity {t : TypeExpr} :
    ((c.dependentEntity (.known c.entityOf) anchor t).mapFound Finding.own).run.run.Stops
      (Finding.Ends c anchor) := by
  have hentity : (c.dependentEntity (.known c.entityOf) anchor t).run.run.Stops
      fun p => (Finding.own p).Ends c anchor := by
    unfold Catalog.dependentEntity
    refine CheckedT.stops_bind (Checked.stops_ofOption ?_ _) fun d hd => ?_
    · exact ends_plain rfl
    rw [value?_lift, Checked.value?_ofOption] at hd
    split
    · next hmark =>
      rw [Resolver.known_apply]
      cases hanswer : c.entityOf d with
      | ok e => exact .value e
      | error problems =>
          refine .problem (.own rfl ?_)
          rintro _ ⟨⟩
          exact ⟨d, Catalog.mem_of_resolve? hd, rfl, hmark, problems, hanswer⟩
    · exact .problem (ends_plain rfl)
  exact hentity.mapFound fun _ h => h

theorem stops_compoundRow {d : Declaration} (hd : d ∈ c.declarations)
    (hcompound : c.isCompound d = true) :
    (compoundRow (.known c.compoundOf) d anchor).run.run.Stops (Finding.Ends c anchor) := by
  unfold compoundRow
  rw [Resolver.known_apply, pure_bind]
  cases hanswer : c.compoundOf d with
  | ok compound => exact .value compound
  | error theirs => exact .problem (.dependency hd hcompound hanswer)

theorem stops_rowType {t : TypeExpr} :
    (c.rowType (.known c.entityOf) (.known c.compoundOf) t anchor).run.run.Stops
      (Finding.Ends c anchor) := by
  unfold Catalog.rowType
  split
  · exact stops_scalarRow
  next d hd =>
  split
  · exact CheckedT.stops_bind stops_dependentEntity fun _ _ => .value _
  split
  · next hcompound =>
    exact CheckedT.stops_bind (stops_compoundRow (Catalog.mem_of_resolve? hd) hcompound) fun _ _ => .value _
  · exact stops_scalarRow

theorem stops_readShape {returns : TypeExpr} :
    (c.readShape (.known c.entityOf) (.known c.compoundOf) f returns anchor).run.run.Stops
      (Finding.Ends c anchor) := by
  have hrow (t : TypeExpr) (wrap : RowType → ReturnShape) := CheckedT.stops_bind
    (stops_rowType : (c.rowType (.known c.entityOf) (.known c.compoundOf) t anchor).run.run.Stops _)
    fun row _ => .value (wrap row)
  unfold Catalog.readShape
  split
  · exact stops_fail_problem rfl
  split
  · exact hrow _ _
  split
  · exact hrow _ _
  · exact hrow _ _

theorem stops_queryShape {q : RawQuery} {returns : TypeExpr} :
    (c.queryShape (.known c.entityOf) (.known c.compoundOf) f q returns anchor).run.run.Stops
      (Finding.Ends c anchor) := by
  unfold Catalog.queryShape
  split
  · exact stops_readShape
  · exact stops_writeShape

theorem stops_targetType {p : Parameter} {expected : Option TypeExpr} :
    (c.targetType p expected anchor).Stops (Finding.Ends c anchor) := by
  unfold Catalog.targetType
  split
  next type isList _ =>
  extract_lets mismatch
  have hmismatch (t : TypeExpr) : (mismatch t).Stops (Finding.Ends c anchor) :=
    stops_fail_problem rfl
  split
  · extract_lets agrees
    split
    · exact hmismatch _
    · exact .value _
  · split
    · exact hmismatch _
    · exact .value _

theorem stops_entityOperation {expected : Option TypeExpr} {strategy : ConflictStrategy}
    {wrap : EntityOperation → OperationKind} {returns : TypeExpr} :
    (c.entityOperation (.known c.entityOf) f expected strategy wrap returns anchor).run.run.Stops
      (Finding.Ends c anchor) := by
  unfold Catalog.entityOperation
  split
  · refine CheckedT.stops_bind stops_targetType fun (type, isList) _ => ?_
    refine CheckedT.stops_bind stops_dependentEntity fun entity _ => ?_
    exact CheckedT.stops_bind stops_writeShape fun _ _ => .value _
  · exact stops_fail_problem rfl

end Stops

theorem finding_raised_problem {error : SpecError} (h : Anchors owner anchor)
    (hnone : error.dependency? = none) : (problem anchor error).Raised c owner :=
  raised_of_none h hnone

/-- A check that stops finds what is raised. -/
theorem raised_of_stops {α : Type} {check : Checked Finding α} (h : Anchors owner anchor)
    (hstops : check.Stops (Finding.Ends c anchor)) : check.Finds (Finding.Raised c owner) := by
  refine hstops.finds ?_
  rintro _ (⟨-, hblames⟩ | ⟨hd, hcompound, hfails⟩)
  · exact ⟨h, hblames⟩
  · exact ⟨h, _, hd, rfl, hcompound, hfails⟩

section Operations

variable {f : Function} (h : Anchors owner anchor)

include h

theorem raised_queryParameter {p : Parameter} :
    (c.queryParameter anchor p).Finds (Finding.Raised c owner) := by
  unfold Catalog.queryParameter
  refine .bind ?_ fun _ _ => Checked.finds_pure _
  exact Checked.finds_ofOption _ fun _ => finding_raised_problem h rfl

theorem raised_bindingFaults {placeholders parameters : List String} :
    ∀ finding ∈ bindingFaults anchor placeholders parameters, finding.Raised c owner := by
  refine List.forall_mem_append.mpr ⟨?_, ?_⟩
  · exact List.forall_mem_map.mpr fun name _ => finding_raised_problem h rfl
  · exact List.forall_mem_map.mpr fun name _ => finding_raised_problem h rfl

theorem raised_rawOperation {mark : QueryMark} {returns : TypeExpr} :
    (c.rawOperation (.known c.entityOf) (.known c.compoundOf) f mark returns
      anchor).run.run.Finds (Finding.Raised c owner) := by
  unfold Catalog.rawOperation
  split
  · exact raised_of_stops h (stops_fail_problem rfl)
  split
  · exact Checked.finds_fail (List.forall_mem_singleton.mpr (finding_raised_problem h rfl))
  have hparameters : (Checked.all (f.parameters.map (c.queryParameter anchor))).Finds
      (Finding.Raised c owner) :=
    Checked.finds_all (List.forall_mem_map.mpr fun p _ => raised_queryParameter h)
  refine CheckedT.finds_bind hparameters fun parameters _ => ?_
  refine CheckedT.finds_bind (Checked.finds_report (raised_bindingFaults h)) fun _ _ => ?_
  exact CheckedT.finds_bind (raised_of_stops h stops_queryShape) fun _ _ => Checked.finds_pure _

theorem raised_operationBody {mark : OperationMark} {returns : TypeExpr} :
    (c.operationBody (.known c.entityOf) (.known c.compoundOf) f mark returns
      anchor).run.run.Finds (Finding.Raised c owner) := by
  cases mark with
  | query mark => exact raised_rawOperation h
  | insert mark => exact raised_of_stops h stops_entityOperation
  | update mark => exact raised_of_stops h stops_entityOperation
  | delete mark => exact raised_of_stops h stops_entityOperation

end Operations

theorem raised_operation {f : Function} :
    (c.operation (.known c.entityOf) (.known c.compoundOf) owner f).run.run.Finds
      (Finding.Raised c owner) := by
  have hanchor := anchors_member owner f.name
  unfold Catalog.operation
  refine CheckedT.finds_bind (raised_of_stops hanchor stops_operationMark) fun mark _ => ?_
  exact CheckedT.finds_bind (raised_operationBody hanchor) fun _ _ => Checked.finds_pure _

/-- A DAO that is marked so and is no trait has one problem, that it is none. -/
theorem daoFindings_of_struct {d : Declaration} (hmark : Mark.has DaoMark d.annotations = true)
    (hstruct : d.isTrait = false) :
    c.daoFindings d =
      .error [problem d.qualifiedName (.validation (.notATrait d.qualifiedName))] := by
  simp [Catalog.daoFindings, Catalog.resolveDao, hmark, hstruct]

/-- **The findings of a DAO** are its own, or those of compounds that fail. -/
theorem raised_daoFindings {d : Declaration} {findings : List Finding}
    (h : c.daoFindings d = .error findings) : ∀ f ∈ findings, f.Raised c d.qualifiedName := by
  have hself := anchors_self d.qualifiedName
  unfold Catalog.daoFindings Catalog.resolveDao at h
  split at h
  · cases h
    exact List.forall_mem_singleton.mpr (finding_raised_problem hself rfl)
  split at h
  · cases h
    exact List.forall_mem_singleton.mpr (finding_raised_problem hself rfl)
  · have hbody : (c.daoBody (.known c.entityOf) (.known c.compoundOf) d).run.run.Finds
        (Finding.Raised c d.qualifiedName) := by
      unfold Catalog.daoBody
      refine CheckedT.finds_bind (Checked.finds_report ?_) fun _ _ => ?_
      · exact List.forall_mem_map.mpr (raised_readMark hself)
      refine CheckedT.finds_bind ?_ fun _ _ => Checked.finds_pure _
      exact CheckedT.finds_all fun f _ => raised_operation
    exact hbody.of_toExcept h

/-- Only a trait depends on compounds. -/
theorem isTrait_of_dependency {d : Declaration} {findings : List Finding}
    (h : c.daoFindings d = .error findings) {name : String} {theirs : List Diagnostic}
    (hmem : .dependency anchor name theirs ∈ findings) : d.isTrait = true := by
  unfold Catalog.daoFindings Catalog.resolveDao at h
  split at h
  · cases h
    cases List.mem_singleton.mp hmem
  split at h
  · cases h
    cases List.mem_singleton.mp hmem
  · next htrait => simpa using htrait

end Raised

end DaoForge
