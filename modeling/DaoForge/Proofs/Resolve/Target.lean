import DaoForge.Proofs.Resolve.Consistent
import DaoForge.Proofs.Resolve.Isolation
import DaoForge.Proofs.Resolve.Told

/-!
# DaoForge.Proofs.Resolve.Target

Foreign keys whose target is no entity.

1. `Untargeted`: whatever is wrong with the shape of an entity, none of its problems is about the target of
   a foreign key (`untargeted_entityShape`);
2. `mem_problems_of_dangles`: where the shape resolves, the problem of every such target is told; and that
   an entity failed is never told of itself (`not_blamed_entityOf`);
3. `Catalog.withoutForeignKeys`: an entity whose annotation lists no foreign keys resolves iff its shape
   does, and fails with the problems of its shape (`entityOf_withoutForeignKeys`);
4. `Call.targets_told_iff`: so the reply to an entity tells of its targets iff nothing else is wrong with
   it, and is else the same as if it had no foreign keys.
-/

namespace DaoForge

/-! ## what is wrong with a shape -/

/-- The error is about what a foreign key refers to: that it is no entity, or that it failed. -/
def SpecError.isTarget : SpecError → Bool
  | .resolution (.unresolvedForeignKeyTarget _) | .resolution (.dependencyFailed _) => true
  | _ => false

/-- None of the problems is about a target. -/
def Untargeted (problems : List Diagnostic) : Prop := ∀ p ∈ problems, p.error.isTarget = false

section Shapes

variable {c : Catalog} {anchor : String}

theorem untargeted_singleton {error : SpecError} (h : error.isTarget = false) :
    Untargeted [⟨anchor, error⟩] := List.forall_mem_singleton.mpr h

theorem untargeted_append {problems others : List Diagnostic} (h : Untargeted problems)
    (hothers : Untargeted others) : Untargeted (problems ++ others) :=
  List.forall_mem_append.mpr ⟨h, hothers⟩

theorem untargeted_map {α : Type} (xs : List α) {error : α → SpecError}
    (h : ∀ x, (error x).isTarget = false) :
    Untargeted (xs.map fun x => (⟨anchor, error x⟩ : Diagnostic)) :=
  List.forall_mem_map.mpr fun x _ => h x

theorem untargeted_readMark {R : Type} [MarkRecord R] (annotations : List Mark) :
    Untargeted (readMark R anchor annotations).2 := by
  unfold readMark
  split
  · exact List.forall_mem_nil _
  · exact untargeted_singleton rfl

theorem untargeted_marks {p : Property} {faults : List Diagnostic} (h : p.marks anchor = .error faults) :
    Untargeted faults := by
  unfold Property.marks at h
  simp only at h
  split at h
  · contradiction
  · cases h
    exact untargeted_append (untargeted_append (untargeted_readMark _) (untargeted_readMark _))
      (untargeted_readMark _)

theorem untargeted_construction (d : Declaration) (required : List String) :
    Untargeted (d.construction required anchor).2 := by
  unfold Declaration.construction
  split
  · exact List.forall_mem_nil _
  · exact untargeted_append (untargeted_map _ fun _ => rfl) (untargeted_map _ fun _ => rfl)

theorem untargeted_embeddedTarget {s : MemberScope} {p : Property} {error : SpecError}
    (h : embeddedTarget c s p = .error error) : error.isTarget = false := by
  unfold embeddedTarget at h
  split at h
  · cases h
    rfl
  split at h
  · cases h
    rfl
  split at h
  · cases h
    rfl
  · contradiction

theorem untargeted_memberFindings (depth : Nat) (s : MemberScope) (p : Property) :
    Untargeted (memberFindings c depth s p).diagnostics := by
  induction depth, s, p using memberFindings_induction (c := c) with
  | malformed depth s p faults hmarks => exact untargeted_marks hmarks
  | ignored depth s p marks reason hmarks =>
      unfold ignoredMember
      split
      · exact untargeted_singleton rfl
      · exact List.forall_mem_nil _
  | column depth s p marks hmarks =>
      unfold columnMember
      split
      · exact untargeted_singleton rfl
      · exact List.forall_mem_nil _
  | untargeted depth s p error htarget => exact untargeted_singleton (untargeted_embeddedTarget htarget)
  | exhausted s p target htarget => exact List.forall_mem_nil _
  | embedded depth s p marks embedded target htarget ih =>
      refine untargeted_append ?_ (untargeted_construction _ _)
      intro problem hproblem
      obtain ⟨findings, hfindings, hproblem⟩ := List.mem_flatMap.mp hproblem
      obtain ⟨q, hq, rfl⟩ := List.mem_map.mp hfindings
      exact ih q hq problem hproblem

theorem untargeted_resolvePrimaryKey (e : Entity) (record : EntityMark) (keys : List KeyCandidate) :
    Untargeted (resolvePrimaryKey e record keys).found := by
  fun_cases resolvePrimaryKey e record keys with
  | case1 owner first rest =>
      refine Checked.Finds.bind (Checked.finds_demand ?_) fun _ _ => Checked.finds_pure _
      exact untargeted_map _ fun _ => rfl
  | case2 => exact untargeted_singleton rfl
  | case3 => exact List.forall_mem_nil _
  | case4 => exact untargeted_singleton rfl

theorem untargeted_addIndex {taken : List Index × List Diagnostic} {candidate : Checked Diagnostic Index}
    (htaken : Untargeted taken.2) (hcandidate : Untargeted candidate.found) :
    Untargeted (addIndex anchor taken candidate).2 := by
  have hboth := untargeted_append htaken hcandidate
  unfold addIndex
  split
  · exact hboth
  split
  · exact hboth
  split
  · exact hboth
  · exact untargeted_append hboth (untargeted_singleton rfl)

theorem untargeted_resolveIndices (e : Entity) (record : EntityMark) :
    Untargeted (resolveIndices e record).2 := by
  refine forall_foldl ?_
  intro taken htaken candidate hcandidate
  refine untargeted_addIndex htaken ?_
  rcases List.mem_append.mp hcandidate with hlisted | hcolumn
  · obtain ⟨mark, -, rfl⟩ := List.mem_map.mp hlisted
    refine Checked.Finds.bind (Checked.finds_demand ?_) fun _ _ => Checked.finds_pure _
    exact untargeted_map _ fun _ => rfl
  · obtain ⟨column, -, rfl⟩ := List.mem_map.mp hcolumn
    exact List.forall_mem_nil _

theorem untargeted_shapeOf {d : Declaration} {record : EntityMark} {problems : List Diagnostic}
    (h : c.shapeOf d record = .error problems) : Untargeted problems := by
  unfold Catalog.shapeOf at h
  extract_lets owner unknown scope findings stored at h
  split at h
  next construction constructionFaults hconstruction =>
  extract_lets entity duplicates key keyed at h
  split at h
  next indices indexFaults hindices =>
  split at h
  · contradiction
  · cases h
    have hmembers : Untargeted findings.diagnostics := by
      intro problem hproblem
      obtain ⟨found, hfound, hproblem⟩ := List.mem_flatMap.mp hproblem
      obtain ⟨p, -, rfl⟩ := List.mem_map.mp hfound
      exact untargeted_memberFindings _ _ p problem hproblem
    have hbuilt : Untargeted (d.construction stored owner).2 := untargeted_construction d stored
    rw [hconstruction] at hbuilt
    have hindexed := untargeted_resolveIndices keyed record
    rw [hindices] at hindexed
    have hkey := untargeted_resolvePrimaryKey entity record findings.keys
    refine untargeted_append (untargeted_append (untargeted_append (untargeted_append
      (untargeted_append ?_ hmembers) hbuilt) ?_) hkey) hindexed
    · exact untargeted_map _ fun _ => rfl
    · exact untargeted_map _ fun _ => rfl

theorem untargeted_entityShape {d : Declaration} {problems : List Diagnostic}
    (h : c.entityShape d = .error problems) : Untargeted problems := by
  unfold Catalog.entityShape at h
  split at h
  · cases h
    exact untargeted_singleton rfl
  split at h
  · exact untargeted_shapeOf h
  · cases h
    exact untargeted_singleton rfl
  · cases h
    exact untargeted_singleton rfl

end Shapes

/-! ## targets -/

/-- The foreign key refers to nothing that is declared as an entity. -/
def Catalog.Dangles (c : Catalog) (key : ForeignKeyMark) : Prop :=
  ∀ target, c.resolve? key.entity = some target → Mark.has EntityMark target.annotations = false

/-- The problem of a foreign key whose target is no entity. -/
def Declaration.targetProblem (d : Declaration) (key : ForeignKeyMark) : Diagnostic :=
  ⟨d.qualifiedName, .resolution (.unresolvedForeignKeyTarget key.entity.source)⟩

section Targets

variable {c : Catalog} {d : Declaration} {record : EntityMark} {key : ForeignKeyMark}

theorem entityShape_eq_shapeOf (hstruct : d.isTrait = false)
    (hrecord : Mark.find EntityMark d.annotations = .ok (some record)) :
    c.entityShape d = c.shapeOf d record := by
  unfold Catalog.entityShape
  rw [hstruct, hrecord]
  rfl

/-- A foreign key that dangles is checked no further. -/
theorem found_of_dangles (hdangles : c.Dangles key) (shape : Entity) :
    (c.foreignKey (.known c.entityShape) shape key).run.run.found =
      [⟨shape.declaration, .resolution (.unresolvedForeignKeyTarget key.entity.source)⟩] := by
  have hnone : (c.resolve? key.entity).filter
      (fun target => Mark.has EntityMark target.annotations) = none :=
    Option.filter_eq_none_iff.mpr fun target htarget => by simp [hdangles target htarget]
  unfold Catalog.foreignKey
  rw [hnone]
  rfl

/-- **Where the shape resolves**, the entity fails with the problem of each foreign key that dangles. -/
theorem mem_problems_of_dangles {shape : Entity} (hshape : c.entityShape d = .ok shape)
    (hkey : key ∈ d.foreignKeyMarks) (hdangles : c.Dangles key) :
    d.targetProblem key ∈ problemsOf (c.entityOf d) := by
  let check := CheckedT.all (d.foreignKeyMarks.map (c.foreignKey (.known c.entityShape) shape))
  have hmem : d.targetProblem key ∈ check.run.run.found := by
    rw [CheckedT.run_all]
    refine List.mem_flatMap.mpr ⟨_, List.mem_map_of_mem hkey, ?_⟩
    rw [found_of_dangles hdangles, declaration_of_entityShape hshape]
    exact List.mem_singleton_self _
  have hentity : c.entityOf d = check.run.run.toExcept.map fun foreignKeys =>
      { shape with foreignKeys } := by
    unfold Catalog.entityOf Catalog.resolveEntity
    rw [Resolver.known_apply, pure_bind, hshape]
    rfl
  cases hcheck : check.run.run.toExcept with
  | ok keys =>
      rw [(Checked.builds_of_toExcept hcheck).clean] at hmem
      contradiction
  | error problems =>
      rw [hentity, hcheck]
      rwa [Checked.found_of_toExcept hcheck] at hmem

/-- An entity does not say of itself that it failed. -/
theorem not_blamed_entityOf (hd : d ∈ c.declarations) :
    dependencyFailed d.qualifiedName d.qualifiedName ∉ problemsOf (c.entityOf d) := by
  intro hblamed
  cases hshape : c.entityShape d with
  | error faults =>
      rw [entityOf_of_entityShape_error hshape] at hblamed
      have huntargeted := untargeted_entityShape hshape _ hblamed
      contradiction
  | ok shape =>
      cases hentity : c.entityOf d with
      | ok e =>
          rw [hentity] at hblamed
          contradiction
      | error problems =>
          have hkeys : ∀ p ∈ problems, p.error ≠ .resolution (.dependencyFailed d.qualifiedName) := by
            refine Checked.Finds.of_toExcept ?_ (foreignKeys_of_entityOf_error hshape hentity)
            refine CheckedT.finds_all fun mark _ => ?_
            unfold Catalog.foreignKey
            refine CheckedT.finds_bind (Checked.finds_ofOption _ fun _ => nofun) fun target htarget => ?_
            rw [value?_lift, Checked.value?_ofOption, Option.filter_eq_some_iff] at htarget
            refine CheckedT.finds_bind (Checked.finds_ofOption _ fun hnone => ?_) fun parent _ => ?_
            · -- the shape of the target fails, and that of the entity does not
              intro hsame
              have hname : target.qualifiedName = d.qualifiedName := by
                simpa [dependencyFailed] using hsame
              rw [Resolver.known_apply, Catalog.eq_of_qualifiedName_eq
                (Catalog.mem_of_resolve? htarget.1) hd hname, hshape] at hnone
              contradiction
            · refine CheckedT.finds_bind (Checked.finds_report ?_) fun _ _ => Checked.finds_pure _
              refine List.forall_mem_append.mpr ⟨?_, ?_⟩
              · exact List.forall_mem_map.mpr fun _ _ => nofun
              · exact List.forall_mem_map.mpr fun _ _ => nofun
          rw [hentity] at hblamed
          exact hkeys _ hblamed rfl

end Targets

/-! ## entities without foreign keys -/

namespace Mark

/-- The annotation without the argument of the name. -/
def without (key : String) (a : Mark) : Mark :=
  { a with arguments := a.arguments.filter fun argument => argument.1 != key }

/-- The annotation, without its foreign keys if it is that of an entity. -/
def withoutForeignKeys (a : Mark) : Mark :=
  if a.isNamed (MarkRecord.name EntityMark) then a.without "foreignKeys" else a

theorem argument?_without {key other : String} (a : Mark) (h : other ≠ key) :
    (a.without key).argument? other = a.argument? other := by
  have hother : (fun argument : String × MarkValue =>
      decide ((argument.1 != key) = true ∧ (argument.1 == other) = true)) =
        fun argument => argument.1 == other := by
    funext argument
    by_cases hname : argument.1 = other <;> simp [hname, h]
  simp only [argument?, without, List.find?_filter, hother]

theorem argument?_without_self (key : String) (a : Mark) : (a.without key).argument? key = none := by
  simp [argument?, without]

theorem isNamed_withoutForeignKeys (a : Mark) (name : String) :
    a.withoutForeignKeys.isNamed name = a.isNamed name := by
  unfold withoutForeignKeys
  split <;> rfl

theorem textArgument_without {key other : String} (a : Mark) (h : other ≠ key) :
    (a.without key).textArgument other = a.textArgument other := by
  unfold textArgument readArgument look
  rw [argument?_without a h]
  rfl

theorem textsArgument_without {key other : String} (a : Mark) (h : other ≠ key) :
    (a.without key).textsArgument other = a.textsArgument other := by
  unfold textsArgument readItems look
  rw [argument?_without a h]
  rfl

theorem nestedListArgument_without {R : Type} [MarkRecord R] {key other : String} (a : Mark)
    (h : other ≠ key) : (a.without key).nestedListArgument R other = a.nestedListArgument R other := by
  unfold nestedListArgument readItems look
  rw [argument?_without a h]
  rfl

theorem nestedListArgument_without_self {R : Type} [MarkRecord R] (key : String) (a : Mark)
    (taken : List String) :
    (a.without key).nestedListArgument R key taken = .ok ([], taken ++ [key]) := by
  unfold nestedListArgument readItems
  exact look_eq_ok_iff.mpr ⟨by rw [argument?_without_self], rfl⟩

/-- An annotation that is read as an entity's is read without its foreign keys, too. -/
theorem parse_without {a : Mark} {record : EntityMark} {taken taken' : List String}
    (h : MarkRecord.parse a taken = .ok (record, taken')) :
    MarkRecord.parse (a.without "foreignKeys") taken =
      .ok ({ record with foreignKeys := [] }, taken') := by
  obtain ⟨tableName, _, htableName, h⟩ := AttributeReader.bind_eq_ok h
  obtain ⟨indices, _, hindices, h⟩ := AttributeReader.bind_eq_ok h
  obtain ⟨ignoredColumns, _, hignoredColumns, h⟩ := AttributeReader.bind_eq_ok h
  obtain ⟨primaryKeys, between, hprimaryKeys, h⟩ := AttributeReader.bind_eq_ok h
  obtain ⟨foreignKeys, _, hforeignKeys, h⟩ := AttributeReader.bind_eq_ok h
  cases h
  unfold nestedListArgument readItems at hforeignKeys
  obtain ⟨-, rfl⟩ := look_eq_ok_iff.mp hforeignKeys
  rw [← textArgument_without a (show "tableName" ≠ "foreignKeys" by decide)] at htableName
  rw [← nestedListArgument_without a (show "indices" ≠ "foreignKeys" by decide)] at hindices
  rw [← textsArgument_without a (show "ignoredColumns" ≠ "foreignKeys" by decide)] at hignoredColumns
  rw [← textsArgument_without a (show "primaryKeys" ≠ "foreignKeys" by decide)] at hprimaryKeys
  simp only [MarkRecord.parse, bind, StateT.bind, Except.bind, htableName, hindices, hignoredColumns,
    hprimaryKeys, nestedListArgument_without_self]
  rfl

theorem read_withoutForeignKeys {a : Mark} {record : EntityMark} (h : read EntityMark a = .ok record) :
    read EntityMark a.withoutForeignKeys = .ok { record with foreignKeys := [] } := by
  obtain ⟨hnamed, taken, hparse, hall⟩ := read_eq_ok_iff.mp h
  rw [withoutForeignKeys, if_pos hnamed]
  exact read_eq_ok_iff.mpr ⟨hnamed, taken, parse_without hparse,
    fun argument hargument => hall argument (List.mem_of_mem_filter hargument)⟩

/-- The annotation of an entity is found without its foreign keys. -/
theorem find_withoutForeignKeys {annotations : List Mark} {record : EntityMark}
    (h : find EntityMark annotations = .ok (some record)) :
    find EntityMark (annotations.map withoutForeignKeys) =
      .ok (some { record with foreignKeys := [] }) := by
  have hnamed : (fun a : Mark => a.isNamed (MarkRecord.name EntityMark)) ∘ withoutForeignKeys =
      fun a => a.isNamed (MarkRecord.name EntityMark) :=
    funext fun a => isNamed_withoutForeignKeys a _
  unfold find at h ⊢
  rw [List.filter_map, hnamed]
  split at h
  · cases h
  · next a hfilter =>
    rw [hfilter, List.map_singleton]
    cases hread : read EntityMark a with
    | ok found =>
        rw [hread] at h
        cases h
        exact congrArg (Except.map some) (read_withoutForeignKeys hread)
    | error error =>
        rw [hread] at h
        contradiction
  · contradiction

end Mark

/-- The declaration, without its foreign keys if it has the name. -/
def Declaration.withoutForeignKeys (name : String) (d : Declaration) : Declaration :=
  if d.qualifiedName = name then { d with annotations := d.annotations.map Mark.withoutForeignKeys }
  else d

theorem withoutForeignKeys_eq (name : String) (d : Declaration) :
    ∃ annotations, d.withoutForeignKeys name = { d with annotations } := by
  unfold Declaration.withoutForeignKeys
  split
  · exact ⟨_, rfl⟩
  · exact ⟨d.annotations, rfl⟩

theorem qualifiedName_withoutForeignKeys (name : String) (d : Declaration) :
    (d.withoutForeignKeys name).qualifiedName = d.qualifiedName := by
  obtain ⟨annotations, h⟩ := withoutForeignKeys_eq name d
  rw [h]

/-- The catalog in which the declaration of the name lists no foreign keys. -/
def Catalog.withoutForeignKeys (c : Catalog) (name : String) : Catalog where
  declarations := c.declarations.map (Declaration.withoutForeignKeys name)
  nodup := by
    rw [List.map_map]
    have hnames : Declaration.qualifiedName ∘ Declaration.withoutForeignKeys name =
        Declaration.qualifiedName := funext (qualifiedName_withoutForeignKeys name)
    rw [hnames]
    exact c.nodup

theorem sameStructs_withoutForeignKeys (c : Catalog) (name : String) :
    c.SameStructs (c.withoutForeignKeys name) where
  size := List.length_map _
  resolve? t := by
    have hget : (c.withoutForeignKeys name).get? t.name =
        (c.get? t.name).map (Declaration.withoutForeignKeys name) :=
      Catalog.get?_of_map (qualifiedName_withoutForeignKeys name) rfl t.name
    rw [Catalog.resolve?, Catalog.resolve?, hget]
    cases c.get? t.name with
    | none => exact .inl ⟨rfl, rfl⟩
    | some d =>
        obtain ⟨annotations, h⟩ := withoutForeignKeys_eq name d
        exact .inr ⟨d, annotations, d.functions, rfl, congrArg some h⟩

section WithoutForeignKeys

variable {c : Catalog} {d : Declaration} {record : EntityMark}

/-- An entity without foreign keys is its shape, or fails as this does. -/
theorem entityOf_withoutForeignKeys (hstruct : d.isTrait = false)
    (hrecord : Mark.find EntityMark d.annotations = .ok (some record)) :
    (c.withoutForeignKeys d.qualifiedName).entityOf (d.withoutForeignKeys d.qualifiedName) =
      (c.shapeOf d record).map fun shape => { shape with foreignKeys := [] } := by
  let annotations := d.annotations.map Mark.withoutForeignKeys
  have hd : d.withoutForeignKeys d.qualifiedName = { d with annotations } := if_pos rfl
  have hfind : Mark.find EntityMark annotations = .ok (some { record with foreignKeys := [] }) :=
    Mark.find_withoutForeignKeys hrecord
  have hmarks : ({ d with annotations } : Declaration).foreignKeyMarks = [] :=
    foreignKeyMarks_of_find (d := { d with annotations }) hfind
  have hshape : (c.withoutForeignKeys d.qualifiedName).entityShape { d with annotations } =
      c.shapeOf d record := by
    rw [entityShape_eq_shapeOf (d := { d with annotations }) hstruct hfind]
    exact (sameStructs_withoutForeignKeys c d.qualifiedName).shapeOf_sameStructs d annotations d.functions _
  rw [hd]
  unfold Catalog.entityOf Catalog.resolveEntity
  rw [Resolver.known_apply, pure_bind, hshape, hmarks]
  cases c.shapeOf d record <;> rfl

/-- An entity is resolved on its own as its shape is. -/
theorem fresh_withoutForeignKeys (hd : d ∈ c.declarations) (hstruct : d.isTrait = false)
    (hrecord : Mark.find EntityMark d.annotations = .ok (some record)) :
    (Call.entity d.qualifiedName).fresh (c.withoutForeignKeys d.qualifiedName) =
      .entity ((c.shapeOf d record).map fun shape => { shape with foreignKeys := [] }) := by
  have hmem : d.withoutForeignKeys d.qualifiedName ∈
      (c.withoutForeignKeys d.qualifiedName).declarations := List.mem_map_of_mem hd
  have hlookup := Catalog.lookup_qualifiedName hmem
  rw [qualifiedName_withoutForeignKeys] at hlookup
  rw [Call.fresh_entity, Catalog.entity, hlookup, ← entityOf_withoutForeignKeys hstruct hrecord]
  rfl

/-- The problem of a foreign key that dangles is told iff the shape resolves. -/
theorem mem_problems_iff_of_dangles {key : ForeignKeyMark} (hstruct : d.isTrait = false)
    (hrecord : Mark.find EntityMark d.annotations = .ok (some record)) (hkey : key ∈ record.foreignKeys)
    (hdangles : c.Dangles key) :
    d.targetProblem key ∈ problemsOf (c.entityOf d) ↔ ∃ shape, c.shapeOf d record = .ok shape := by
  have hshapeOf := entityShape_eq_shapeOf (c := c) hstruct hrecord
  rw [← foreignKeyMarks_of_find hrecord] at hkey
  cases hshape : c.shapeOf d record with
  | ok shape => exact iff_of_true (mem_problems_of_dangles (hshapeOf.trans hshape) hkey hdangles) ⟨_, rfl⟩
  | error problems =>
      refine iff_of_false (fun htold => ?_) ?_
      · rw [entityOf_of_entityShape_error (hshapeOf.trans hshape)] at htold
        have huntold := untargeted_shapeOf hshape _ htold
        contradiction
      · rintro ⟨shape, h⟩
        contradiction

end WithoutForeignKeys

/-! ## runs -/

namespace Call

/-- **The targets of foreign keys are looked at last.** A struct is marked as an entity, and well. Then the
reply of a run, whatever it was asked before, tells of a foreign key whose target is no entity iff the
struct resolves once it lists no foreign keys. If it does not resolve even so, the reply is the same as
without foreign keys. -/
theorem targets_told_iff {c : Catalog} {d : Declaration} {record : EntityMark} {calls : List Call}
    {reply : Reply} (hd : d ∈ c.declarations) (hstruct : d.isTrait = false)
    (hrecord : Mark.find EntityMark d.annotations = .ok (some record))
    (hreply : (.entity d.qualifiedName, reply) ∈
      calls.zip ((calls.mapM (Call.answer c)).run {}).run.1) :
    ∃ answer, reply = .entity answer ∧
      (∀ key ∈ record.foreignKeys, c.Dangles key →
        (d.targetProblem key ∈ problemsOf answer ↔ ∃ e, (Call.entity d.qualifiedName).fresh
          (c.withoutForeignKeys d.qualifiedName) = .entity (.ok e))) ∧
      ∀ problems, (Call.entity d.qualifiedName).fresh (c.withoutForeignKeys d.qualifiedName) =
        .entity (.error problems) → answer = .error problems := by
  have hagrees := (List.forall₂_iff_zip.mp (answers_agree (c := c) calls)).2 hreply
  rw [fresh_entity, Catalog.entity, Catalog.lookup_qualifiedName hd] at hagrees
  rw [fresh_withoutForeignKeys hd hstruct hrecord]
  have hshapeOf := entityShape_eq_shapeOf (c := c) hstruct hrecord
  cases reply with
  | entity answer =>
      obtain rfl : answer = c.entityOf d := hagrees
      refine ⟨_, rfl, ?_, ?_⟩
      · intro key hkey hdangles
        rw [mem_problems_iff_of_dangles hstruct hrecord hkey hdangles]
        cases c.shapeOf d record with
        | ok shape => exact iff_of_true ⟨_, rfl⟩ ⟨_, rfl⟩
        | error problems =>
            refine iff_of_false ?_ ?_
            · rintro ⟨shape, h⟩
              cases h
            · rintro ⟨e, h⟩
              cases h
      · intro problems hfails
        cases hshape : c.shapeOf d record with
        | ok shape =>
            rw [hshape] at hfails
            cases hfails
        | error found =>
            rw [hshape] at hfails
            cases hfails
            exact entityOf_of_entityShape_error (hshapeOf.trans hshape)
  | compound => contradiction
  | dao => contradiction
  | database => contradiction

/-- A foreign key to authors. -/
def authorKey : ForeignKeyMark where
  entity := .ofName "app::Author"
  parentColumns := ["id"]
  childColumns := ["author"]

/-- A book of an author; nothing says how its cover is stored. -/
def book : Declaration where
  qualifiedName := "app::Book"
  annotations :=
    [{ name := "Entity"
       arguments := [("foreignKeys", .array [.nested "ForeignKey"
         [("entity", .type (.ofName "app::Author")),
           ("parentColumns", .text "id"), ("childColumns", .text "author")]])] }]
  properties :=
    [{ name := "id", type := .ofName "i64", annotations := [{ name := "PrimaryKey" }] },
      { name := "author", type := .ofName "i64" },
      { name := "cover", type := .ofName "app::Cover" }]

/-- Books without authors. -/
def bookCatalog : Catalog where
  declarations := [book]
  nodup := by decide

/-- Nothing is told of the author, and the cover is why. -/
theorem targets_told_iff_book :
    ∃ answer, (.entity "app::Book", .entity answer) ∈ [Call.entity "app::Book"].zip
        (([Call.entity "app::Book"].mapM (Call.answer bookCatalog)).run {}).run.1 ∧
      Mark.find EntityMark book.annotations = .ok (some { foreignKeys := [authorKey] }) ∧
      bookCatalog.Dangles authorKey ∧
      problemsOf answer =
        [⟨"app::Book::cover", .resolution (.unresolvedAffinity "cover" "app::Cover")⟩] ∧
      book.targetProblem authorKey ∉ problemsOf answer ∧
      ∀ e, (Call.entity "app::Book").fresh (bookCatalog.withoutForeignKeys "app::Book") ≠
        .entity (.ok e) := by
  have hproblems : problemsOf ((bookCatalog.byName (Session.entity bookCatalog) "app::Book").run
      {}).run.1 = [⟨"app::Book::cover", .resolution (.unresolvedAffinity "cover" "app::Cover")⟩] := by
    decide +kernel
  have hrecord : Mark.find EntityMark book.annotations = .ok (some { foreignKeys := [authorKey] }) := by
    decide
  have hdangles : bookCatalog.Dangles authorKey := by
    have hnone : bookCatalog.resolve? authorKey.entity = none := by decide +kernel
    intro target htarget
    rw [hnone] at htarget
    contradiction
  have hreply : (Call.entity "app::Book", Reply.entity ((bookCatalog.byName
      (Session.entity bookCatalog) "app::Book").run {}).run.1) ∈ [Call.entity "app::Book"].zip
        (([Call.entity "app::Book"].mapM (Call.answer bookCatalog)).run {}).run.1 := by
    rw [replies_entity]
    exact List.mem_singleton_self _
  obtain ⟨answer, hanswer, htold, -⟩ :=
    targets_told_iff (d := book) (by decide) (by decide) hrecord hreply
  cases hanswer
  have huntold : book.targetProblem authorKey ∉ problemsOf ((bookCatalog.byName
      (Session.entity bookCatalog) "app::Book").run {}).run.1 := by
    rw [hproblems]
    decide
  refine ⟨_, hreply, hrecord, hdangles, hproblems, huntold, fun e he => huntold ?_⟩
  exact (htold authorKey (List.mem_singleton_self _) hdangles).mpr ⟨e, he⟩

end Call

end DaoForge
