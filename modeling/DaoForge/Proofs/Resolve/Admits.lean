import DaoForge.Proofs.Resolve.Answers
import DaoForge.Proofs.Resolve.Entity

/-!
# DaoForge.Proofs.Resolve.Admits

What entities and compounds tell of.

1. `Diagnostic.Anchors`: where a problem of a declaration is anchored;
2. `SpecError.isPlain`: errors that tell of nothing but the declaration itself;
3. `Diagnostic.Admits`: a predicate holds of the plain problems of an owner, and of an entity that failed. It
   then holds of all that a compound tells (`Diagnostic.Admits.compoundOf`), and of all that an entity tells
   beside the problems of its members.
-/

namespace DaoForge

/-! ## anchors -/

namespace Diagnostic

/-- The anchor is that of the declaration, or of a member of it. -/
def Anchors (name anchor : String) : Prop := anchor = name ∨ ∃ member, anchor = memberAnchor name member

theorem anchors_self (name : String) : Anchors name name := .inl rfl

theorem anchors_member (name member : String) : Anchors name (memberAnchor name member) :=
  .inr ⟨member, rfl⟩

/-- The problem is anchored at the declaration of the name, or at a member of it. -/
def Concerns (p : Diagnostic) (name : String) : Prop := Anchors name p.declaration

end Diagnostic

/-! ## errors -/

namespace SpecError

/-- The declaration that the error says to have failed. -/
def dependency? : SpecError → Option String
  | .resolution (.dependencyFailed declaration) => some declaration
  | _ => none

/-- A placeholder has no parameter, or a parameter no placeholder. -/
def isMismatch : SpecError → Bool
  | .binding (.unboundQueryParameter _) | .binding (.unusedQueryParameter _) => true
  | _ => false

/-- The error tells of no dependency that failed, of no embeddings that lead back, and of no mismatch of
placeholders. -/
def isPlain : SpecError → Bool
  | .resolution (.dependencyFailed _) | .resolution (.cyclicEmbedding _) => false
  | .binding (.unboundQueryParameter _) | .binding (.unusedQueryParameter _) => false
  | _ => true

theorem dependency?_of_isPlain {error : SpecError} (h : error.isPlain = true) :
    error.dependency? = none := by
  unfold dependency?
  split
  · contradiction
  · rfl

theorem isMismatch_of_isPlain {error : SpecError} (h : error.isPlain = true) :
    error.isMismatch = false := by
  unfold isMismatch
  split
  · contradiction
  · contradiction
  · rfl

end SpecError

/-! ## what entities and compounds tell -/

/-- The predicate holds of every plain problem of the owner, and where an entity failed. -/
structure Diagnostic.Admits (c : Catalog) (owner : String) (P : Diagnostic → Prop) : Prop where
  plain {anchor : String} {error : SpecError} (hanchor : Diagnostic.Anchors owner anchor)
    (hplain : error.isPlain = true) : P ⟨anchor, error⟩
  failed {anchor : String} {d : Declaration} {problems : List Diagnostic}
    (hanchor : Diagnostic.Anchors owner anchor) (hd : d ∈ c.declarations)
    (hmark : Mark.has EntityMark d.annotations = true)
    (hfails : c.entityOf d = .error problems) : P (dependencyFailed anchor d.qualifiedName)

/-- What is taken in one candidate after the other has the problems of the steps. -/
theorem forall_foldl {P : Diagnostic → Prop} {α β : Type}
    {step : List α × List Diagnostic → β → List α × List Diagnostic} {candidates : List β} {start : List α}
    (hstep : ∀ taken, (∀ p ∈ taken.2, P p) → ∀ candidate ∈ candidates,
      ∀ p ∈ (step taken candidate).2, P p) :
    ∀ p ∈ (candidates.foldl step (start, [])).2, P p :=
  List.foldlRecOn (motive := fun taken : List α × List Diagnostic => ∀ p ∈ taken.2, P p) _ _
    (List.forall_mem_nil _) hstep

/-- An entity fails with its shape. -/
theorem entityOf_of_entityShape_error {c : Catalog} {d : Declaration} {problems : List Diagnostic}
    (h : c.entityShape d = .error problems) : c.entityOf d = .error problems := by
  unfold Catalog.entityOf Catalog.resolveEntity
  rw [Resolver.known_apply, pure_bind, h]
  rfl

namespace Diagnostic.Admits

variable {c : Catalog} {owner anchor : String} {P : Diagnostic → Prop}

theorem fail (h : Admits c owner P) {α : Type} {error : SpecError} (hanchor : Anchors owner anchor)
    (hplain : error.isPlain = true) :
    (Checked.fail [Diagnostic.mk anchor error] : Checked Diagnostic α).Finds P :=
  Checked.finds_fail (List.forall_mem_singleton.mpr (h.plain hanchor hplain))

theorem readMark (h : Admits c owner P) {R : Type} [MarkRecord R] {annotations : List Mark}
    (hanchor : Anchors owner anchor) : ∀ p ∈ (readMark R anchor annotations).2, P p := by
  unfold DaoForge.readMark
  cases Mark.find R annotations with
  | ok record => exact List.forall_mem_nil _
  | error error => exact List.forall_mem_singleton.mpr (h.plain hanchor rfl)

theorem marks (h : Admits c owner P) {p : Property} {faults : List Diagnostic}
    (hanchor : Anchors owner anchor) (hfaults : p.marks anchor = .error faults) : ∀ q ∈ faults, P q := by
  unfold Property.marks at hfaults
  simp only at hfaults
  split at hfaults
  · contradiction
  · cases hfaults
    simp only [List.forall_mem_append]
    exact ⟨⟨h.readMark hanchor, h.readMark hanchor⟩, h.readMark hanchor⟩

theorem construction (h : Admits c owner P) (d : Declaration) (required : List String)
    (hanchor : Anchors owner anchor) : ∀ p ∈ (d.construction required anchor).2, P p := by
  unfold Declaration.construction
  split
  · exact List.forall_mem_nil _
  · refine List.forall_mem_append.mpr ⟨?_, ?_⟩
    · exact List.forall_mem_map.mpr fun name _ => h.plain hanchor rfl
    · exact List.forall_mem_map.mpr fun name _ => h.plain hanchor rfl

theorem resolvePrimaryKey {e : Entity} (h : Admits c e.declaration P) {record : EntityMark}
    {keys : List KeyCandidate} (hkeys : ∀ key ∈ keys, Anchors e.declaration key.anchor) :
    (resolvePrimaryKey e record keys).Finds P := by
  have hself := anchors_self e.declaration
  fun_cases DaoForge.resolvePrimaryKey e record keys with
  | case1 owner first rest =>
      refine .bind (Checked.finds_demand ?_) fun _ _ => Checked.finds_pure _
      exact List.forall_mem_map.mpr fun name _ => h.plain hself rfl
  | case2 key _ isInteger _ => exact h.fail (hkeys key (List.mem_singleton_self key)) rfl
  | case3 => exact Checked.finds_pure _
  | case4 => exact h.fail hself rfl

theorem addIndex (h : Admits c owner P) {taken : List Index × List Diagnostic}
    {candidate : Checked Diagnostic Index} (htaken : ∀ p ∈ taken.2, P p) (hcandidate : candidate.Finds P) :
    ∀ p ∈ (addIndex owner taken candidate).2, P p := by
  have hboth := List.forall_mem_append.mpr ⟨htaken, hcandidate⟩
  unfold DaoForge.addIndex
  split
  · exact hboth
  split
  · exact hboth
  split
  · exact hboth
  · refine List.forall_mem_append.mpr ⟨hboth, ?_⟩
    exact List.forall_mem_singleton.mpr (h.plain (anchors_self owner) rfl)

theorem resolveIndices {e : Entity} (h : Admits c e.declaration P) (record : EntityMark) :
    ∀ p ∈ (resolveIndices e record).2, P p := by
  refine forall_foldl ?_
  intro taken htaken candidate hcandidate
  refine h.addIndex htaken ?_
  rcases List.mem_append.mp hcandidate with hlisted | hcolumn
  · obtain ⟨mark, -, rfl⟩ := List.mem_map.mp hlisted
    refine .bind (Checked.finds_demand ?_) fun _ _ => Checked.finds_pure _
    exact List.forall_mem_map.mpr fun name _ => h.plain (anchors_self _) rfl
  · obtain ⟨column, -, rfl⟩ := List.mem_map.mp hcolumn
    exact Checked.finds_pure _

theorem foreignKey {child : Entity} (h : Admits c child.declaration P) {mark : ForeignKeyMark} :
    (c.foreignKey (.known c.entityShape) child mark).run.run.Finds P := by
  have hself := anchors_self child.declaration
  unfold Catalog.foreignKey
  refine CheckedT.finds_bind (Checked.finds_ofOption _ fun _ => h.plain hself rfl) ?_
  intro target htarget
  rw [value?_lift, Checked.value?_ofOption, Option.filter_eq_some_iff] at htarget
  obtain ⟨hresolve, hmark⟩ := htarget
  refine CheckedT.finds_bind (Checked.finds_ofOption _ fun hnone => ?_) fun parent _ => ?_
  · -- a target whose shape fails is an entity that fails
    rw [Resolver.known_apply] at hnone
    cases hshape : c.entityShape target with
    | ok shape =>
        rw [hshape] at hnone
        contradiction
    | error problems =>
        exact h.failed hself (Catalog.mem_of_resolve? hresolve) hmark
          (entityOf_of_entityShape_error hshape)
  · refine CheckedT.finds_bind (Checked.finds_report ?_) fun _ _ => Checked.finds_pure _
    refine List.forall_mem_append.mpr ⟨?_, ?_⟩
    · exact List.forall_mem_map.mpr fun name _ => h.plain hself rfl
    · exact List.forall_mem_map.mpr fun name _ => h.plain hself rfl

theorem dependentEntity (h : Admits c owner P) {t : TypeExpr} (hanchor : Anchors owner anchor) :
    (c.dependentEntity (.known c.entityOf) anchor t).run.run.Finds P := by
  unfold Catalog.dependentEntity
  refine CheckedT.finds_bind (Checked.finds_ofOption _ fun _ => h.plain hanchor rfl) ?_
  intro d hd
  rw [value?_lift, Checked.value?_ofOption] at hd
  split
  · next hmark =>
    refine Checked.finds_ofOption _ fun hnone => ?_
    rw [Resolver.known_apply] at hnone
    cases hanswer : c.entityOf d with
    | ok e =>
        rw [hanswer] at hnone
        contradiction
    | error problems => exact h.failed hanchor (Catalog.mem_of_resolve? hd) hmark hanswer
  · exact h.fail hanchor rfl

theorem compoundProperty {d : Declaration} (h : Admits c d.qualifiedName P) {p : Property} :
    (d.compoundProperty p).Finds P := by
  have hself := anchors_self d.qualifiedName
  have hanchor := anchors_member d.qualifiedName p.name
  unfold Declaration.compoundProperty
  simp only
  split
  · show (d.compoundRole p _ _).Finds P
    unfold Declaration.compoundRole
    split
    · split
      · exact h.fail hself rfl
      split
      · exact h.fail hself rfl
      · exact Checked.finds_pure _
    · exact Checked.finds_pure _
    · exact h.fail hself rfl
    · exact h.fail hself rfl
  · exact Checked.finds_fail (List.forall_mem_append.mpr ⟨h.readMark hanchor, h.readMark hanchor⟩)

theorem requireColumns (h : Admits c owner P) {e : Entity} {columns : List String}
    (hanchor : Anchors owner anchor) :
    ∀ p ∈ requireColumns e columns anchor, P p :=
  List.forall_mem_map.mpr fun _ _ => h.plain hanchor rfl

theorem junction? (h : Admits c owner P) {main target : Entity} {relation : RelationMark}
    (hanchor : Anchors owner anchor) :
    (c.junction? (.known c.entityOf) main target relation anchor).run.run.Finds P := by
  unfold Catalog.junction?
  cases relation.associateBy with
  | none => exact Checked.finds_pure _
  | some mark =>
      refine CheckedT.finds_bind ?_ fun _ _ => Checked.finds_pure _
      unfold Catalog.junction
      refine CheckedT.finds_bind (h.dependentEntity hanchor) fun entity _ => ?_
      refine CheckedT.finds_bind (Checked.finds_demand (h.requireColumns hanchor)) fun _ _ => ?_
      refine CheckedT.finds_bind (Checked.finds_demand ?_) fun _ _ => Checked.finds_pure _
      exact List.forall_mem_map.mpr fun side _ => h.plain hanchor rfl

theorem relation (h : Admits c owner P) {main : Entity} {p : Property} {mark : RelationMark} :
    (c.relation (.known c.entityOf) owner main p mark).run.run.Finds P := by
  have hanchor := anchors_member owner p.name
  unfold Catalog.relation
  refine CheckedT.finds_bind ?_ fun (cardinality, element) _ => ?_
  · exact Checked.finds_ofOption _ fun _ => h.plain hanchor rfl
  refine CheckedT.finds_bind (h.dependentEntity hanchor) fun target _ => ?_
  refine CheckedT.finds_bind (Checked.finds_demand ?_) fun _ _ => ?_
  · exact List.forall_mem_append.mpr ⟨h.requireColumns hanchor, h.requireColumns hanchor⟩
  refine CheckedT.finds_bind ?_ fun row _ => ?_
  · exact Checked.finds_ofOption _ fun _ => h.plain hanchor rfl
  exact CheckedT.finds_bind (h.junction? hanchor) fun _ _ => Checked.finds_pure _

theorem compoundBody {d : Declaration} (h : Admits c d.qualifiedName P) {roles : List CompoundRole}
    {construction : Construction} :
    (c.compoundBody (.known c.entityOf) d roles construction).run.run.Finds P := by
  have hmain : (d.mainProperty roles).Finds P := by
    unfold Declaration.mainProperty
    simp only
    split
    · exact Checked.finds_pure _
    · exact h.fail (anchors_self d.qualifiedName) rfl
  unfold Catalog.compoundBody
  refine CheckedT.finds_bind hmain fun mainProperty _ => ?_
  refine CheckedT.finds_bind (h.dependentEntity (anchors_self _)) fun main _ => ?_
  refine CheckedT.finds_bind ?_ fun relations _ => Checked.finds_pure _
  exact CheckedT.finds_all fun (p, mark) _ => h.relation

/-- The problems of a compound. -/
theorem compoundOf {d : Declaration} (h : Admits c d.qualifiedName P) {problems : List Diagnostic}
    (hfails : c.compoundOf d = .error problems) : ∀ p ∈ problems, P p := by
  have hself := anchors_self d.qualifiedName
  unfold Catalog.compoundOf Catalog.resolveCompound at hfails
  split at hfails
  · cases hfails
    exact List.forall_mem_singleton.mpr (h.plain hself rfl)
  extract_lets owner kept properties named at hfails
  split at hfails
  next construction constructionFaults hconstruction =>
  refine Checked.Finds.of_toExcept ?_ hfails
  refine List.forall_mem_append.mpr ⟨List.forall_mem_append.mpr ⟨?_, ?_⟩, ?_⟩
  · exact Checked.finds_all (List.forall_mem_map.mpr fun p _ => h.compoundProperty)
  · exact h.compoundBody
  · have hbuilt := h.construction d (named.map Prod.fst) hself
    rw [hconstruction] at hbuilt
    exact hbuilt

end Diagnostic.Admits

end DaoForge
