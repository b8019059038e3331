import DaoForge.Proofs.Mark
import DaoForge.Proofs.Query.Arguments
import DaoForge.Proofs.Resolve.Schema

/-!
# DaoForge.Proofs.Resolve.Operation

What the operations of a DAO that resolves come from.

1. `Operation.From c f o`: the operation `o` is what the annotation of the function `f` asks for, and
   an entity that it writes is one that resolves;
2. no check of an operation gives up without a problem (`decides_operation`), so every abstract
   function of the trait has its operation (`operations_of_daoFindings`).
-/

namespace DaoForge

/-! ## operations -/

/-- The annotation of a function, read. -/
def OperationMark.IsOf (f : Function) : OperationMark → Prop
  | .query mark => Mark.find QueryMark f.annotations = .ok (some mark)
  | .insert mark => Mark.find InsertMark f.annotations = .ok (some mark)
  | .update mark => Mark.find UpdateMark f.annotations = .ok (some mark)
  | .delete mark => Mark.find DeleteMark f.annotations = .ok (some mark)

/-- Name of the annotation. -/
def OperationMark.name : OperationMark → String
  | .query _ => "Query"
  | .insert _ => "Insert"
  | .update _ => "Update"
  | .delete _ => "Delete"

/-- The entity resolves. -/
def Entity.IsOf (c : Catalog) (e : Entity) : Prop := ∃ d ∈ c.declarations, c.entityOf d = .ok e

/-- What an annotation asks for: a query has the annotation's SQL and binds every parameter, a write
has the strategy that is annotated, a delete the default. -/
inductive OperationMark.Asks (c : Catalog) (o : Operation) : OperationMark → Prop
  | query {mark : QueryMark} {q : RawQuery} (hsql : RawQuery.ofSql mark.value = .ok q)
      (hkind : o.kind = .raw q) (hbinds : o.Binds q) : Asks c o (.query mark)
  | insert {mark : InsertMark} {w : EntityOperation} (hkind : o.kind = .insert w)
      (hstrategy : w.onConflict = mark.onConflict) (hentity : w.entity.IsOf c) :
      Asks c o (.insert mark)
  | update {mark : UpdateMark} {w : EntityOperation} (hkind : o.kind = .update w)
      (hstrategy : w.onConflict = mark.onConflict) (hentity : w.entity.IsOf c) :
      Asks c o (.update mark)
  | delete {mark : DeleteMark} {w : EntityOperation} (hkind : o.kind = .delete w)
      (hstrategy : w.onConflict = .abort) (hentity : w.entity.IsOf c) : Asks c o (.delete mark)

section Operations

variable {c : Catalog} {f : Function} {anchor : String}

theorem isOf_of_readOperation {R : Type} [MarkRecord R] {wrap : R → OperationMark}
    {mark : OperationMark} (h : (readOperation anchor f.annotations wrap).Builds mark) :
    ∃ record, mark = wrap record ∧ Mark.find R f.annotations = .ok (some record) := by
  unfold readOperation at h
  split at h
  · next record hrecord => exact ⟨record, Option.some.inj h.value.symm, hrecord⟩
  · exact absurd h Checked.not_builds_fail
  · exact absurd h Checked.not_builds_fail

theorem isOf_of_operationMark {mark : OperationMark} (h : (f.operationMark anchor).Builds mark) :
    mark.IsOf f := by
  unfold Function.operationMark at h
  split at h
  · exact absurd h Checked.not_builds_fail
  · next reader hreader =>
    have hmem : reader ∈ operationReaders :=
      (List.mem_filter.mp (hreader ▸ List.mem_singleton_self reader)).1
    simp only [operationReaders, List.mem_cons, List.not_mem_nil, or_false] at hmem
    rcases hmem with rfl | rfl | rfl | rfl
    all_goals
      obtain ⟨record, rfl, hrecord⟩ := isOf_of_readOperation h
      exact hrecord
  · exact absurd h Checked.not_builds_fail

theorem isPresent_of_isOf {mark : OperationMark} (h : mark.IsOf f) :
    Mark.isPresent f.annotations mark.name = true := by
  cases mark with
  | query => exact Mark.isPresent_of_find (R := QueryMark) h
  | insert => exact Mark.isPresent_of_find (R := InsertMark) h
  | update => exact Mark.isPresent_of_find (R := UpdateMark) h
  | delete => exact Mark.isPresent_of_find (R := DeleteMark) h

/-- A function has one operation annotation only. -/
theorem name_eq_of_operationMark {mark other : OperationMark}
    (h : (f.operationMark anchor).Builds mark) (hother : other.IsOf f) : other.name = mark.name := by
  have hmark := isOf_of_operationMark h
  unfold Function.operationMark at h
  split at h
  · exact absurd h Checked.not_builds_fail
  · next reader hreader =>
    have hnamed : ∀ m : OperationMark, m.IsOf f → m.name = reader.1 := by
      intro m hm
      have hpresent := isPresent_of_isOf hm
      obtain ⟨r, hr, hname⟩ : ∃ r ∈ operationReaders, r.1 = m.name := by
        cases m <;> simp [operationReaders, OperationMark.name]
      have hmem : r ∈ operationReaders.filter fun r => Mark.isPresent f.annotations r.1 :=
        List.mem_filter.mpr ⟨hr, by rw [hname]; exact hpresent⟩
      rw [hreader, List.mem_singleton] at hmem
      rw [← hname, hmem]
    rw [hnamed other hother, hnamed mark hmark]
  · exact absurd h Checked.not_builds_fail

theorem eq_of_operationMark {mark other : OperationMark}
    (h : (f.operationMark anchor).Builds mark) (hother : other.IsOf f) : other = mark := by
  have hmark := isOf_of_operationMark h
  have hname := name_eq_of_operationMark h hother
  cases mark <;> cases other <;> simp_all [OperationMark.name, OperationMark.IsOf]

/-- A parameter of a query is bound as a value or a list. -/
theorem queryParameter_eq {p : Parameter} (h : (c.queryParameter anchor p).found = []) :
    ∃ b, (c.queryParameter anchor p).value? = some b ∧ b.name = p.name ∧
      b.binding.mapping?.isSome = true := by
  unfold Catalog.queryParameter at h ⊢
  cases hbinding : c.bindingOf? p.type with
  | none =>
      rw [hbinding] at h
      contradiction
  | some binding =>
      refine ⟨⟨p.name, p.type, binding⟩, rfl, rfl, ?_⟩
      unfold Catalog.bindingOf? at hbinding
      split at hbinding
      · obtain ⟨mapping, -, rfl⟩ := Option.map_eq_some_iff.mp hbinding
        rfl
      · obtain ⟨mapping, -, rfl⟩ := Option.map_eq_some_iff.mp hbinding
        rfl

/-- Where no placeholder is unbound, every one has a parameter. -/
theorem mem_parameters_of_bindingFaults {placeholders parameters : List String}
    (h : bindingFaults anchor placeholders parameters = []) :
    ∀ name ∈ placeholders, name ∈ parameters := by
  have hunbound := List.map_eq_nil_iff.mp (List.append_eq_nil_iff.mp h).1
  rw [distinct_eq_nil_iff, List.filter_eq_nil_iff] at hunbound
  intro name hname
  simpa using hunbound name hname

theorem binds_of_queryParameters {o : Operation} {q : RawQuery}
    (h : (Checked.all (f.parameters.map (c.queryParameter anchor))).Builds o.parameters)
    (hfaults : bindingFaults anchor q.bindings (f.parameters.map Parameter.name) = []) :
    o.Binds q := by
  have hclean := List.flatMap_eq_nil_iff.mp h.clean
  intro name hname
  obtain ⟨p, hp, rfl⟩ := List.mem_map.mp (mem_parameters_of_bindingFaults hfaults name hname)
  obtain ⟨b, hvalue, hbname, -⟩ := queryParameter_eq (hclean _ (List.mem_map_of_mem hp))
  have hb : b ∈ o.parameters := by
    rw [← Option.some.inj h.value]
    exact List.mem_filterMap.mpr ⟨_, List.mem_map_of_mem hp, hvalue⟩
  cases hfound : o.parameter? p.name with
  | none =>
      have hmiss := List.find?_eq_none.mp hfound b hb
      simp [hbname] at hmiss
  | some found =>
      obtain ⟨check, hcheck, hbuilds⟩ := Checked.builds_all h (List.mem_of_find?_eq_some hfound)
      obtain ⟨p', hp', rfl⟩ := List.mem_map.mp hcheck
      obtain ⟨b', hvalue', -, hmapping⟩ := queryParameter_eq (hclean _ hcheck)
      obtain rfl : b' = found := Option.some.inj (hvalue'.symm.trans hbuilds.value)
      exact ⟨b', rfl, hmapping⟩

theorem asks_rawOperation {o : Operation} {mark : QueryMark} {returns : TypeExpr}
    {shape : ReturnShape}
    (h : (c.rawOperation (.known c.entityOf) (.known c.compoundOf) f mark returns anchor).run.run.Builds
      (o.parameters, o.kind, shape)) : OperationMark.Asks c o (.query mark) := by
  unfold Catalog.rawOperation at h
  split at h
  · exact absurd h Checked.not_builds_fail
  split at h
  · exact absurd h Checked.not_builds_fail
  · next q hq =>
    obtain ⟨parameters, hparameters, h⟩ := CheckedT.builds_bind h
    obtain ⟨_, hfaults, h⟩ := CheckedT.builds_bind h
    obtain ⟨_, -, h⟩ := CheckedT.builds_bind h
    obtain ⟨rfl, hrest⟩ := Prod.mk.inj (Option.some.inj h.value)
    refine .query hq (Prod.mk.inj hrest).1.symm ?_
    exact binds_of_queryParameters hparameters hfaults.clean

theorem asks_entityOperation {o : Operation} {expected : Option TypeExpr}
    {strategy : ConflictStrategy} {wrap : EntityOperation → OperationKind} {returns : TypeExpr}
    {shape : ReturnShape}
    (h : (c.entityOperation (.known c.entityOf) f expected strategy wrap returns
      anchor).run.run.Builds (o.parameters, o.kind, shape)) :
    ∃ w, o.kind = wrap w ∧ w.onConflict = strategy ∧ w.entity.IsOf c := by
  unfold Catalog.entityOperation at h
  split at h
  · next p _ =>
    obtain ⟨⟨type, isList⟩, -, h⟩ := CheckedT.builds_bind h
    obtain ⟨entity, hentity, h⟩ := CheckedT.builds_bind h
    obtain ⟨_, -, h⟩ := CheckedT.builds_bind h
    obtain ⟨-, hrest⟩ := Prod.mk.inj (Option.some.inj h.value)
    obtain ⟨d, hd, -, hanswer⟩ := value?_dependentEntity hentity.value
    exact ⟨⟨entity, p.name, isList, strategy⟩, (Prod.mk.inj hrest).1.symm, rfl, d, hd, hanswer⟩
  · exact absurd h Checked.not_builds_fail

theorem asks_operationBody {o : Operation} {mark : OperationMark} {returns : TypeExpr}
    {shape : ReturnShape}
    (h : (c.operationBody (.known c.entityOf) (.known c.compoundOf) f mark returns
      anchor).run.run.Builds (o.parameters, o.kind, shape)) : mark.Asks c o := by
  cases mark with
  | query mark => exact asks_rawOperation h
  | insert mark =>
      obtain ⟨w, hkind, hstrategy, hentity⟩ := asks_entityOperation h
      exact .insert hkind hstrategy hentity
  | update mark =>
      obtain ⟨w, hkind, hstrategy, hentity⟩ := asks_entityOperation h
      exact .update hkind hstrategy hentity
  | delete mark =>
      obtain ⟨w, hkind, hstrategy, hentity⟩ := asks_entityOperation h
      exact .delete hkind hstrategy hentity

/-! ## every function has an operation -/

theorem decides_readOperation {R : Type} [MarkRecord R] (wrap : R → OperationMark)
    (h : Mark.isPresent f.annotations (MarkRecord.name R) = true) :
    (readOperation anchor f.annotations wrap).Decides := by
  unfold readOperation
  split
  · exact Checked.decides_pure _
  · next hnone =>
    -- an annotation that is present is found, well formed or not
    unfold Mark.find at hnone
    split at hnone
    · next hfilter =>
      obtain ⟨mark, hmark, hnamed⟩ := List.any_eq_true.mp h
      have hmem : mark ∈ f.annotations.filter (·.isNamed (MarkRecord.name R)) :=
        List.mem_filter.mpr ⟨hmark, hnamed⟩
      rw [hfilter] at hmem
      contradiction
    · next mark _ =>
      cases hread : Mark.read R mark with
      | ok record =>
          rw [hread] at hnone
          cases hnone
      | error e =>
          rw [hread] at hnone
          contradiction
    · contradiction
  · exact Checked.decides_fail (List.cons_ne_nil _ _)

theorem decides_operationMark (f : Function) (anchor : String) :
    (f.operationMark anchor).Decides := by
  unfold Function.operationMark
  split
  · exact Checked.decides_fail (List.cons_ne_nil _ _)
  · next reader hreader =>
    obtain ⟨hmem, hpresent⟩ := List.mem_filter.mp (hreader ▸ List.mem_singleton_self reader)
    simp only [operationReaders, List.mem_cons, List.not_mem_nil, or_false] at hmem
    rcases hmem with rfl | rfl | rfl | rfl
    all_goals exact decides_readOperation _ hpresent
  · exact Checked.decides_fail (List.cons_ne_nil _ _)

theorem decides_writeShape (f : Function) (returns : TypeExpr) (anchor : String) :
    (writeShape f returns anchor).Decides := by
  unfold writeShape
  split
  · exact Checked.decides_pure _
  split
  · exact Checked.decides_pure _
  · exact Checked.decides_fail (List.cons_ne_nil _ _)

theorem decides_dependentEntity (c : Catalog) (owner : String) (t : TypeExpr) :
    (c.dependentEntity (.known c.entityOf) owner t).run.run.Decides := by
  unfold Catalog.dependentEntity
  refine CheckedT.decides_bind (Checked.decides_ofOption _ _) fun d => ?_
  split
  · exact Checked.decides_ofOption _ _
  · exact Checked.decides_fail (List.cons_ne_nil _ _)

theorem decides_rowType (c : Catalog) (t : TypeExpr) (anchor : String) :
    (c.rowType (.known c.entityOf) (.known c.compoundOf) t anchor).run.run.Decides := by
  unfold Catalog.rowType
  split
  · exact Checked.decides_ofOption _ _
  · next d _ =>
    split
    · refine CheckedT.decides_bind ?_ fun _ => Checked.decides_pure _
      exact (decides_dependentEntity c anchor t).mapFound Finding.own
    split
    · refine CheckedT.decides_bind ?_ fun _ => Checked.decides_pure _
      unfold compoundRow
      rw [Resolver.known_apply, pure_bind]
      cases c.compoundOf d with
      | ok compound => exact Checked.decides_pure compound
      | error diagnostics => exact Checked.decides_fail (List.cons_ne_nil _ _)
    · exact Checked.decides_ofOption _ _

theorem decides_readShape (c : Catalog) (f : Function) (returns : TypeExpr) (anchor : String) :
    (c.readShape (.known c.entityOf) (.known c.compoundOf) f returns anchor).run.run.Decides := by
  have hrow (t : TypeExpr) (wrap : RowType → ReturnShape) := CheckedT.decides_bind
    (decides_rowType c t anchor) fun row => Checked.decides_pure (ι := Finding) (wrap row)
  unfold Catalog.readShape
  split
  · exact Checked.decides_fail (List.cons_ne_nil _ _)
  split
  · exact hrow _ _
  split
  · exact hrow _ _
  · exact hrow _ _

theorem decides_rawOperation (c : Catalog) (f : Function) (mark : QueryMark) (returns : TypeExpr)
    (anchor : String) :
    (c.rawOperation (.known c.entityOf) (.known c.compoundOf) f mark returns
      anchor).run.run.Decides := by
  unfold Catalog.rawOperation
  split
  · exact Checked.decides_fail (List.cons_ne_nil _ _)
  split
  · exact Checked.decides_fail (List.cons_ne_nil _ _)
  · next q _ =>
    refine CheckedT.decides_bind (Checked.decides_all _) fun parameters => ?_
    refine CheckedT.decides_bind (Checked.decides_report _) fun _ => ?_
    refine CheckedT.decides_bind ?_ fun shape => Checked.decides_pure _
    unfold Catalog.queryShape
    split
    · exact decides_readShape c f returns anchor
    · exact decides_writeShape f returns anchor

theorem decides_targetType (c : Catalog) (p : Parameter) (expected : Option TypeExpr)
    (anchor : String) : (c.targetType p expected anchor).Decides := by
  unfold Catalog.targetType
  split
  next type isList _ =>
  extract_lets mismatch
  have hmismatch (t : TypeExpr) : (mismatch t).Decides :=
    Checked.decides_fail (List.cons_ne_nil _ _)
  split
  · extract_lets agrees
    split
    · exact hmismatch _
    · exact Checked.decides_pure _
  · split
    · exact hmismatch _
    · exact Checked.decides_pure _

theorem decides_entityOperation (c : Catalog) (f : Function) (expected : Option TypeExpr)
    (strategy : ConflictStrategy) (wrap : EntityOperation → OperationKind) (returns : TypeExpr)
    (anchor : String) :
    (c.entityOperation (.known c.entityOf) f expected strategy wrap returns
      anchor).run.run.Decides := by
  unfold Catalog.entityOperation
  split
  · next p _ =>
    refine CheckedT.decides_bind (decides_targetType c p expected anchor) fun target => ?_
    refine CheckedT.decides_bind ?_ fun entity => ?_
    · exact (decides_dependentEntity c anchor target.1).mapFound Finding.own
    refine CheckedT.decides_bind (decides_writeShape f returns anchor) fun shape => ?_
    exact Checked.decides_pure _
  · exact Checked.decides_fail (List.cons_ne_nil _ _)

theorem decides_operationBody (c : Catalog) (f : Function) (mark : OperationMark)
    (returns : TypeExpr) (anchor : String) :
    (c.operationBody (.known c.entityOf) (.known c.compoundOf) f mark returns
      anchor).run.run.Decides := by
  cases mark with
  | query mark => exact decides_rawOperation c f mark returns anchor
  | insert mark => exact decides_entityOperation c f _ _ _ returns anchor
  | update mark => exact decides_entityOperation c f _ _ _ returns anchor
  | delete mark => exact decides_entityOperation c f _ _ _ returns anchor

theorem decides_operation (c : Catalog) (owner : String) (f : Function) :
    (c.operation (.known c.entityOf) (.known c.compoundOf) owner f).run.run.Decides := by
  unfold Catalog.operation
  refine CheckedT.decides_bind (decides_operationMark f _) fun mark => ?_
  refine CheckedT.decides_bind (decides_operationBody c f mark _ _) fun body => ?_
  exact Checked.decides_pure _

/-- `o.From c f`: the operation is what the one operation annotation of the function asks for. -/
def Operation.From (o : Operation) (c : Catalog) (f : Function) : Prop :=
  o.function = f.name ∧ ∃ mark : OperationMark,
    mark.IsOf f ∧ (∀ other : OperationMark, other.IsOf f → other = mark) ∧ mark.Asks c o

theorem from_of_operation {owner : String} {o : Operation}
    (h : (c.operation (.known c.entityOf) (.known c.compoundOf) owner f).run.run.Builds o) :
    o.From c f := by
  unfold Catalog.operation at h
  obtain ⟨mark, hmark, h⟩ := CheckedT.builds_bind h
  obtain ⟨⟨parameters, kind, shape⟩, hbody, h⟩ := CheckedT.builds_bind h
  cases h.value
  exact ⟨rfl, mark, isOf_of_operationMark hmark, fun _ hother => eq_of_operationMark hmark hother,
    asks_operationBody hbody⟩

theorem builds_of_daoFindings {d : Declaration} {dao : Dao} (h : c.daoFindings d = .ok dao) :
    List.Forall₂ (fun f o =>
        (c.operation (.known c.entityOf) (.known c.compoundOf) d.qualifiedName f).run.run.Builds o)
      (d.functions.filter Function.isAbstract) dao.operations := by
  unfold Catalog.daoFindings Catalog.resolveDao at h
  split at h
  · contradiction
  split at h
  · contradiction
  · obtain ⟨hvalue, hclean⟩ := Checked.toExcept_eq_ok_iff.mp h
    have hbody : (c.daoBody (.known c.entityOf) (.known c.compoundOf) d).run.run.Builds dao :=
      ⟨hvalue, hclean⟩
    unfold Catalog.daoBody at hbody
    obtain ⟨_, -, hbody⟩ := CheckedT.builds_bind hbody
    obtain ⟨operations, hall, hbody⟩ := CheckedT.builds_bind hbody
    cases hbody.value
    exact CheckedT.forall₂_of_builds_all hall fun f _ => decides_operation c d.qualifiedName f

/-- **The operations of a DAO**: one for each abstract function of its trait, in order. -/
theorem operations_of_daoFindings {d : Declaration} {dao : Dao} (h : c.daoFindings d = .ok dao) :
    List.Forall₂ (fun f o => Operation.From o c f) (d.functions.filter Function.isAbstract)
      dao.operations :=
  (builds_of_daoFindings h).imp fun _ _ => from_of_operation

end Operations

end DaoForge
