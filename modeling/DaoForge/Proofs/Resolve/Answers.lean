import DaoForge.Proofs.Resolve.Memory

/-!
# DaoForge.Proofs.Resolve.Answers

What a run resolves is what the catalog alone says, whatever it resolved before.

1. `Gives inv p q`: the check `p`, which asks the run, comes to what `q` comes to, which asks the
   catalog. It is kept by everything that checks are built from;
2. hence it holds of each check that resolves an entity, a compound or a DAO, as soon as it holds of
   what the check asks for (`Follows`);
3. `Session.Recalls`: an invariant that right answers do no harm to. Under it, shapes, entities and
   compounds are as right as the memory is (`follows_entity`, `follows_compound`);
4. `yields_dao`: a DAO's answer may only leave out problems that were listed before.
-/

namespace DaoForge

/-! ## checks that ask -/

/-- In a sound session the check comes to what its counterpart comes to without one. -/
def Gives {ι α : Type} (inv : Session → Prop) (p : CheckedT ι Run α) (q : CheckedT ι Id α) : Prop :=
  Yields inv p.run fun result => result = q.run.run

/-- In a run the resolver answers for each declaration of the catalog what `f` does. -/
def Follows {α : Type} (c : Catalog) (inv : Session → Prop) (r : Resolver Run α)
    (f : Declaration → Except (List Diagnostic) α) : Prop :=
  ∀ d ∈ c.declarations, Yields inv (r d) fun answer => answer = f d

section Gives

variable {ι κ α β : Type} {inv : Session → Prop}

theorem gives_pure (a : α) : Gives inv (pure a : CheckedT ι Run α) (pure a) := yields_pure rfl

theorem gives_lift (check : Checked ι α) : Gives inv (.lift check) (.lift check) := yields_pure rfl

theorem value?_lift (check : Checked ι α) :
    (CheckedT.lift check : CheckedT ι Id α).run.run.value? = check.value? := rfl

theorem value?_ofAnswer {ε : Type} (problem : ι) (answer : Except ε α) :
    (CheckedT.ofAnswer problem (pure answer) : CheckedT ι Id α).run.run.value? = answer.toOption :=
  Checked.value?_ofOption problem answer.toOption

/-- The rest of a check may rely on the value that it goes on with. -/
theorem Gives.bind {p : CheckedT ι Run α} {q : CheckedT ι Id α} {f : α → CheckedT ι Run β}
    {g : α → CheckedT ι Id β} (h : Gives inv p q)
    (hf : ∀ a, q.run.run.value? = some a → Gives inv (f a) (g a)) :
    Gives inv (p >>= f) (q >>= g) := by
  unfold Gives
  rw [CheckedT.run_bind, CheckedT.run_bind, Id.run_bind]
  refine Yields.bind h ?_
  intro first hfirst
  rw [hfirst]
  cases hvalue : q.run.run.value? with
  | none => exact yields_pure rfl
  | some a =>
      refine Yields.bind (hf a hvalue) ?_
      intro rest hrest
      rw [hrest]
      exact yields_pure rfl

theorem gives_ofAnswer {p : Run (Except (List Diagnostic) α)}
    {answer : Except (List Diagnostic) α} (problem : ι) (h : Yields inv p fun a => a = answer) :
    Gives inv (.ofAnswer problem p) (.ofAnswer problem (pure answer)) := by
  refine h.map ?_
  rintro _ rfl
  rfl

theorem Gives.mapFound {p : CheckedT ι Run α} {q : CheckedT ι Id α} (f : ι → κ)
    (h : Gives inv p q) : Gives inv (p.mapFound f) (q.mapFound f) := by
  refine Yields.map h ?_
  rintro _ rfl
  rfl

/-- Checks side by side give what each of them gives. -/
theorem gives_all {xs : List β} {f : β → CheckedT ι Run α} {g : β → CheckedT ι Id α}
    (h : ∀ x, Gives inv (f x) (g x)) : Gives inv (.all (xs.map f)) (.all (xs.map g)) := by
  have hruns : Yields inv ((xs.map f).mapM CheckedT.run)
      fun results => results = ((xs.map g).mapM CheckedT.run).run := by
    induction xs with
    | nil => exact yields_pure rfl
    | cons x xs ih =>
        rw [List.map_cons, List.map_cons, List.mapM_cons, List.mapM_cons]
        refine Yields.bind (h x) ?_
        rintro _ rfl
        refine ih.bind ?_
        rintro _ rfl
        exact yields_pure rfl
  refine hruns.map ?_
  rintro _ rfl
  rfl

end Gives

/-! ## entities -/

section Entities

variable {c : Catalog} {inv : Session → Prop} {shapes entities : Resolver Run Entity}
  {shapeOf entityOf : Declaration → Except (List Diagnostic) Entity}

theorem gives_foreignKey (h : Follows c inv shapes shapeOf) (child : Entity)
    (mark : ForeignKeyMark) :
    Gives inv (c.foreignKey shapes child mark) (c.foreignKey (.known shapeOf) child mark) := by
  unfold Catalog.foreignKey
  refine (gives_lift _).bind fun target htarget => ?_
  have hmem : target ∈ c.declarations := by
    rw [value?_lift, Checked.value?_ofOption, Option.filter_eq_some_iff] at htarget
    exact Catalog.mem_of_resolve? htarget.1
  refine (gives_ofAnswer _ (h target hmem)).bind fun parent _ => ?_
  refine (gives_lift _).bind fun _ _ => ?_
  exact gives_pure _

theorem follows_resolveEntity (h : Follows c inv shapes shapeOf) :
    Follows c inv (c.resolveEntity shapes) fun d => (c.resolveEntity (.known shapeOf) d).run := by
  intro d hd
  unfold Catalog.resolveEntity
  refine (h d hd).bind ?_
  rintro _ rfl
  simp only [Resolver.known_apply, pure_bind]
  cases shapeOf d with
  | error faults => exact yields_pure rfl
  | ok shape =>
      have hkeys : Gives inv (.all (d.foreignKeyMarks.map (c.foreignKey shapes shape)))
          (.all (d.foreignKeyMarks.map (c.foreignKey (.known shapeOf) shape))) :=
        gives_all fun mark => gives_foreignKey h shape mark
      refine Yields.bind hkeys ?_
      rintro _ rfl
      exact yields_pure rfl

theorem gives_dependentEntity (h : Follows c inv entities entityOf) (owner : String)
    (t : TypeExpr) :
    Gives inv (c.dependentEntity entities owner t)
      (c.dependentEntity (.known entityOf) owner t) := by
  unfold Catalog.dependentEntity
  refine (gives_lift _).bind fun d hd => ?_
  rw [value?_lift, Checked.value?_ofOption] at hd
  split
  · exact gives_ofAnswer _ (h d (Catalog.mem_of_resolve? hd))
  · exact gives_lift _

end Entities

/-! ## compounds -/

section Compounds

variable {c : Catalog} {inv : Session → Prop} {entities : Resolver Run Entity}
  {entityOf : Declaration → Except (List Diagnostic) Entity}

theorem gives_junction (h : Follows c inv entities entityOf) (main target : Entity)
    (relation : RelationMark) (mark : JunctionMark) (anchor : String) :
    Gives inv (c.junction entities main target relation mark anchor)
      (c.junction (.known entityOf) main target relation mark anchor) := by
  unfold Catalog.junction
  refine (gives_dependentEntity h anchor mark.value).bind fun entity _ => ?_
  refine (gives_lift _).bind fun _ _ => ?_
  refine (gives_lift _).bind fun _ _ => ?_
  exact gives_pure _

theorem gives_junction? (h : Follows c inv entities entityOf) (main target : Entity)
    (relation : RelationMark) (anchor : String) :
    Gives inv (c.junction? entities main target relation anchor)
      (c.junction? (.known entityOf) main target relation anchor) := by
  unfold Catalog.junction?
  cases relation.associateBy with
  | none => exact gives_pure _
  | some mark =>
      exact (gives_junction h main target relation mark anchor).bind fun _ _ => gives_pure _

theorem gives_relation (h : Follows c inv entities entityOf) (owner : String) (main : Entity)
    (p : Property) (mark : RelationMark) :
    Gives inv (c.relation entities owner main p mark)
      (c.relation (.known entityOf) owner main p mark) := by
  unfold Catalog.relation
  refine (gives_lift _).bind fun (cardinality, element) _ => ?_
  refine (gives_dependentEntity h _ _).bind fun target _ => ?_
  refine (gives_lift _).bind fun _ _ => ?_
  refine (gives_lift _).bind fun row _ => ?_
  refine (gives_junction? h main target mark _).bind fun junction _ => ?_
  exact gives_pure _

theorem gives_compoundBody (h : Follows c inv entities entityOf) (d : Declaration)
    (roles : List CompoundRole) (construction : Construction) :
    Gives inv (c.compoundBody entities d roles construction)
      (c.compoundBody (.known entityOf) d roles construction) := by
  unfold Catalog.compoundBody
  refine (gives_lift _).bind fun mainProperty _ => ?_
  refine (gives_dependentEntity h _ _).bind fun main _ => ?_
  refine (gives_all fun (p, mark) => gives_relation h _ main p mark).bind fun relations _ => ?_
  exact gives_pure _

theorem follows_resolveCompound (h : Follows c inv entities entityOf) :
    Follows c inv (c.resolveCompound entities) fun d =>
      (c.resolveCompound (.known entityOf) d).run := by
  intro d hd
  unfold Catalog.resolveCompound
  by_cases htrait : d.isTrait = true
  · simp only [htrait, if_true]
    exact yields_pure rfl
  · simp only [htrait, if_false, Bool.false_eq_true]
    refine Yields.bind (gives_compoundBody h d _ _) ?_
    rintro _ rfl
    exact yields_pure rfl

end Compounds

/-! ## DAOs -/

section Daos

variable {c : Catalog} {inv : Session → Prop} {entities : Resolver Run Entity}
  {compounds : Resolver Run Compound}
  {entityOf : Declaration → Except (List Diagnostic) Entity}
  {compoundOf : Declaration → Except (List Diagnostic) Compound}

theorem gives_compoundRow (h : Follows c inv compounds compoundOf) {d : Declaration}
    (hd : d ∈ c.declarations) (anchor : String) :
    Gives inv (compoundRow compounds d anchor) (compoundRow (.known compoundOf) d anchor) := by
  unfold compoundRow
  refine Yields.bind (h d hd) ?_
  rintro _ rfl
  simp only [Resolver.known_apply, pure_bind]
  cases compoundOf d with
  | ok compound => exact yields_pure rfl
  | error diagnostics => exact yields_pure rfl

theorem gives_rowType (he : Follows c inv entities entityOf)
    (hc : Follows c inv compounds compoundOf)
    (t : TypeExpr) (anchor : String) :
    Gives inv (c.rowType entities compounds t anchor)
      (c.rowType (.known entityOf) (.known compoundOf) t anchor) := by
  unfold Catalog.rowType
  cases hd : c.resolve? t with
  | none => exact gives_lift _
  | some d =>
      simp only
      split
      · exact ((gives_dependentEntity he anchor t).mapFound _).bind fun _ _ => gives_pure _
      split
      · have hmem := Catalog.mem_of_resolve? hd
        exact (gives_compoundRow hc hmem anchor).bind fun _ _ => gives_pure _
      · exact gives_lift _

theorem gives_readShape (he : Follows c inv entities entityOf)
    (hc : Follows c inv compounds compoundOf)
    (f : Function) (returns : TypeExpr) (anchor : String) :
    Gives inv (c.readShape entities compounds f returns anchor)
      (c.readShape (.known entityOf) (.known compoundOf) f returns anchor) := by
  unfold Catalog.readShape
  have hrow : ∀ (t : TypeExpr) (wrap : RowType → ReturnShape),
      Gives inv (do return wrap (← c.rowType entities compounds t anchor))
        (do return wrap (← c.rowType (.known entityOf) (.known compoundOf) t anchor)) :=
    fun t _ => (gives_rowType he hc t anchor).bind fun _ _ => gives_pure _
  split
  · exact gives_lift _
  split
  · exact hrow _ .list
  split
  · exact hrow _ .optional
  · exact hrow _ .single

theorem gives_rawOperation (he : Follows c inv entities entityOf)
    (hc : Follows c inv compounds compoundOf)
    (f : Function) (mark : QueryMark) (returns : TypeExpr) (anchor : String) :
    Gives inv (c.rawOperation entities compounds f mark returns anchor)
      (c.rawOperation (.known entityOf) (.known compoundOf) f mark returns anchor) := by
  unfold Catalog.rawOperation
  split
  · exact gives_lift _
  split
  · exact gives_lift _
  next query _ =>
  have hshape : Gives inv (c.queryShape entities compounds f query returns anchor)
      (c.queryShape (.known entityOf) (.known compoundOf) f query returns anchor) := by
    unfold Catalog.queryShape
    split
    · exact gives_readShape he hc f returns anchor
    · exact gives_lift _
  refine (gives_lift _).bind fun parameters _ => ?_
  refine (gives_lift _).bind fun _ _ => ?_
  exact hshape.bind fun _ _ => gives_pure _

theorem gives_entityOperation (he : Follows c inv entities entityOf) (f : Function)
    (expected : Option TypeExpr) (strategy : ConflictStrategy)
    (wrap : EntityOperation → OperationKind) (returns : TypeExpr) (anchor : String) :
    Gives inv (c.entityOperation entities f expected strategy wrap returns anchor)
      (c.entityOperation (.known entityOf) f expected strategy wrap returns anchor) := by
  unfold Catalog.entityOperation
  split
  · refine (gives_lift _).bind fun (type, isList) _ => ?_
    refine ((gives_dependentEntity he anchor type).mapFound _).bind fun entity _ => ?_
    refine (gives_lift _).bind fun shape _ => ?_
    exact gives_pure _
  · exact gives_lift _

theorem gives_operation (he : Follows c inv entities entityOf)
    (hc : Follows c inv compounds compoundOf)
    (owner : String) (f : Function) :
    Gives inv (c.operation entities compounds owner f)
      (c.operation (.known entityOf) (.known compoundOf) owner f) := by
  have hbody : ∀ mark returns anchor,
      Gives inv (c.operationBody entities compounds f mark returns anchor)
        (c.operationBody (.known entityOf) (.known compoundOf) f mark returns anchor) := by
    intro mark returns anchor
    cases mark with
    | query mark => exact gives_rawOperation he hc f mark returns anchor
    | insert mark => exact gives_entityOperation he f _ _ _ returns anchor
    | update mark => exact gives_entityOperation he f _ _ _ returns anchor
    | delete mark => exact gives_entityOperation he f _ _ _ returns anchor
  unfold Catalog.operation
  refine (gives_lift _).bind fun mark _ => ?_
  exact (hbody mark _ _).bind fun _ _ => gives_pure _

theorem yields_resolveDao (he : Follows c inv entities entityOf)
    (hc : Follows c inv compounds compoundOf)
    (d : Declaration) :
    Yields inv (c.resolveDao entities compounds d) fun findings =>
      findings = (c.resolveDao (.known entityOf) (.known compoundOf) d).run := by
  have hbody : Gives inv (c.daoBody entities compounds d)
      (c.daoBody (.known entityOf) (.known compoundOf) d) := by
    unfold Catalog.daoBody
    refine (gives_lift _).bind fun _ _ => ?_
    exact (gives_all fun f => gives_operation he hc _ f).bind fun _ _ => gives_pure _
  unfold Catalog.resolveDao
  split
  · exact yields_pure rfl
  split
  · exact yields_pure rfl
  · refine Yields.bind hbody ?_
    rintro _ rfl
    exact yields_pure rfl

end Daos

/-! ## answers of a run -/

/-- Right answers for entities and compounds may be kept without harm to the invariant. -/
structure Session.Recalls (c : Catalog) (inv : Session → Prop) : Prop where
  shapes : Shelf.shapes.Holds c inv fun d answer => answer = c.entityShape d
  entities : Shelf.entities.Holds c inv fun d answer => answer = c.entityOf d
  compounds : Shelf.compounds.Holds c inv fun d answer => answer = c.compoundOf d

namespace Session.Recalls

variable {c : Catalog} {inv : Session → Prop} (h : Session.Recalls c inv)

include h

theorem follows_shape : Follows c inv (Session.shape c) c.entityShape :=
  fun _ hd => yields_remember h.shapes hd (yields_pure rfl)

theorem follows_entity : Follows c inv (Session.entity c) c.entityOf := by
  intro d hd
  have hresolve := follows_resolveEntity h.follows_shape d hd
  exact yields_remember h.entities hd hresolve

theorem follows_compound : Follows c inv (Session.compound c) c.compoundOf := by
  intro d hd
  have hresolve := follows_resolveCompound h.follows_entity d hd
  exact yields_remember h.compounds hd hresolve

end Session.Recalls

section Answers

variable (c : Catalog) (reported : List String)

theorem recalls_quiet : Session.Recalls c (Session.Quiet c reported) :=
  ⟨holds_shapes c reported, holds_entities c reported, holds_compounds c reported⟩

theorem follows_entity :
    Follows c (Session.Quiet c reported) (Session.entity c) c.entityOf :=
  (recalls_quiet c reported).follows_entity

theorem follows_compound :
    Follows c (Session.Quiet c reported) (Session.compound c) c.compoundOf :=
  (recalls_quiet c reported).follows_compound

end Answers

/-- Listing findings changes nothing that the session keeps. -/
theorem sound_reported {c : Catalog} {s : Session} (hs : Session.Sound c s)
    (reported : List String) : Session.Sound c { s with reported } := { hs with }

theorem yields_list (c : Catalog) (findings : List Finding) :
    Yields (Session.Sound c) (Session.list findings) fun diagnostics =>
      ∃ reported, diagnostics = (Finding.list reported findings).1 :=
  fun s hs => ⟨⟨s.reported, rfl⟩, sound_reported hs _⟩

/-- The names that are reported once the findings of a DAO are listed. -/
def reportedAfter (reported : List String) : Except (List Finding) Dao → List String
  | .ok _ => reported
  | .error findings => (Finding.list reported findings).2

/-- A DAO that no answer was kept for: its findings are listed after those that were reported. -/
theorem Session.Recalls.run_newDao {c : Catalog} {inv : Session → Prop} (h : Session.Recalls c inv)
    (d : Declaration) {s : Session} (hs : inv s) :
    ∃ s', inv s' ∧
      ((do Session.listDao (← c.resolveDao (Session.entity c) (Session.compound c) d) :
        Run (Except (List Diagnostic) Dao)).run s).run =
      (listed s'.reported (c.daoFindings d),
        { s' with reported := reportedAfter s'.reported (c.daoFindings d) }) := by
  have hresolve := yields_resolveDao h.follows_entity h.follows_compound d
  obtain ⟨hfindings, hs'⟩ := hresolve s hs
  refine ⟨_, hs', ?_⟩
  rw [StateT.run_bind, Id.run_bind, hfindings]
  change ((Session.listDao (c.daoFindings d)).run _).run = _
  cases c.daoFindings d with
  | ok dao => rfl
  | error findings => rfl

theorem run_newDao (c : Catalog) (d : Declaration) {s : Session} (hs : Session.Sound c s) :
    ∃ s', ((do Session.listDao (← c.resolveDao (Session.entity c) (Session.compound c) d) :
        Run (Except (List Diagnostic) Dao)).run s).run =
      (listed s.reported (c.daoFindings d), s') ∧ Session.Sound c s' := by
  obtain ⟨s', hquiet, hrun⟩ := (recalls_quiet c s.reported).run_newDao d ⟨hs, rfl⟩
  rw [hrun, hquiet.reported_eq]
  exact ⟨_, rfl, sound_reported hquiet.sound _⟩

/-- A DAO resolves to what it is, or its findings are listed. -/
theorem yields_dao (c : Catalog) {d : Declaration} (hd : d ∈ c.declarations) :
    Yields (Session.Sound c) (Session.dao c d) fun answer =>
      ∃ reported, answer = listed reported (c.daoFindings d) := by
  refine yields_remember (holds_daos c) hd ?_
  intro s hs
  obtain ⟨s', hrun, hs'⟩ := run_newDao c d hs
  rw [hrun]
  exact ⟨⟨s.reported, rfl⟩, hs'⟩

/-- The first answer of a run for a DAO lists all its findings. -/
theorem run_dao_fresh (c : Catalog) (d : Declaration) :
    ((Session.dao c d).run {}).run.1 = listed [] (c.daoFindings d) := by
  obtain ⟨s', hrun, -⟩ := run_newDao c d (Session.sound_empty c)
  unfold Session.dao
  rw [run_remember_new rfl, Id.run_bind, hrun]
  rfl

end DaoForge
