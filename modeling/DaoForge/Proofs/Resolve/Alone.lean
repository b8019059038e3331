import DaoForge.Proofs.Resolve.Isolation
import DaoForge.Proofs.Resolve.Share

/-!
# DaoForge.Proofs.Resolve.Alone

Each function of a DAO alone, and all of them together.

1. `Catalog.Resembles`: two catalogs differ in the functions of their declarations only. What declarations
   resolve to does not depend on these (`entityOf_resembles`, `compoundOf_resembles`), nor does what another
   function comes to (`share_resembles`);
2. `Alone`: what a function is answered with when it is the only one. Behind the problems of its own there
   may be those of a compound that failed, which are left out where they were listed before
   (`toldAll_eq_inTurn`);
3. `Call.dao_composed`: the answer for a DAO is put together from those of its functions, each alone.
-/

namespace DaoForge

/-! ## catalogs that differ in functions -/

/-- The catalogs have the same declarations, but for the functions of these. -/
structure Catalog.Resembles (c c' : Catalog) : Prop where
  size : c'.size = c.size
  converters : c'.declarations.filterMap Declaration.converts? =
    c.declarations.filterMap Declaration.converts?
  resolve? : ∀ t, (c.resolve? t = none ∧ c'.resolve? t = none) ∨ ∃ d functions,
    c.resolve? t = some d ∧ c'.resolve? t = some { d with functions }

namespace Catalog.Resembles

variable {c c' : Catalog} (h : c.Resembles c') {d : Declaration} {functions : List Function}

include h

theorem sameStructs : c.SameStructs c' where
  size := h.size
  resolve? t := (h.resolve? t).imp_right fun ⟨d, functions, hsome, hsome'⟩ =>
    ⟨d, d.annotations, functions, hsome, hsome'⟩

theorem entityShape_resembles : c'.entityShape { d with functions } = c.entityShape d := by
  unfold entityShape
  simp only [h.sameStructs.shapeOf_sameStructs d d.annotations functions]
  rfl

theorem foreignKey_resembles (child : Entity) (mark : ForeignKeyMark) :
    c'.foreignKey (.known c'.entityShape) child mark =
      c.foreignKey (.known c.entityShape) child mark := by
  let isEntity (d : Declaration) : Bool := Mark.has EntityMark d.annotations
  have htarget : ((c.resolve? mark.entity).filter isEntity = none ∧
      (c'.resolve? mark.entity).filter isEntity = none) ∨ ∃ target functions,
        (c.resolve? mark.entity).filter isEntity = some target ∧
          (c'.resolve? mark.entity).filter isEntity = some { target with functions } := by
    rcases h.resolve? mark.entity with ⟨hnone, hnone'⟩ | ⟨target, functions, hsome, hsome'⟩
    · exact .inl ⟨by rw [hnone]; rfl, by rw [hnone']; rfl⟩
    rw [hsome, hsome']
    by_cases hmark : isEntity target = true
    · exact .inr ⟨target, functions, if_pos hmark, if_pos hmark⟩
    · exact .inl ⟨if_neg hmark, if_neg hmark⟩
  unfold foreignKey
  rcases htarget with ⟨hnone, hnone'⟩ | ⟨target, functions, hsome, hsome'⟩
  · rw [hnone, hnone']
    rfl
  · rw [hsome, hsome', CheckedT.lift_some_bind, CheckedT.lift_some_bind, Resolver.known_apply,
      Resolver.known_apply, h.entityShape_resembles]

theorem entityOf_resembles : c'.entityOf { d with functions } = c.entityOf d := by
  have hkeys (child : Entity) : c'.foreignKey (.known c'.entityShape) child =
      c.foreignKey (.known c.entityShape) child := funext (h.foreignKey_resembles child)
  unfold entityOf resolveEntity
  rw [Resolver.known_apply, Resolver.known_apply, h.entityShape_resembles]
  simp only [hkeys]
  rfl

theorem dependentEntity_resembles (owner : String) (t : TypeExpr) :
    c'.dependentEntity (.known c'.entityOf) owner t = c.dependentEntity (.known c.entityOf) owner t := by
  unfold dependentEntity
  rcases h.resolve? t with ⟨hnone, hnone'⟩ | ⟨target, functions, hsome, hsome'⟩
  · rw [hnone, hnone']
    rfl
  · rw [hsome, hsome', CheckedT.lift_some_bind, CheckedT.lift_some_bind, Resolver.known_apply,
      Resolver.known_apply, h.entityOf_resembles]

/-! ## compounds -/

theorem relationRow?_resembles (target : Entity) (element : TypeExpr) (projection : List String) :
    c'.relationRow? target element projection = c.relationRow? target element projection := by
  unfold relationRow?
  rcases h.resolve? element with ⟨hnone, hnone'⟩ | ⟨target, functions, hsome, hsome'⟩
  · rw [hnone, hnone']
  · rw [hsome, hsome']
    rfl

theorem relation_resembles (owner : String) (main : Entity) (p : Property) (mark : RelationMark) :
    c'.relation (.known c'.entityOf) owner main p mark =
      c.relation (.known c.entityOf) owner main p mark := by
  unfold relation junction? junction
  simp only [h.dependentEntity_resembles, h.relationRow?_resembles]

theorem compoundOf_resembles : c'.compoundOf { d with functions } = c.compoundOf d := by
  have hbody (roles : List CompoundRole) (construction : Construction) :
      c'.compoundBody (.known c'.entityOf) { d with functions } roles construction =
        c.compoundBody (.known c.entityOf) d roles construction := by
    unfold compoundBody
    simp only [h.dependentEntity_resembles, h.relation_resembles]
    rfl
  unfold compoundOf resolveCompound
  simp only [hbody]
  rfl

theorem isCompound_resembles : c'.isCompound { d with functions } = c.isCompound d := by
  have hembeds (p : Property) :
      ((c'.resolve? p.type).map fun target => Mark.has EntityMark target.annotations) =
        (c.resolve? p.type).map fun target => Mark.has EntityMark target.annotations := by
    rcases h.resolve? p.type with ⟨hnone, hnone'⟩ | ⟨target, functions, hsome, hsome'⟩
    · rw [hnone, hnone']
    · rw [hsome, hsome']
      rfl
  unfold isCompound
  simp only [hembeds]
  rfl

/-! ## functions -/

theorem valueMapping?_resembles (t : TypeExpr) : c'.valueMapping? t = c.valueMapping? t := by
  unfold valueMapping?
  rw [h.converters]

theorem rowType_resembles (t : TypeExpr) (anchor : String) :
    c'.rowType (.known c'.entityOf) (.known c'.compoundOf) t anchor =
      c.rowType (.known c.entityOf) (.known c.compoundOf) t anchor := by
  have hscalar : c'.scalarRow t anchor = c.scalarRow t anchor := by
    rw [scalarRow, h.valueMapping?_resembles, scalarRow]
  unfold rowType
  rcases h.resolve? t with ⟨hnone, hnone'⟩ | ⟨target, functions, hsome, hsome'⟩
  · rw [hnone, hnone', hscalar]
  · have hrow : compoundRow (.known c'.compoundOf) { target with functions } anchor =
        compoundRow (.known c.compoundOf) target anchor := by
      unfold compoundRow
      rw [Resolver.known_apply, Resolver.known_apply, h.compoundOf_resembles]
    simp only [hsome, hsome', hscalar, h.dependentEntity_resembles, h.isCompound_resembles, hrow]

theorem rawOperation_resembles (f : Function) (mark : QueryMark) (returns : TypeExpr) (anchor : String) :
    c'.rawOperation (.known c'.entityOf) (.known c'.compoundOf) f mark returns anchor =
      c.rawOperation (.known c.entityOf) (.known c.compoundOf) f mark returns anchor := by
  have hparameter : c'.queryParameter anchor = c.queryParameter anchor := by
    funext p
    unfold queryParameter bindingOf?
    simp only [h.valueMapping?_resembles]
  unfold rawOperation queryShape readShape
  simp only [hparameter, h.rowType_resembles]

theorem targetType_resembles (p : Parameter) (expected : Option TypeExpr) (anchor : String) :
    c'.targetType p expected anchor = c.targetType p expected anchor := by
  unfold targetType
  cases expected with
  | none => rfl
  | some expected =>
      rcases h.resolve? expected with ⟨hnone, hnone'⟩ | ⟨_, _, hsome, hsome'⟩
      · simp only [hnone, hnone']
      cases p.type.listElement? with
      | none =>
          rcases h.resolve? p.type with ⟨hnone, hnone'⟩ | ⟨_, _, hfound, hfound'⟩
          · simp only [hsome, hsome', hnone, hnone']
          · simp only [hsome, hsome', hfound, hfound']
      | some element =>
          rcases h.resolve? element with ⟨hnone, hnone'⟩ | ⟨_, _, hfound, hfound'⟩
          · simp only [hsome, hsome', hnone, hnone']
          · simp only [hsome, hsome', hfound, hfound']

theorem entityOperation_resembles (f : Function) (expected : Option TypeExpr)
    (strategy : ConflictStrategy) (wrap : EntityOperation → OperationKind) (returns : TypeExpr)
    (anchor : String) :
    c'.entityOperation (.known c'.entityOf) f expected strategy wrap returns anchor =
      c.entityOperation (.known c.entityOf) f expected strategy wrap returns anchor := by
  unfold entityOperation
  simp only [h.targetType_resembles, h.dependentEntity_resembles]

/-- **A function does not depend on others**: it comes to the same, whatever other functions there are. -/
theorem share_resembles (owner : String) (f : Function) : c'.share owner f = c.share owner f := by
  have hbody (mark : OperationMark) (returns : TypeExpr) (anchor : String) :
      c'.operationBody (.known c'.entityOf) (.known c'.compoundOf) f mark returns anchor =
        c.operationBody (.known c.entityOf) (.known c.compoundOf) f mark returns anchor := by
    cases mark with
    | query mark => exact h.rawOperation_resembles f mark returns anchor
    | insert mark => exact h.entityOperation_resembles f _ _ _ returns anchor
    | update mark => exact h.entityOperation_resembles f _ _ _ returns anchor
    | delete mark => exact h.entityOperation_resembles f _ _ _ returns anchor
  unfold share operation
  simp only [hbody]

end Catalog.Resembles

/-- The declaration with these functions, if it has the name. -/
def Declaration.withFunctions (name : String) (functions : List Function) (d : Declaration) :
    Declaration :=
  if d.qualifiedName = name then { d with functions } else d

section WithFunctions

variable (name : String) (functions : List Function)

theorem withFunctions_eq (d : Declaration) :
    ∃ others, d.withFunctions name functions = { d with functions := others } := by
  unfold Declaration.withFunctions
  split
  · exact ⟨functions, rfl⟩
  · exact ⟨d.functions, rfl⟩

theorem qualifiedName_withFunctions (d : Declaration) :
    (d.withFunctions name functions).qualifiedName = d.qualifiedName := by
  obtain ⟨others, h⟩ := withFunctions_eq name functions d
  rw [h]

end WithFunctions

/-- The catalog in which the declaration of the name has these functions. -/
def Catalog.withFunctions (c : Catalog) (name : String) (functions : List Function) : Catalog where
  declarations := c.declarations.map (Declaration.withFunctions name functions)
  nodup := by
    rw [List.map_map]
    have hnames : Declaration.qualifiedName ∘ Declaration.withFunctions name functions =
        Declaration.qualifiedName := funext (qualifiedName_withFunctions name functions)
    rw [hnames]
    exact c.nodup

section WithFunctions

variable (c : Catalog) (name : String) (functions : List Function)

/-- The declaration that is found is the same, but for its functions. -/
theorem get?_withFunctions (wanted : String) :
    (c.withFunctions name functions).get? wanted =
      (c.get? wanted).map (Declaration.withFunctions name functions) :=
  Catalog.get?_of_map (qualifiedName_withFunctions name functions) rfl wanted

theorem resembles_withFunctions : c.Resembles (c.withFunctions name functions) where
  size := List.length_map _
  converters := by
    have hconverts : Declaration.converts? ∘ Declaration.withFunctions name functions =
        Declaration.converts? := by
      funext d
      obtain ⟨others, h⟩ := withFunctions_eq name functions d
      rw [Function.comp_apply, h]
      rfl
    rw [Catalog.withFunctions, List.filterMap_map, hconverts]
  resolve? t := by
    rw [Catalog.resolve?, Catalog.resolve?, get?_withFunctions]
    cases c.get? t.name with
    | none => exact .inl ⟨rfl, rfl⟩
    | some d =>
        obtain ⟨others, h⟩ := withFunctions_eq name functions d
        exact .inr ⟨d, others, rfl, congrArg some h⟩

end WithFunctions

/-! ## functions alone -/

/-- What a function of a DAO is answered with: its operation, problems of its own, or a compound that
failed, behind problems of its own. -/
inductive Alone where
  | accepted (operation : Operation)
  | refused (own : List Diagnostic) (hne : own ≠ [])
  | broken (anchor : String) (own : List Diagnostic) (compound : BrokenCompound)

namespace Alone

/-- The compound that failed. -/
def broken? : Alone → Option BrokenCompound
  | accepted _ | refused _ _ => none
  | broken _ _ b => some b

/-- Its name. -/
def compounds (a : Alone) : List String := (a.broken?.map BrokenCompound.name).toList

/-- What is told of the function, where the problems of some compounds were listed before: these are left
out, and only that the compound failed is told. -/
def told (before : List String) : Alone → Except (List Diagnostic) Operation
  | accepted operation => .ok operation
  | refused own _ => .error own
  | broken anchor own b =>
    .error (own ++ (if b.name ∈ before then [] else b.theirs) ++ [dependencyFailed anchor b.name])

/-- What is told of functions one after the other. -/
def inTurn (before : List String) : List Alone → List (Except (List Diagnostic) Operation)
  | [] => []
  | a :: rest => a.told before :: inTurn (a.compounds ++ before) rest

/-- The check of a function comes to this. -/
structure Of (check : Checked Finding Operation) (a : Alone) : Prop where
  told : ∀ before before', (∀ name, name ∈ before ↔ name ∈ before') →
    check.told before = a.told before'
  compounds : ∀ before name,
    name ∈ (Finding.list before check.found).2 ↔ name ∈ a.compounds ++ before

end Alone

section Alone

variable {c : Catalog} {owner : String} {f : Function} {before before' : List String}

theorem told_of_found {check : Checked Finding Operation} {findings : List Finding}
    (h : check.found = findings) (hne : findings ≠ []) :
    check.told before = .error (Finding.list before findings).1 := by
  cases hanswer : check.toExcept with
  | ok o => exact absurd (h.symm.trans (Checked.builds_of_toExcept hanswer).clean) hne
  | error found =>
      rw [Checked.told, hanswer, ← Checked.found_of_toExcept hanswer, h]
      rfl

/-- What is listed of problems and of a compound that failed behind them. -/
theorem list_own_broken (own : List Diagnostic) (b : BrokenCompound) (anchor : String) :
    Finding.list before (own.map .own ++ [b.finding anchor]) =
      (own ++ (if b.name ∈ before then [] else b.theirs) ++ [dependencyFailed anchor b.name],
        if b.name ∈ before then before else b.name :: before) := by
  rw [Finding.list_append, Finding.list_map_own, BrokenCompound.finding]
  by_cases hname : b.name ∈ before
  · rw [Finding.list_reported hname, if_pos hname, if_pos hname, List.append_nil]
    rfl
  · rw [Finding.list_unreported hname, if_neg hname, if_neg hname, List.append_assoc]
    rfl

/-- A function without findings is accepted. -/
theorem of_accepted {check : Checked Finding Operation} {o : Operation} (h : check.Builds o) :
    (Alone.accepted o).Of check where
  told before _ _ := told_of_clean h before
  compounds before name := by
    rw [h.clean]
    exact Iff.rfl

/-- A function may have problems of its own only. -/
theorem of_refused {check : Checked Finding Operation} {own : List Diagnostic}
    (h : check.found = own.map .own) (hne : own ≠ []) : (Alone.refused own hne).Of check where
  told before before' _ := by
    rw [told_of_found h fun hnil => hne (List.map_eq_nil_iff.mp hnil), Finding.list_map_own, Alone.told]
  compounds before name := by
    rw [h, Finding.list_map_own]
    exact Iff.rfl

/-- A function may meet a compound that failed. -/
theorem of_broken {check : Checked Finding Operation} {own : List Diagnostic} {b : BrokenCompound}
    {anchor : String} (h : check.found = own.map .own ++ [b.finding anchor]) :
    (Alone.broken anchor own b).Of check where
  told before before' hsame := by
    rw [told_of_found h (List.append_ne_nil_of_right_ne_nil _ (List.cons_ne_nil _ _)), list_own_broken,
      Alone.told]
    simp only [hsame]
  compounds before name := by
    rw [h, list_own_broken]
    change name ∈ (if b.name ∈ before then before else b.name :: before) ↔ name ∈ b.name :: before
    split
    · next hmem => exact ⟨List.mem_cons_of_mem _, fun h => (List.mem_cons.mp h).elim (· ▸ hmem) id⟩
    · exact Iff.rfl

/-- Functions are told of in turn what each of them is told alone, without problems that were listed. -/
theorem toldAll_eq_inTurn {checks : List (Checked Finding Operation)} {as : List Alone}
    (h : List.Forall₂ (fun check (a : Alone) => a.Of check) checks as)
    (hsame : ∀ name, name ∈ before ↔ name ∈ before') : toldAll before checks = Alone.inTurn before' as := by
  induction h generalizing before before' with
  | nil => rfl
  | cons hof _ ih =>
      rw [toldAll, Alone.inTurn, hof.told before before' hsame, ih fun name => ?_]
      rw [hof.compounds, List.mem_append, List.mem_append, hsame]

/-- A function is accepted, or has problems: its own, and then those of a compound that failed. -/
theorem exists_alone (c : Catalog) (owner : String) (f : Function) :
    ∃ a : Alone, a.Of (c.share owner f) ∧
      (∀ p ∈ problemsOf (a.told a.compounds), p.declaration = Diagnostic.memberAnchor owner f.name) ∧
      (∀ b ∈ a.broken?, ∃ d ∈ c.declarations, d.qualifiedName = b.name ∧
        c.compoundOf d = .error b.theirs) := by
  have hcontributes := contributes_share c owner f
  generalize hfound : (c.share owner f).found = findings at hcontributes
  cases hcontributes with
  | mk own broken hown hbroken =>
      cases broken with
      | none =>
          rw [Option.map_none, Option.toList_none, List.append_nil] at hfound
          by_cases hnone : own = []
          · rw [hnone, List.map_nil] at hfound
            obtain ⟨o, ho⟩ := decides_share c owner f hfound
            exact ⟨.accepted o, of_accepted ⟨ho, hfound⟩, List.forall_mem_nil _, fun _ h => nomatch h⟩
          · exact ⟨.refused own hnone, of_refused hfound hnone, hown, fun _ h => nomatch h⟩
      | some b =>
          refine ⟨.broken (Diagnostic.memberAnchor owner f.name) own b, of_broken hfound, ?_, hbroken⟩
          have hmet : b.name ∈ (Alone.broken (Diagnostic.memberAnchor owner f.name) own b).compounds :=
            List.mem_singleton_self _
          rw [Alone.told, if_pos hmet, List.append_nil]
          exact List.forall_mem_append.mpr ⟨hown, List.forall_mem_singleton.mpr rfl⟩

end Alone

/-! ## a DAO and its functions -/

/-- What the answers for a function of a DAO say of it. -/
structure Alone.Answers (c : Catalog) (d : Declaration) (f : Function) (a : Alone) : Prop where
  /-- A run of its own for the DAO, if the function is its only one. -/
  alone : (Call.dao d.qualifiedName).fresh (c.withFunctions d.qualifiedName [f]) =
    .dao (d.daoAnswer [a.told []])
  /-- But for those of the compound that failed, the problems are the function's. -/
  own : ∀ p ∈ problemsOf (a.told a.compounds),
    p.declaration = Diagnostic.memberAnchor d.qualifiedName f.name
  /-- A run of its own for the compound that failed. -/
  broken : ∀ b ∈ a.broken?, (Call.compound b.name).fresh c = .compound (.error b.theirs)

namespace Call

variable {c : Catalog} {d : Declaration}

/-- The reply for a compound is what the catalog alone says of its declaration. -/
theorem fresh_compound (hd : d ∈ c.declarations) :
    (Call.compound d.qualifiedName).fresh c = .compound (c.compoundOf d) := by
  have hfollows := yields_byName_of_follows (follows_compound c) d.qualifiedName
  have hfresh := (hfollows {} (Session.sound_empty c)).1
  rw [Catalog.lookup_qualifiedName hd] at hfresh
  exact congrArg Reply.compound hfresh

/-- The reply for a DAO is put together from what is told of its functions, in order. -/
theorem fresh_dao (hd : d ∈ c.declarations) (hmark : Mark.has DaoMark d.annotations = true)
    (htrait : d.isTrait = true) :
    (Call.dao d.qualifiedName).fresh c = .dao (d.daoAnswer (toldAll []
      ((d.functions.filter Function.isAbstract).map (c.share d.qualifiedName)))) := by
  have hfresh := run_daoByName_fresh (c := c) d.qualifiedName
  rw [Catalog.lookup_qualifiedName hd] at hfresh
  exact congrArg Reply.dao (hfresh.trans (listed_daoFindings hmark htrait))

/-- If a function is the only one, it is told of as among others. -/
theorem fresh_dao_alone (hd : d ∈ c.declarations) (hmark : Mark.has DaoMark d.annotations = true)
    (htrait : d.isTrait = true) {f : Function} (hf : f.isAbstract = true) :
    (Call.dao d.qualifiedName).fresh (c.withFunctions d.qualifiedName [f]) =
      .dao (d.daoAnswer [(c.share d.qualifiedName f).told []]) := by
  have hmem : { d with functions := [f] } ∈ (c.withFunctions d.qualifiedName [f]).declarations :=
    List.mem_map.mpr ⟨d, hd, if_pos rfl⟩
  have hfresh := fresh_dao hmem hmark htrait
  rw [List.filter_cons_of_pos hf, List.filter_nil, List.map_singleton,
    (resembles_withFunctions c d.qualifiedName [f]).share_resembles] at hfresh
  exact hfresh

theorem exists_answers (hd : d ∈ c.declarations) (hmark : Mark.has DaoMark d.annotations = true)
    (htrait : d.isTrait = true) {f : Function} (hf : f.isAbstract = true) :
    ∃ a : Alone, a.Of (c.share d.qualifiedName f) ∧ a.Answers c d f := by
  obtain ⟨a, hof, hown, hbroken⟩ := exists_alone c d.qualifiedName f
  refine ⟨a, hof, ?_, hown, fun b hb => ?_⟩
  · rw [fresh_dao_alone hd hmark htrait hf, hof.told [] [] fun _ => Iff.rfl]
  · obtain ⟨compound, hmem, hname, hfails⟩ := hbroken b hb
    rw [← hname, fresh_compound hmem, hfails]

/-- **A DAO is the sum of its functions.** In a run of its own, the answer for a DAO is put together, in
function order, from what is told of each abstract function in a run in which it is the only one. Only the
problems of a compound that failed are left out where an earlier function has listed them. -/
theorem dao_composed (hd : d ∈ c.declarations) (hmark : Mark.has DaoMark d.annotations = true)
    (htrait : d.isTrait = true) :
    ∃ as : List Alone,
      List.Forall₂ (Alone.Answers c d) (d.functions.filter Function.isAbstract) as ∧
        (Call.dao d.qualifiedName).fresh c = .dao (d.daoAnswer (Alone.inTurn [] as)) := by
  have hfunctions : ∀ f ∈ d.functions.filter Function.isAbstract,
      ∃ a : Alone, a.Of (c.share d.qualifiedName f) ∧ a.Answers c d f :=
    fun f hf => exists_answers hd hmark htrait (List.mem_filter.mp hf).2
  rw [fresh_dao hd hmark htrait]
  obtain ⟨as, has⟩ := exists_forall₂ hfunctions
  refine ⟨as, has.imp fun _ _ h => h.2, ?_⟩
  have hof : List.Forall₂ (fun check (a : Alone) => a.Of check)
      ((d.functions.filter Function.isAbstract).map (c.share d.qualifiedName)) as :=
    List.forall₂_map_left_iff.mpr (has.imp fun _ _ h => h.1)
  rw [toldAll_eq_inTurn hof fun _ => Iff.rfl]

/-- The bins fail for the search and for all of them alike, and their problem is listed once: behind those
of the search itself. -/
theorem dao_composed_stock :
    ∃ find all count : Alone, find.Answers stockCatalog stockDao stockFind ∧
      all.Answers stockCatalog stockDao stockAll ∧ count.Answers stockCatalog stockDao stockCount ∧
      (problemsOf (stockDao.daoAnswer [all.told []])).map Diagnostic.declaration =
        ["app::StockDao", "app::Bin", "app::StockDao::all"] ∧
      (Call.dao "app::StockDao").fresh stockCatalog =
        .dao (stockDao.daoAnswer (Alone.inTurn [] [find, all, count])) ∧
      (problemsOf (stockDao.daoAnswer (Alone.inTurn [] [find, all, count]))).map Diagnostic.declaration =
        ["app::StockDao", "app::StockDao::find", "app::StockDao::find", "app::StockDao::find", "app::Bin",
          "app::StockDao::find", "app::StockDao::all"] := by
  have hd : stockDao ∈ stockCatalog.declarations := by decide
  have hmark : Mark.has DaoMark stockDao.annotations = true := by decide
  obtain ⟨as, has, hfresh⟩ := dao_composed hd hmark rfl
  have hfunctions : stockDao.functions.filter Function.isAbstract = [stockFind, stockAll, stockCount] :=
    rfl
  rw [hfunctions] at has
  obtain _ | ⟨hfind, _ | ⟨hall, _ | ⟨hcount, _ | -⟩⟩⟩ := has
  refine ⟨_, _, _, hfind, hall, hcount, ?_, hfresh, ?_⟩
  · rw [Reply.dao.inj (hall.alone.symm.trans (fresh_dao_alone hd hmark rfl rfl))]
    decide +kernel
  · rw [Reply.dao.inj (hfresh.symm.trans (fresh_dao hd hmark rfl))]
    decide +kernel

end Call

end DaoForge
