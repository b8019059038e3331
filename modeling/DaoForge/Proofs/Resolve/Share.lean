import DaoForge.Proofs.Resolve.Told

/-!
# DaoForge.Proofs.Resolve.Share

The share of a function in the answer for its DAO.

1. `Catalog.Contributes`: the check of a function stops at its first problem, or is that of a query, which
   goes on from its parameters to its result (`run_rawOperation`). So the function has problems of its own,
   and behind them at most one compound that failed (`contributes_share`);
2. `Declaration.daoAnswer`: the answer for a DAO is put together from what is told of its annotation and of
   each function, in order (`listed_daoFindings`).
-/

namespace DaoForge

/-! ## what a function contributes -/

theorem Checked.found_bind_of_some {ι α β : Type} {c : Checked ι α} {f : α → Checked ι β} {a : α}
    (h : c.value? = some a) : (c >>= f).found = c.found ++ (f a).found := by
  rw [bind_eq, h]

theorem Checked.found_bind_pure {ι α β : Type} (c : Checked ι α) (f : α → β) :
    (c >>= fun a => pure (f a)).found = c.found := by
  rw [bind_eq]
  cases c.value? with
  | none => rfl
  | some a => exact List.append_nil _

/-- A compound that failed, and its problems. -/
structure BrokenCompound where
  name : String
  theirs : List Diagnostic
  deriving DecidableEq

/-- The compound, met in the rows of a function. -/
def BrokenCompound.finding (anchor : String) (b : BrokenCompound) : Finding :=
  .dependency anchor b.name b.theirs

/-- The findings are problems at the anchor, and behind them at most one compound that failed. -/
inductive Catalog.Contributes (c : Catalog) (anchor : String) : List Finding → Prop
  | mk (own : List Diagnostic) (broken : Option BrokenCompound)
      (hown : ∀ p ∈ own, p.declaration = anchor)
      (hbroken : ∀ b ∈ broken, ∃ d ∈ c.declarations,
        d.qualifiedName = b.name ∧ c.compoundOf d = .error b.theirs) :
      Contributes c anchor (own.map .own ++ (broken.map (BrokenCompound.finding anchor)).toList)

/-- What the check of a function comes to. -/
def Catalog.share (c : Catalog) (owner : String) (f : Function) : Checked Finding Operation :=
  (c.operation (.known c.entityOf) (.known c.compoundOf) owner f).run.run

section Contributes

variable {c : Catalog} {anchor : String} {f : Function}

/-- A query that can be read: its parameters and placeholders are checked, and then its result. -/
theorem run_rawOperation {mark : QueryMark} {q : RawQuery} {returns : TypeExpr}
    (hblank : isBlankText mark.value = false) (hsql : RawQuery.ofSql mark.value = .ok q) :
    (c.rawOperation (.known c.entityOf) (.known c.compoundOf) f mark returns anchor).run.run = (do
      let parameters ← Checked.all (f.parameters.map (c.queryParameter anchor))
      Checked.report (bindingFaults anchor q.bindings (f.parameters.map Parameter.name))
      let shape ← (c.queryShape (.known c.entityOf) (.known c.compoundOf) f q returns anchor).run.run
      return (parameters, .raw q, shape)) := by
  unfold Catalog.rawOperation
  simp only [hblank, hsql, Bool.false_eq_true, if_false, CheckedT.run_bind_id]
  rfl

theorem contributes_of_stops {α : Type} {check : Checked Finding α}
    (h : check.Stops (Finding.Ends c anchor)) : c.Contributes anchor check.found := by
  cases h with
  | value a => exact .mk [] none (List.forall_mem_nil _) (by simp)
  | problem hends =>
      cases hends with
      | @own error =>
          exact .mk [⟨anchor, error⟩] none (List.forall_mem_singleton.mpr rfl) (by simp)
      | @dependency d theirs hd _ hfails =>
          refine .mk [] (some ⟨d.qualifiedName, theirs⟩) (List.forall_mem_nil _) ?_
          rintro _ ⟨⟩
          exact ⟨d, hd, rfl, hfails⟩

/-- More problems of the function stand before. -/
theorem Catalog.Contributes.problems {α : Type} {findings : List Finding}
    (h : c.Contributes anchor findings) (items : List α) (error : α → SpecError) :
    c.Contributes anchor ((items.map fun item => problem anchor (error item)) ++ findings) := by
  cases h with
  | mk own broken hown hbroken =>
      have hmap : (items.map fun item => problem anchor (error item)) =
          (items.map fun item => (⟨anchor, error item⟩ : Diagnostic)).map .own := by
        rw [List.map_map]
        rfl
      rw [hmap, ← List.append_assoc, ← List.map_append]
      refine .mk _ broken (List.forall_mem_append.mpr ⟨?_, hown⟩) hbroken
      exact List.forall_mem_map.mpr fun item _ => rfl

/-- The problems of parameters that cannot be bound. -/
theorem found_queryParameters (c : Catalog) (anchor : String) (parameters : List Parameter) :
    (Checked.all (parameters.map (c.queryParameter anchor))).found =
      (parameters.filter fun p => (c.bindingOf? p.type).isNone).map fun p =>
        problem anchor (.resolution (.unsupportedParameterType p.name p.type.source)) := by
  induction parameters with
  | nil => rfl
  | cons p rest ih =>
      have hfound : (Checked.all ((p :: rest).map (c.queryParameter anchor))).found =
          (c.queryParameter anchor p).found ++
            (Checked.all (rest.map (c.queryParameter anchor))).found := rfl
      rw [hfound, ih, Catalog.queryParameter]
      cases hbinding : c.bindingOf? p.type with
      | none => rw [List.filter_cons_of_pos (by rw [hbinding]; rfl)]; rfl
      | some binding => rw [List.filter_cons_of_neg (by rw [hbinding]; simp)]; rfl

/-- The findings of a query that can be read. -/
theorem found_rawOperation {mark : QueryMark} {q : RawQuery} {returns : TypeExpr}
    (hblank : isBlankText mark.value = false) (hsql : RawQuery.ofSql mark.value = .ok q) :
    (c.rawOperation (.known c.entityOf) (.known c.compoundOf) f mark returns anchor).run.run.found =
      (f.parameters.filter fun p => (c.bindingOf? p.type).isNone).map (fun p =>
          problem anchor (.resolution (.unsupportedParameterType p.name p.type.source))) ++
        (bindingFaults anchor q.bindings (f.parameters.map Parameter.name) ++
          (c.queryShape (.known c.entityOf) (.known c.compoundOf) f q returns
            anchor).run.run.found) := by
  rw [run_rawOperation hblank hsql, ← found_queryParameters, Checked.found_bind_of_some rfl,
    Checked.found_bind_of_some rfl, Checked.found_bind_pure]
  rfl

theorem contributes_rawOperation {mark : QueryMark} {returns : TypeExpr} :
    c.Contributes anchor (c.rawOperation (.known c.entityOf) (.known c.compoundOf) f mark returns
      anchor).run.run.found := by
  by_cases hblank : isBlankText mark.value = true
  · unfold Catalog.rawOperation
    rw [if_pos hblank]
    exact contributes_of_stops (stops_fail_problem rfl)
  cases hsql : RawQuery.ofSql mark.value with
  | error error =>
      unfold Catalog.rawOperation
      rw [if_neg hblank, hsql]
      exact .mk [⟨anchor, .binding error⟩] none (List.forall_mem_singleton.mpr rfl) (by simp)
  | ok q =>
      rw [found_rawOperation (Bool.eq_false_iff.mpr hblank) hsql, bindingFaults, List.append_assoc]
      exact (((contributes_of_stops stops_queryShape).problems _ _).problems _ _).problems _ _

theorem contributes_operationBody {mark : OperationMark} {returns : TypeExpr} :
    c.Contributes anchor (c.operationBody (.known c.entityOf) (.known c.compoundOf) f mark returns
      anchor).run.run.found := by
  cases mark with
  | query mark => exact contributes_rawOperation
  | insert mark => exact contributes_of_stops stops_entityOperation
  | update mark => exact contributes_of_stops stops_entityOperation
  | delete mark => exact contributes_of_stops stops_entityOperation

/-- What follows a check that stops contributes if that does. -/
theorem contributes_bind {α β : Type} {check : Checked Finding α} {rest : α → Checked Finding β}
    (h : check.Stops (Finding.Ends c anchor)) (hrest : ∀ a, c.Contributes anchor (rest a).found) :
    c.Contributes anchor (check >>= rest).found := by
  cases h with
  | value a => exact hrest a
  | problem hends => exact contributes_of_stops (.problem hends)

/-- **What a function contributes**: problems of its own, and behind them at most one compound that
failed. -/
theorem contributes_share (c : Catalog) (owner : String) (f : Function) :
    c.Contributes (Diagnostic.memberAnchor owner f.name) (c.share owner f).found := by
  unfold Catalog.share Catalog.operation
  rw [CheckedT.run_bind_id]
  refine contributes_bind stops_operationMark fun mark => ?_
  rw [CheckedT.run_bind_id]
  exact (Checked.found_bind_pure _ _).symm ▸ contributes_operationBody

end Contributes

/-! ## answers -/

namespace Finding

variable {reported : List String}

/-- Findings are listed one after the other. -/
theorem list_append (findings rest : List Finding) :
    list reported (findings ++ rest) =
      ((list reported findings).1 ++ (list (list reported findings).2 rest).1,
        (list (list reported findings).2 rest).2) := by
  induction findings generalizing reported with
  | nil => rfl
  | cons finding findings ih =>
      cases finding with
      | own p => rw [List.cons_append, list_own, list_own, ih, List.cons_append]
      | dependency anchor name theirs =>
          by_cases hname : name ∈ reported
          · rw [List.cons_append, list_reported hname, list_reported hname, ih, List.cons_append]
          · rw [List.cons_append, list_unreported hname, list_unreported hname, ih, List.append_assoc,
              List.cons_append]

theorem list_map_own (problems : List Diagnostic) :
    list reported (problems.map .own) = (problems, reported) := by
  induction problems with
  | nil => rfl
  | cons p rest ih => rw [List.map_cons, list_own, ih]

end Finding

/-- What a function is answered with, where the problems of some compounds were listed before. -/
def Checked.told (before : List String) (check : Checked Finding Operation) :
    Except (List Diagnostic) Operation :=
  check.toExcept.mapError fun findings => (Finding.list before findings).1

/-- What functions are answered with, one after the other. -/
def toldAll (before : List String) : List (Checked Finding Operation) →
    List (Except (List Diagnostic) Operation)
  | [] => []
  | check :: rest => check.told before :: toldAll (Finding.list before check.found).2 rest

/-- The answer for a DAO: its problems are those of its annotation and those that are told of its
functions; without any it has an operation for each function. -/
def Declaration.daoAnswer (d : Declaration) (told : List (Except (List Diagnostic) Operation)) :
    Except (List Diagnostic) Dao :=
  match (readMark DaoMark d.qualifiedName d.annotations).2 ++ told.flatMap problemsOf with
  | [] => .ok ⟨d.qualifiedName, told.filterMap Except.toOption⟩
  | problems => .error problems

section Answers

variable {c : Catalog} {before : List String}

theorem told_of_clean {check : Checked Finding Operation} {o : Operation} (h : check.Builds o)
    (before : List String) : check.told before = .ok o := by
  rw [Checked.told, Checked.toExcept_eq_ok_iff.mpr ⟨h.value, h.clean⟩]
  rfl

theorem problemsOf_told (check : Checked Finding Operation) :
    problemsOf (check.told before) = (Finding.list before check.found).1 := by
  cases hanswer : check.toExcept with
  | ok o =>
      obtain ⟨-, hclean⟩ := Checked.builds_of_toExcept hanswer
      rw [Checked.told, hanswer, hclean]
      rfl
  | error findings =>
      rw [Checked.told, hanswer, Checked.found_of_toExcept hanswer]
      rfl

theorem problemsOf_toldAll (checks : List (Checked Finding Operation)) :
    (toldAll before checks).flatMap problemsOf =
      (Finding.list before (checks.flatMap Checked.found)).1 := by
  induction checks generalizing before with
  | nil => rfl
  | cons check rest ih =>
      rw [toldAll, List.flatMap_cons, List.flatMap_cons, Finding.list_append, problemsOf_told, ih]

/-- Where no function has a problem, each has its operation. -/
theorem filterMap_toldAll {checks : List (Checked Finding Operation)}
    (h : checks.flatMap Checked.found = []) :
    (toldAll before checks).filterMap Except.toOption = checks.filterMap Checked.value? := by
  induction checks generalizing before with
  | nil => rfl
  | cons check rest ih =>
      rw [List.flatMap_cons, List.append_eq_nil_iff] at h
      obtain ⟨hcheck, hrest⟩ := h
      have hvalue : (check.told before).toOption = check.value? := by
        rw [Checked.told, Checked.toExcept, hcheck]
        cases check.value? <;> rfl
      rw [toldAll, List.filterMap_cons, List.filterMap_cons, hvalue, ih hrest]

/-- Each function is answered with what its check comes to. -/
theorem forall₂_toldAll (c : Catalog) (owner : String) (functions : List Function) :
    List.Forall₂ (fun f told => ∃ before, told = (c.share owner f).told before) functions
      (toldAll before (functions.map (c.share owner))) := by
  induction functions generalizing before with
  | nil => exact .nil
  | cons f rest ih => exact .cons ⟨before, rfl⟩ ih

theorem decides_share (c : Catalog) (owner : String) (f : Function) : (c.share owner f).Decides :=
  decides_operation c owner f

/-- The findings of a DAO are those of its annotation and those of its functions. -/
theorem daoFindings_eq {d : Declaration} (hmark : Mark.has DaoMark d.annotations = true)
    (htrait : d.isTrait = true) :
    c.daoFindings d =
      let shares := (d.functions.filter Function.isAbstract).map (c.share d.qualifiedName)
      Checked.toExcept ⟨some ⟨d.qualifiedName, shares.filterMap Checked.value?⟩,
        (readMark DaoMark d.qualifiedName d.annotations).2.map Finding.own ++
          shares.flatMap Checked.found⟩ := by
  have hbody : (c.daoBody (.known c.entityOf) (.known c.compoundOf) d).run.run = (do
      Checked.report ((readMark DaoMark d.qualifiedName d.annotations).2.map Finding.own)
      let operations ← Checked.all
        ((d.functions.filter Function.isAbstract).map (c.share d.qualifiedName))
      return (⟨d.qualifiedName, operations⟩ : Dao)) := by
    unfold Catalog.daoBody
    simp only [CheckedT.run_bind_id, CheckedT.run_all]
    rfl
  unfold Catalog.daoFindings Catalog.resolveDao
  simp only [hmark, htrait, Bool.not_true, Bool.false_eq_true, if_false]
  change (c.daoBody (.known c.entityOf) (.known c.compoundOf) d).run.run.toExcept = _
  rw [hbody, Checked.bind_eq]
  simp only [Checked.report]
  rw [Checked.found_bind_pure, Checked.value?_bind]
  rfl

/-- **The answer for a DAO** is put together from what is told of its functions, in order. -/
theorem listed_daoFindings {d : Declaration} (hmark : Mark.has DaoMark d.annotations = true)
    (htrait : d.isTrait = true) :
    listed before (c.daoFindings d) = d.daoAnswer (toldAll before
      ((d.functions.filter Function.isAbstract).map (c.share d.qualifiedName))) := by
  rw [daoFindings_eq hmark htrait, Declaration.daoAnswer, problemsOf_toldAll]
  extract_lets shares
  generalize (readMark DaoMark d.qualifiedName d.annotations).2 = faults
  have hlist : (Finding.list before (faults.map Finding.own ++ shares.flatMap Checked.found)).1 =
      faults ++ (Finding.list before (shares.flatMap Checked.found)).1 := by
    rw [Finding.list_append, Finding.list_map_own]
  rw [← hlist]
  cases hfound : faults.map Finding.own ++ shares.flatMap Checked.found with
  | nil =>
      rw [filterMap_toldAll (List.append_eq_nil_iff.mp hfound).2]
      rfl
  | cons finding rest =>
      have hproblems : (Finding.list before (finding :: rest)).1 ≠ [] :=
        Finding.list_ne_nil (List.cons_ne_nil finding rest)
      split
      · contradiction
      · rfl

end Answers

/-! ## a stock -/

/-- A search for bins. A placeholder has no parameter, a parameter no placeholder, and one cannot be
bound. -/
def stockFind : Function where
  name := "find"
  parameters := [{ name := "row", type := .ofName "i64" }, { name := "item", type := .ofName "Item" }]
  returnType := some { name := "Vec", arguments := [.ofName "app::Bin"] }
  annotations :=
    [{ name := "Query"
       arguments := [("value", .text "SELECT * FROM Shelf WHERE id > :shelf AND row = :row OR id = :shelf")] }]

/-- All bins. -/
def stockAll : Function where
  name := "all"
  returnType := some { name := "Vec", arguments := [.ofName "app::Bin"] }
  annotations := [{ name := "Query", arguments := [("value", .text "SELECT * FROM Shelf")] }]

/-- The number of shelves between two rows. -/
def stockCount : Function where
  name := "count"
  parameters := [{ name := "low", type := .ofName "i64" }, { name := "high", type := .ofName "i64" }]
  returnType := some (.ofName "i64")
  annotations :=
    [{ name := "Query"
       arguments := [("value", .text "SELECT COUNT(*) FROM Shelf WHERE row BETWEEN :low AND :high")] }]

/-- A DAO whose annotation takes no argument. -/
def stockDao : Declaration where
  qualifiedName := "app::StockDao"
  kind := .trait
  annotations := [{ name := "Dao", arguments := [("cached", .bool true)] }]
  functions := [stockFind, stockAll, stockCount]

/-- A DAO of bins, which are no compounds: one of their properties is neither embedded nor a relation. -/
def stockCatalog : Catalog where
  declarations :=
    [{ qualifiedName := "app::Shelf"
       annotations := [{ name := "Entity" }]
       properties :=
        [{ name := "id", type := .ofName "i64", annotations := [{ name := "PrimaryKey" }] },
          { name := "row", type := .ofName "i64" }] },
      { qualifiedName := "app::Bin"
        properties :=
          [{ name := "shelf", type := .ofName "app::Shelf", annotations := [{ name := "Embedded" }] },
            { name := "note", type := .ofName "String" }] },
      stockDao]
  nodup := by decide

end DaoForge
