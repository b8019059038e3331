import DaoForge.Proofs.Resolve.Share
import DaoForge.Proofs.Resolve.Signature

/-!
# DaoForge.Proofs.Resolve.Placeholder

The placeholders of a query and the parameters of its function.

1. no problem of a compound is a mismatch of placeholders (`matched_compoundOf`);
2. `Function.PairsUp`: the mismatches that are told of a query's function are the placeholders without a
   parameter, in the order of their first use, and the parameters without a placeholder. So it is whatever
   else is wrong with the function (`pairsUp_told`), and one that is accepted has none;
3. `Call.placeholders_told`: so replies a run of every function of a DAO.
-/

namespace DaoForge

/-! ## problems of compounds -/

/-- The problem is no mismatch of placeholders. -/
def Diagnostic.Matched (p : Diagnostic) : Prop := p.error.isMismatch = false

section Matched

variable {c : Catalog} {anchor : String}

/-- Plain problems are no mismatches, and neither is an entity that failed. -/
theorem admits_matched (c : Catalog) (owner : String) :
    Diagnostic.Admits c owner Diagnostic.Matched where
  plain _ hplain := SpecError.isMismatch_of_isPlain hplain
  failed _ _ _ _ := rfl

/-- The problems of a compound are no mismatches. -/
theorem matched_compoundOf {d : Declaration} {problems : List Diagnostic}
    (h : c.compoundOf d = .error problems) : ∀ p ∈ problems, p.Matched :=
  (admits_matched c d.qualifiedName).compoundOf h

/-- What ends the check of a function lists no mismatches. -/
theorem matched_list_of_stops {α : Type} {check : Checked Finding α} {before : List String}
    (h : check.Stops (Finding.Ends c anchor)) :
    ∀ p ∈ (Finding.list before check.found).1, p.Matched := by
  cases h with
  | value a => exact List.forall_mem_nil _
  | problem hends =>
      rw [Checked.fail]
      cases hends with
      | own hmatched => exact List.forall_mem_singleton.mpr hmatched
      | @dependency d theirs hd _ hfails =>
          have hfailed : (dependencyFailed anchor d.qualifiedName).Matched := rfl
          by_cases hname : d.qualifiedName ∈ before
          · rw [Finding.list_reported hname]
            exact List.forall_mem_singleton.mpr hfailed
          · rw [Finding.list_unreported hname]
            exact List.forall_mem_append.mpr
              ⟨matched_compoundOf hfails, List.forall_mem_singleton.mpr hfailed⟩

end Matched

/-! ## mismatches -/

/-- The only operation annotation of the function is this query, and it is well formed. -/
structure Function.IsQuery (f : Function) (mark : QueryMark) : Prop where
  read : Mark.find QueryMark f.annotations = .ok (some mark)
  only : ∀ name ∈ ["Insert", "Update", "Delete"], Mark.isPresent f.annotations name = false

/-- What is told of a function with these placeholders: of all problems those are mismatches that say of
a placeholder that it has no parameter, each once and in the order of first use, and of a parameter that
it has no placeholder. If the function is accepted, placeholders and parameters are the same names, and
the parameters are those of the function. -/
structure Function.PairsUp (f : Function) (anchor : String) (placeholders : List String)
    (told : Except (List Diagnostic) Operation) : Prop where
  mismatches : ∃ unbound : List String,
    (∀ name, name ∈ unbound ↔ name ∈ placeholders ∧ name ∉ f.parameters.map Parameter.name) ∧
    unbound.Pairwise (fun a b => placeholders.idxOf a < placeholders.idxOf b) ∧
    (problemsOf told).filter (fun p => p.error.isMismatch) =
      unbound.map (fun name => ⟨anchor, .binding (.unboundQueryParameter name)⟩) ++
        ((f.parameters.map Parameter.name).filter fun name => name ∉ placeholders).map fun name =>
          ⟨anchor, .binding (.unusedQueryParameter name)⟩
  accepted : ∀ o, told = .ok o →
    (∀ name, name ∈ placeholders ↔ name ∈ f.parameters.map Parameter.name) ∧
      List.Forall₂ BoundParameter.Declares f.parameters o.parameters

section Mismatches

variable {c : Catalog} {f : Function} {anchor owner : String} {mark : QueryMark} {q : RawQuery}

/-- The distinct ones of some items stand in the order in which all items are first met. -/
theorem pairwise_idxOf_distinct (items : List String) (P : String → Bool) :
    (distinct (items.filter P)).Pairwise fun a b => items.idxOf a < items.idxOf b := by
  induction items using List.reverseRecOn with
  | nil => exact .nil
  | append_singleton items x ih =>
      have hkept : (distinct (items.filter P)).Pairwise fun a b =>
          (items ++ [x]).idxOf a < (items ++ [x]).idxOf b := by
        refine ih.imp_of_mem fun ha hb hlt => ?_
        have hmem {a : String} (ha : a ∈ distinct (items.filter P)) : a ∈ items :=
          (List.mem_filter.mp (mem_distinct.mp ha)).1
        rwa [List.idxOf_append_of_mem (hmem ha), List.idxOf_append_of_mem (hmem hb)]
      by_cases hx : P x = true
      · rw [List.filter_append, List.filter_cons_of_pos hx, List.filter_nil, distinct_concat]
        split
        · exact hkept
        next hnew =>
        refine List.pairwise_append.mpr ⟨hkept, List.pairwise_singleton _ _, ?_⟩
        intro a ha b hb
        obtain rfl := List.mem_singleton.mp hb
        have hmem : a ∈ items := (List.mem_filter.mp (mem_distinct.mp ha)).1
        have hnot : b ∉ items := fun hb => hnew (List.mem_filter.mpr ⟨hb, hx⟩)
        rw [List.idxOf_append_of_mem hmem, List.idxOf_append_of_notMem hnot]
        have := List.idxOf_lt_length_iff.mpr hmem
        omega
      · rw [List.filter_append, List.filter_cons_of_neg hx, List.filter_nil, List.append_nil]
        exact hkept

theorem operationMark_of_isQuery (h : f.IsQuery mark) :
    f.operationMark anchor = pure (.query mark) := by
  have hpresent : Mark.isPresent f.annotations "Query" = true :=
    Mark.isPresent_of_find (R := QueryMark) h.read
  have hinsert := h.only "Insert" (by simp)
  have hupdate := h.only "Update" (by simp)
  have hdelete := h.only "Delete" (by simp)
  simp [Function.operationMark, operationReaders, List.filter, hpresent, hinsert, hupdate, hdelete,
    readOperation, h.read]

/-- The findings of a query's function. -/
theorem found_share_of_isQuery (c : Catalog) (owner : String) (h : f.IsQuery mark)
    (hblank : isBlankText mark.value = false) (hsql : RawQuery.ofSql mark.value = .ok q) :
    ∃ shape : Checked Finding ReturnShape,
      shape.Stops (Finding.Ends c (Diagnostic.memberAnchor owner f.name)) ∧
      (c.share owner f).found =
        (f.parameters.filter fun p => (c.bindingOf? p.type).isNone).map (fun p =>
            problem (Diagnostic.memberAnchor owner f.name)
              (.resolution (.unsupportedParameterType p.name p.type.source))) ++
          (bindingFaults (Diagnostic.memberAnchor owner f.name) q.bindings
            (f.parameters.map Parameter.name) ++ shape.found) := by
  refine ⟨(c.queryShape (.known c.entityOf) (.known c.compoundOf) f q f.result _).run.run,
    stops_queryShape, ?_⟩
  rw [← found_rawOperation hblank hsql]
  unfold Catalog.share Catalog.operation
  rw [CheckedT.run_bind_id]
  change (f.operationMark _ >>= _).found = _
  rw [operationMark_of_isQuery h, Checked.found_bind_of_some rfl, CheckedT.run_bind_id]
  exact Checked.found_bind_pure _ _

theorem map_problem {α : Type} (items : List α) (error : α → SpecError) :
    (items.map fun item => problem anchor (error item)) =
      (items.map fun item => (⟨anchor, error item⟩ : Diagnostic)).map .own := by
  rw [List.map_map]
  rfl

/-- Problems that are none are not among the mismatches. -/
theorem filter_isMismatch_of_matched {problems : List Diagnostic} (h : ∀ p ∈ problems, p.Matched) :
    problems.filter (fun p => p.error.isMismatch) = [] :=
  List.filter_eq_nil_iff.mpr fun p hp => Bool.eq_false_iff.mp (h p hp)

theorem filter_isMismatch_map {α : Type} {error : α → SpecError}
    (h : ∀ item, (error item).isMismatch = true) (items : List α) :
    (items.map fun item => (⟨anchor, error item⟩ : Diagnostic)).filter (fun p => p.error.isMismatch) =
      items.map fun item => ⟨anchor, error item⟩ :=
  List.filter_eq_self.mpr (List.forall_mem_map.mpr fun item _ => h item)

/-- A function that is accepted has an operation, and no findings. -/
theorem builds_of_told {check : Checked Finding Operation} {before : List String} {o : Operation}
    (h : check.told before = .ok o) : check.Builds o := by
  cases hanswer : check.toExcept with
  | ok found =>
      rw [Checked.told, hanswer] at h
      cases h
      exact Checked.builds_of_toExcept hanswer
  | error findings =>
      rw [Checked.told, hanswer] at h
      contradiction

theorem mem_placeholders_of_bindingFaults {placeholders parameters : List String}
    (h : bindingFaults anchor placeholders parameters = []) :
    ∀ name ∈ parameters, name ∈ placeholders := by
  have hunused := List.map_eq_nil_iff.mp (List.append_eq_nil_iff.mp h).2
  rw [List.filter_eq_nil_iff] at hunused
  intro name hname
  simpa using hunused name hname

/-- **Mismatches are told**, those that there are and no others, whatever else the function fails with. -/
theorem pairsUp_told (h : f.IsQuery mark) (hblank : isBlankText mark.value = false)
    (hsql : RawQuery.ofSql mark.value = .ok q) (before : List String) :
    f.PairsUp (Diagnostic.memberAnchor owner f.name) q.bindings ((c.share owner f).told before) := by
  obtain ⟨shape, hstops, hfound⟩ := found_share_of_isQuery c owner h hblank hsql
  constructor
  · refine ⟨distinct (q.bindings.filter fun name => !(f.parameters.map Parameter.name).contains name),
      fun name => by simp [mem_distinct], pairwise_idxOf_distinct _ _, ?_⟩
    have hunused : (f.parameters.map Parameter.name).filter (fun name => name ∉ q.bindings) =
        (f.parameters.map Parameter.name).filter fun name => !q.bindings.contains name := by simp
    rw [problemsOf_told, hfound, hunused, bindingFaults]
    simp only [map_problem, Finding.list_append, Finding.list_map_own, List.filter_append]
    generalize f.parameters.filter _ = unsupported
    have hunsupported : ∀ p ∈ unsupported.map fun p => (⟨Diagnostic.memberAnchor owner f.name,
        .resolution (.unsupportedParameterType p.name p.type.source)⟩ : Diagnostic), p.Matched :=
      List.forall_mem_map.mpr fun _ _ => rfl
    rw [filter_isMismatch_of_matched hunsupported,
      filter_isMismatch_of_matched (matched_list_of_stops hstops),
      filter_isMismatch_map fun _ => rfl, filter_isMismatch_map fun _ => rfl, List.nil_append,
      List.append_nil]
  · intro o ho
    have hbuilds := builds_of_told ho
    have hclean := hbuilds.clean
    rw [hfound, List.append_eq_nil_iff, List.append_eq_nil_iff] at hclean
    obtain ⟨-, hfaults, -⟩ := hclean
    refine ⟨fun name => ⟨?_, ?_⟩, (declares_of_operation hbuilds).parameters⟩
    · exact mem_parameters_of_bindingFaults hfaults name
    · exact mem_placeholders_of_bindingFaults hfaults name

end Mismatches

/-! ## runs -/

namespace Call

variable {c : Catalog}

/-- Whatever a run was asked before, its reply for a DAO may only leave out problems that were listed. -/
theorem reply_dao {d : Declaration} {calls : List Call} {reply : Reply} (hd : d ∈ c.declarations)
    (h : (.dao d.qualifiedName, reply) ∈ calls.zip ((calls.mapM (Call.answer c)).run {}).run.1) :
    ∃ before, reply = .dao (listed before (c.daoFindings d)) := by
  have hstep (call : Call) : Yields (Session.Sound c) (call.answer c) fun reply =>
      ∀ name, call = .dao name → ∃ before, reply =
        .dao (c.lookup name >>= fun d => listed before (c.daoFindings d)) := by
    cases call with
    | dao name =>
        refine (yields_daoByName name).bind ?_
        rintro _ ⟨before, rfl⟩
        refine yields_pure ?_
        rintro _ ⟨⟩
        exact ⟨before, rfl⟩
    | entity name | compound name | database name =>
        exact fun s hs => ⟨fun _ h => (nomatch h), (answer_agrees _ s hs).2⟩
  have hrun : Yields (Session.Sound c) (calls.mapM (Call.answer c)) _ :=
    yields_mapM fun call _ => hstep call
  have hreplies := (List.forall₂_iff_zip.mp (hrun {} (Session.sound_empty c)).1).2 h
  obtain ⟨before, hreply⟩ := hreplies _ rfl
  rw [Catalog.lookup_qualifiedName hd] at hreply
  exact ⟨before, hreply⟩

/-- **Placeholders and parameters are paired up**: the reply of a run for a DAO, whatever it was asked
before, is put together from what is told of the functions, in order. Of a function whose only operation
annotation is a query that can be read, the mismatches are told, those that there are and no others. -/
theorem placeholders_told {d : Declaration} {calls : List Call} {reply : Reply}
    (hd : d ∈ c.declarations) (hmark : Mark.has DaoMark d.annotations = true) (htrait : d.isTrait = true)
    (hreply : (.dao d.qualifiedName, reply) ∈
      calls.zip ((calls.mapM (Call.answer c)).run {}).run.1) :
    ∃ told, reply = .dao (d.daoAnswer told) ∧
      List.Forall₂ (fun f told => (∃ before, told = (c.share d.qualifiedName f).told before) ∧
          ∀ mark q, f.IsQuery mark → isBlankText mark.value = false →
            RawQuery.ofSql mark.value = .ok q →
              f.PairsUp (Diagnostic.memberAnchor d.qualifiedName f.name) q.bindings told)
        (d.functions.filter Function.isAbstract) told := by
  obtain ⟨before, rfl⟩ := reply_dao hd hreply
  refine ⟨_, congrArg Reply.dao (listed_daoFindings hmark htrait), ?_⟩
  refine (forall₂_toldAll _ _ _).imp fun f told ⟨before, htold⟩ => ?_
  rw [htold]
  exact ⟨⟨before, rfl⟩, fun mark q h hblank hsql => pairsUp_told h hblank hsql before⟩

/-- Every call is replied to. -/
theorem exists_reply (c : Catalog) (calls : List Call) {call : Call} (h : call ∈ calls) :
    ∃ reply, (call, reply) ∈ calls.zip ((calls.mapM (Call.answer c)).run {}).run.1 := by
  have hlength := (answers_agree (c := c) calls).length_eq
  generalize ((calls.mapM (Call.answer c)).run {}).run.1 = replies at hlength
  obtain ⟨i, hi, rfl⟩ := List.getElem_of_mem h
  have hreply : i < replies.length := hlength ▸ hi
  have hzip : i < (calls.zip replies).length := by
    rw [List.length_zip]
    exact Nat.lt_min.mpr ⟨hi, hreply⟩
  exact ⟨replies[i], List.getElem_zip (h := hzip) ▸ List.getElem_mem hzip⟩

/-- Of the search it is told which names do not match, though its rows fail, too; the count is accepted. -/
theorem placeholders_told_stock :
    ∃ reply find all count, (.dao "app::StockDao", reply) ∈
        [Call.compound "app::Bin", .dao "app::StockDao"].zip
          (([Call.compound "app::Bin", .dao "app::StockDao"].mapM (Call.answer stockCatalog)).run {}).run.1 ∧
      reply = .dao (stockDao.daoAnswer [find, all, count]) ∧
      stockFind.PairsUp "app::StockDao::find" ["shelf", "row", "shelf"] find ∧
      ∃ o, count = .ok o ∧ List.Forall₂ BoundParameter.Declares stockCount.parameters o.parameters := by
  have hcall : Call.dao "app::StockDao" ∈ [Call.compound "app::Bin", .dao "app::StockDao"] := by decide
  obtain ⟨reply, hreply⟩ := exists_reply stockCatalog _ hcall
  obtain ⟨told, hanswer, htold⟩ :=
    placeholders_told (d := stockDao) (by decide) (by decide) (by decide) hreply
  have hfunctions : stockDao.functions.filter Function.isAbstract = [stockFind, stockAll, stockCount] :=
    rfl
  rw [hfunctions] at htold
  obtain _ | ⟨⟨-, hfind⟩, _ | ⟨-, _ | ⟨⟨⟨before, hcount⟩, hpairs⟩, _ | -⟩⟩⟩ := htold
  have hfindSql : (RawQuery.ofSql
      "SELECT * FROM Shelf WHERE id > :shelf AND row = :row OR id = :shelf").toOption.map
        RawQuery.bindings = some ["shelf", "row", "shelf"] := by decide +kernel
  have hcountSql : (RawQuery.ofSql
      "SELECT COUNT(*) FROM Shelf WHERE row BETWEEN :low AND :high").toOption.isSome = true := by
    decide +kernel
  have haccepted : (stockCatalog.share "app::StockDao" stockCount).toExcept.toOption.isSome = true := by
    decide +kernel
  obtain ⟨q, hq, hbindings⟩ := Option.map_eq_some_iff.mp hfindSql
  obtain ⟨q', hq'⟩ := Option.isSome_iff_exists.mp hcountSql
  obtain ⟨o, ho⟩ := Option.isSome_iff_exists.mp haccepted
  have htoldCount := told_of_clean (Checked.builds_of_toExcept (eq_ok_of_toOption ho)) before
  refine ⟨reply, _, _, _, hreply, hanswer, ?_, o, hcount.trans htoldCount, ?_⟩
  · rw [← hbindings]
    exact hfind ⟨_⟩ q ⟨by decide, by decide⟩ (by decide) (eq_ok_of_toOption hq)
  · exact ((hpairs ⟨_⟩ q' ⟨by decide, by decide⟩ (by decide) (eq_ok_of_toOption hq')).accepted o
      (hcount.trans htoldCount)).2

end Call

end DaoForge
