import DaoForge.Proofs.Resolve.Answers

/-!
# DaoForge.Proofs.Resolve.Calls

Calls to one run, compared with the same calls to a run of their own.

1. `Finding.list_subset`, `Finding.list_ne_nil`: what was reported before shortens a list, and never
   empties it;
2. `Checked.Alike`: two checks come to one value, and both or neither find a problem. Getters are
   alike in all sound sessions, and a database is assembled alike from such getters;
3. `answer_agrees` is the step, from any sound session, and `answers_agree` the whole run;
4. `known_of_reply`: what a run replies with is what the catalog alone says of a declaration.
-/

namespace DaoForge

/-! ## lists of findings -/

namespace Finding

variable {reported fewer more : List String} {anchor name : String} {theirs : List Diagnostic}

theorem list_reported (h : name ∈ reported) (rest : List Finding) :
    list reported (.dependency anchor name theirs :: rest) =
      (dependencyFailed anchor name :: (list reported rest).1, (list reported rest).2) := by
  have hcontains : reported.contains name = true := List.contains_iff_mem.mpr h
  rw [list, if_pos hcontains]

theorem list_unreported (h : name ∉ reported) (rest : List Finding) :
    list reported (.dependency anchor name theirs :: rest) =
      (theirs ++ dependencyFailed anchor name :: (list (name :: reported) rest).1,
        (list (name :: reported) rest).2) := by
  have hcontains : ¬ reported.contains name = true := fun h' => h (List.contains_iff_mem.mp h')
  rw [list, if_neg hcontains]

theorem list_ne_nil {findings : List Finding} (h : findings ≠ []) :
    (list reported findings).1 ≠ [] := by
  cases findings with
  | nil => contradiction
  | cons finding rest =>
      cases finding with
      | own d => simp [list]
      | dependency anchor name theirs =>
          by_cases hname : name ∈ reported
          · simp [list_reported hname]
          · simp [list_unreported hname]

/-- Where more was reported before, less is listed. -/
theorem list_subset (h : fewer ⊆ more) (findings : List Finding) :
    (list more findings).1 ⊆ (list fewer findings).1 := by
  induction findings generalizing fewer more with
  | nil => exact List.Subset.refl _
  | cons finding rest ih =>
      cases finding with
      | own d => exact List.cons_subset_cons d (ih h)
      | dependency anchor name theirs =>
          by_cases hfewer : name ∈ fewer
          · rw [list_reported hfewer, list_reported (h hfewer)]
            exact List.cons_subset_cons _ (ih h)
          rw [list_unreported hfewer]
          by_cases hmore : name ∈ more
          · have hrest : (list more rest).1 ⊆ (list (name :: fewer) rest).1 :=
              ih (List.cons_subset.mpr ⟨hmore, h⟩)
            rw [list_reported hmore]
            exact List.Subset.trans (List.cons_subset_cons _ hrest) (List.subset_append_right _ _)
          · have hrest : (list (name :: more) rest).1 ⊆ (list (name :: fewer) rest).1 :=
              ih (List.cons_subset_cons name h)
            rw [list_unreported hmore]
            exact List.append_subset.mpr ⟨List.subset_append_left _ _,
              List.Subset.trans (List.cons_subset_cons _ hrest) (List.subset_append_right _ _)⟩

end Finding

/-! ## checks that are alike -/

namespace Checked

variable {ι α β : Type}

/-- The checks come to one value, and both or neither find a problem. -/
structure Alike (a b : Checked ι α) : Prop where
  value?_eq : a.value? = b.value?
  found_iff : a.found = [] ↔ b.found = []

theorem Alike.refl (a : Checked ι α) : Alike a a := ⟨rfl, Iff.rfl⟩

theorem alike_fail {found found' : List ι} (h : found ≠ []) (h' : found' ≠ []) :
    Alike (.fail found : Checked ι α) (.fail found') :=
  ⟨rfl, by simp [fail, h, h']⟩

theorem Alike.report {a b : Checked ι α} (h : Alike a b) (found : List ι) :
    Alike (do Checked.report found; a) (do Checked.report found; b) :=
  ⟨h.value?_eq, by
    change found ++ a.found = [] ↔ found ++ b.found = []
    rw [List.append_eq_nil_iff, List.append_eq_nil_iff, h.found_iff]⟩

theorem alike_all {as bs : List (Checked ι α)} (h : List.Forall₂ Alike as bs) :
    Alike (all as) (all bs) := by
  have hvalues : as.filterMap value? = bs.filterMap value? ∧
      (as.flatMap found = [] ↔ bs.flatMap found = []) := by
    induction h with
    | nil => exact ⟨rfl, Iff.rfl⟩
    | cons hhead htail ih =>
        obtain ⟨hvalue, hfound⟩ := ih
        constructor
        · rw [List.filterMap_cons, List.filterMap_cons, hhead.value?_eq, hvalue]
        · rw [List.flatMap_cons, List.flatMap_cons, List.append_eq_nil_iff,
            List.append_eq_nil_iff, hhead.found_iff, hfound]
  exact ⟨congrArg some hvalues.1, hvalues.2⟩

theorem toOption_toExcept (a : Checked ι α) :
    a.toExcept.toOption = if a.found = [] then a.value? else none := by
  unfold toExcept
  cases a.value? <;> cases a.found <;> rfl

theorem Alike.toOption_eq {a b : Checked ι α} (h : Alike a b) :
    a.toExcept.toOption = b.toExcept.toOption := by
  rw [toOption_toExcept, toOption_toExcept, h.value?_eq]
  simp only [h.found_iff]

/-- A check that has a value fails with the problems that it found. -/
theorem toExcept_ne_nil {a : Checked ι α} {found : List ι} (hvalue : a.value?.isSome = true)
    (h : a.toExcept = .error found) : found ≠ [] := by
  obtain ⟨v, hv⟩ := Option.isSome_iff_exists.mp hvalue
  rintro rfl
  unfold toExcept at h
  rw [hv] at h
  cases hfound : a.found <;> simp [hfound] at h

end Checked

/-! ## databases -/

/-- The answer holds the value; if there is none, it lists problems. -/
def Tells {α : Type} (value? : Option α) (answer : Except (List Diagnostic) α) : Prop :=
  answer.toOption = value? ∧ ∀ problems, answer = .error problems → problems ≠ []

theorem tells_error {α : Type} {problems : List Diagnostic} (h : problems ≠ []) :
    Tells (none : Option α) (.error problems) := by
  refine ⟨rfl, ?_⟩
  rintro _ ⟨⟩
  exact h

section Databases

variable {c : Catalog}

/-- The getter of a function, as far as the catalog alone says. -/
def Catalog.getter? (c : Catalog) (f : Function) : Option DaoGetter :=
  if f.parameters.isEmpty then
    (c.getterTarget? f).bind fun d => (c.daoFindings d).toOption.map fun dao => ⟨f.name, dao⟩
  else none

/-- The entities that a database lists, as far as the catalog alone says. -/
def Catalog.knownEntities (c : Catalog) (d : Declaration) (record : DatabaseMark) :
    Checked Diagnostic (List Entity) :=
  (CheckedT.all
    (record.entities.map (c.dependentEntity (.known c.entityOf) d.qualifiedName))).run.run

/-- The getters of a database, as far as the catalog alone says. -/
def Catalog.knownGetters (c : Catalog) (d : Declaration) : Checked Diagnostic (List DaoGetter) :=
  .all <| (d.functions.filter Function.isAbstract).map fun f =>
    .ofOption (dependencyFailed d.qualifiedName f.name) (c.getter? f)

/-- The database of a marked declaration, as far as the catalog alone says. -/
def Catalog.markedDatabase? (c : Catalog) (d : Declaration) (record : DatabaseMark) :
    Option Database :=
  let owner := d.qualifiedName
  let (converters, converterFaults) := readMark TypeConvertersMark owner d.annotations
  Except.toOption <| Checked.toExcept do
    Checked.report converterFaults
    c.assembleDatabase owner record.version (converters.getD {}) (c.knownEntities d record)
      (c.knownGetters d)

/-- The database of a declaration, as far as the catalog alone says. -/
def Catalog.database? (c : Catalog) (d : Declaration) : Option Database :=
  if d.isTrait then
    match Mark.find DatabaseMark d.annotations with
    | .ok (some record) => c.markedDatabase? d record
    | _ => none
  else none

theorem mem_of_getterTarget? {f : Function} {d : Declaration} (h : c.getterTarget? f = some d) :
    d ∈ c.declarations :=
  Catalog.mem_of_resolve? (Option.filter_eq_some_iff.mp h).1

theorem daoFindings_ne_nil {d : Declaration} {findings : List Finding}
    (h : c.daoFindings d = .error findings) : findings ≠ [] := by
  unfold Catalog.daoFindings Catalog.resolveDao at h
  split at h
  · cases h
    exact List.cons_ne_nil _ _
  split at h
  · cases h
    exact List.cons_ne_nil _ _
  · exact Checked.toExcept_ne_nil rfl h

/-- Getters are alike in all sound sessions. -/
theorem yields_getter (owner : String) (f : Function) :
    Yields (Session.Sound c) (c.getter owner f) fun getter =>
      getter.Alike (.ofOption (dependencyFailed owner f.name) (c.getter? f)) := by
  unfold Catalog.getter Catalog.getter?
  by_cases hparameters : f.parameters.isEmpty = true
  · simp only [hparameters, Bool.not_true, Bool.false_eq_true, if_false, if_true]
    cases htarget : c.getterTarget? f with
    | none => exact yields_pure (Checked.alike_fail (List.cons_ne_nil _ _) (List.cons_ne_nil _ _))
    | some d =>
        refine (yields_dao c (mem_of_getterTarget? htarget)).bind ?_
        rintro _ ⟨reported, rfl⟩
        rw [Option.bind_some]
        cases c.daoFindings d with
        | ok dao => exact yields_pure (.refl _)
        | error findings =>
            refine Yields.bind (yields_list c _) ?_
            rintro _ ⟨reported', rfl⟩
            refine yields_pure (Checked.alike_fail ?_ (List.cons_ne_nil _ _))
            exact Finding.list_ne_nil (List.cons_ne_nil _ _)
  · simp only [hparameters, Bool.not_false, if_true, Bool.false_eq_true, if_false]
    exact yields_pure (Checked.alike_fail (List.cons_ne_nil _ _) (List.cons_ne_nil _ _))

theorem assembleDatabase_alike (owner : String) (version : Int64) (converters : TypeConvertersMark)
    (listed : Checked Diagnostic (List Entity)) {a b : Checked Diagnostic (List DaoGetter)}
    (h : a.Alike b) :
    (c.assembleDatabase owner version converters listed a).Alike
      (c.assembleDatabase owner version converters listed b) := by
  constructor
  · simp only [Catalog.assembleDatabase, h.value?_eq]
  · simp only [Catalog.assembleDatabase, h.value?_eq, List.append_eq_nil_iff, h.found_iff]

/-- The entities that a database lists are looked up as the catalog says. -/
theorem Session.Recalls.yields_knownEntities {inv : Session → Prop} (h : Session.Recalls c inv)
    (d : Declaration) (record : DatabaseMark) :
    Yields inv (CheckedT.all
      (record.entities.map (c.dependentEntity (Session.entity c) d.qualifiedName))).run
        fun listed => listed = c.knownEntities d record :=
  gives_all fun t => gives_dependentEntity h.follows_entity d.qualifiedName t

theorem yields_knownEntities (d : Declaration) (record : DatabaseMark) :
    Yields (Session.Sound c) (CheckedT.all
      (record.entities.map (c.dependentEntity (Session.entity c) d.qualifiedName))).run
        fun listed => listed = c.knownEntities d record :=
  .of_quiet fun reported => (recalls_quiet c reported).yields_knownEntities d record

theorem yields_markedDatabase (d : Declaration) (record : DatabaseMark) :
    Yields (Session.Sound c) (c.markedDatabase d record) (Tells (c.markedDatabase? d record)) := by
  unfold Catalog.markedDatabase Catalog.markedDatabase?
  refine (yields_knownEntities d record).bind ?_
  rintro _ rfl
  refine (yields_mapM fun f _ => yields_getter d.qualifiedName f).bind fun getters hgetters => ?_
  have hall : (Checked.all getters).Alike (c.knownGetters d) :=
    Checked.alike_all (List.forall₂_map_right_iff.mpr hgetters.flip)
  refine yields_pure ⟨Checked.Alike.toOption_eq ?_, fun _ h => Checked.toExcept_ne_nil rfl h⟩
  exact (assembleDatabase_alike _ _ _ _ hall).report _

/-- A database resolves to what it is, or lists problems. -/
theorem yields_databaseOf (d : Declaration) :
    Yields (Session.Sound c) (c.databaseOf d) (Tells (c.database? d)) := by
  unfold Catalog.databaseOf Catalog.database?
  by_cases htrait : d.isTrait = true
  · simp only [htrait, Bool.not_true, Bool.false_eq_true, if_false, if_true]
    cases hmark : Mark.find DatabaseMark d.annotations with
    | error error => exact yields_pure (tells_error (List.cons_ne_nil _ _))
    | ok found =>
        cases found with
        | none => exact yields_pure (tells_error (List.cons_ne_nil _ _))
        | some record => exact yields_markedDatabase d record
  · simp only [htrait, Bool.not_false, if_true, Bool.false_eq_true, if_false]
    exact yields_pure (tells_error (List.cons_ne_nil _ _))

end Databases

/-! ## calls -/

/-- The reply of a run agrees with that of a run of its own: both succeed, and with the same result,
or both fail. What of an entity or compound fails, fails with the same problems; for a DAO some of
the problems may be missing, but not all; for a database some problems are listed. -/
def Reply.Agrees : Reply → Reply → Prop
  | .entity answer, .entity fresh => answer = fresh
  | .compound answer, .compound fresh => answer = fresh
  | .dao answer, .dao fresh =>
    answer.toOption = fresh.toOption ∧ ∀ problems, answer = .error problems →
      problems ≠ [] ∧ ∃ all, fresh = .error all ∧ problems ⊆ all
  | .database answer, .database fresh =>
    answer.toOption = fresh.toOption ∧ ∀ problems, answer = .error problems → problems ≠ []
  | _, _ => False

/-- What a reply holds is what the catalog alone says of a declaration. -/
def Reply.Known (c : Catalog) : Reply → Prop
  | .entity answer => ∀ e, answer = .ok e → ∃ d ∈ c.declarations, c.entityOf d = .ok e
  | .compound answer =>
    ∀ compound, answer = .ok compound → ∃ d ∈ c.declarations, c.compoundOf d = .ok compound
  | .dao answer => ∀ dao, answer = .ok dao → ∃ d ∈ c.declarations, c.daoFindings d = .ok dao
  | .database answer =>
    ∀ database, answer = .ok database → ∃ d ∈ c.declarations, c.database? d = some database

namespace Call

/-- The reply to the only call of a run. -/
def fresh (c : Catalog) (call : Call) : Reply := ((call.answer c).run {}).run.1

section Answers

variable {c : Catalog}

theorem yields_byName {α : Type} {inv : Session → Prop} {r : Resolver Run α} {name : String}
    {post : Except (List Diagnostic) α → Prop}
    (hfound : ∀ d, c.lookup name = .ok d → Yields inv (r d) post)
    (hmissing : ∀ problems, c.lookup name = .error problems → post (.error problems)) :
    Yields inv (c.byName r name) post := by
  unfold Catalog.byName
  cases hlookup : c.lookup name with
  | ok d => exact hfound d hlookup
  | error problems => exact yields_pure (hmissing problems hlookup)

theorem lookup_ne_nil {name : String} {problems : List Diagnostic}
    (h : c.lookup name = .error problems) : problems ≠ [] := by
  unfold Catalog.lookup at h
  split at h
  · contradiction
  · cases h
    exact List.cons_ne_nil _ _

/-- A resolver that follows a function of the declaration follows one of the name. -/
theorem yields_byName_of_follows {α : Type} {r : Resolver Run α}
    {f : Declaration → Except (List Diagnostic) α}
    (h : ∀ reported, Follows c (Session.Quiet c reported) r f) (name : String) :
    Yields (Session.Sound c) (c.byName r name) fun answer => answer = c.lookup name >>= f := by
  refine yields_byName (fun d hd => ?_) fun problems hproblems => ?_
  · rw [hd]
    exact .of_quiet fun reported => h reported d (Catalog.mem_of_lookup hd)
  · rw [hproblems]
    rfl

theorem yields_daoByName (name : String) :
    Yields (Session.Sound c) (c.dao name) fun answer => ∃ reported,
      answer = c.lookup name >>= fun d => listed reported (c.daoFindings d) := by
  refine yields_byName (fun d hd => ?_) fun problems hproblems => ?_
  · rw [hd]
    exact yields_dao c (Catalog.mem_of_lookup hd)
  · rw [hproblems]
    exact ⟨[], rfl⟩

theorem run_daoByName_fresh (name : String) :
    ((c.dao name).run {}).run.1 = c.lookup name >>= fun d => listed [] (c.daoFindings d) := by
  unfold Catalog.dao Catalog.byName
  cases c.lookup name with
  | ok d => exact run_dao_fresh c d
  | error problems => rfl

theorem yields_databaseByName (name : String) :
    Yields (Session.Sound c) (c.database name)
      (Tells ((c.lookup name).toOption.bind c.database?)) := by
  refine yields_byName (fun d hd => ?_) fun problems hproblems => ?_
  · rw [hd]
    exact yields_databaseOf d
  · rw [hproblems]
    exact tells_error (lookup_ne_nil hproblems)

theorem ok_of_listed {reported : List String} {findings : Except (List Finding) Dao} {dao : Dao}
    (h : listed reported findings = .ok dao) : findings = .ok dao := by
  cases findings with
  | ok found => exact congrArg Except.ok (Except.ok.inj h)
  | error found => contradiction

/-- Of the problems of a DAO, what was reported before may be missing. -/
theorem dao_agrees (reported : List String) (name : String) :
    (Reply.dao (c.lookup name >>= fun d => listed reported (c.daoFindings d))).Agrees
      (.dao (c.lookup name >>= fun d => listed [] (c.daoFindings d))) := by
  cases hlookup : c.lookup name with
  | error problems =>
      refine ⟨rfl, ?_⟩
      rintro _ ⟨⟩
      exact ⟨lookup_ne_nil hlookup, problems, rfl, List.Subset.refl _⟩
  | ok d =>
      change (Reply.dao (listed reported (c.daoFindings d))).Agrees
        (.dao (listed [] (c.daoFindings d)))
      cases hfindings : c.daoFindings d with
      | ok dao =>
          refine ⟨rfl, ?_⟩
          rintro _ ⟨⟩
      | error findings =>
          refine ⟨rfl, ?_⟩
          rintro _ ⟨⟩
          exact ⟨Finding.list_ne_nil (daoFindings_ne_nil hfindings), _, rfl,
            Finding.list_subset (List.nil_subset _) findings⟩

/-- The step: in a sound session a call is replied to as in a run of its own. -/
theorem answer_agrees (call : Call) :
    Yields (Session.Sound c) (call.answer c) fun reply => reply.Agrees (call.fresh c) := by
  have hempty := Session.sound_empty c
  cases call with
  | entity name =>
      have hanswer := yields_byName_of_follows (follows_entity c) name
      have hfresh : fresh c (.entity name) = .entity (c.lookup name >>= c.entityOf) :=
        congrArg Reply.entity (hanswer {} hempty).1
      rw [hfresh]
      exact hanswer.bind fun _ h => yields_pure h
  | compound name =>
      have hanswer := yields_byName_of_follows (follows_compound c) name
      have hfresh : fresh c (.compound name) = .compound (c.lookup name >>= c.compoundOf) :=
        congrArg Reply.compound (hanswer {} hempty).1
      rw [hfresh]
      exact hanswer.bind fun _ h => yields_pure h
  | dao name =>
      have hfresh : fresh c (.dao name) =
          .dao (c.lookup name >>= fun d => listed [] (c.daoFindings d)) :=
        congrArg Reply.dao (run_daoByName_fresh name)
      rw [hfresh]
      refine (yields_daoByName name).bind ?_
      rintro _ ⟨reported, rfl⟩
      exact yields_pure (dao_agrees reported name)
  | database name =>
      have hanswer := yields_databaseByName (c := c) name
      obtain ⟨hfresh, -⟩ := (hanswer {} hempty).1
      refine hanswer.bind fun answer h => ?_
      exact yields_pure ⟨h.1.trans hfresh.symm, h.2⟩

/-- **Calls do not disturb each other**: whatever a run was asked before, its reply to a call agrees
with the reply to the same call in a run of its own. -/
theorem answers_agree (calls : List Call) :
    List.Forall₂ (fun call (reply : Reply) => reply.Agrees (call.fresh c)) calls
      ((calls.mapM (Call.answer c)).run {}).run.1 := by
  have hrun : Yields (Session.Sound c) (calls.mapM (Call.answer c)) _ :=
    yields_mapM fun call _ => answer_agrees call
  exact (hrun {} (Session.sound_empty c)).1

/-- The answer for a name is that for a declaration. -/
theorem exists_of_lookup_bind {α : Type} {f : Declaration → Except (List Diagnostic) α}
    {name : String} {a : α} (h : c.lookup name >>= f = .ok a) : ∃ d ∈ c.declarations, f d = .ok a := by
  obtain ⟨d, hlookup, hanswer⟩ := bind_eq_ok h
  exact ⟨d, Catalog.mem_of_lookup hlookup, hanswer⟩

/-- The step: in a sound session a call is replied to with what the catalog says. -/
theorem yields_known (call : Call) :
    Yields (Session.Sound c) (call.answer c) (Reply.Known c) := by
  cases call with
  | entity name =>
      refine (yields_byName_of_follows (follows_entity c) name).bind ?_
      rintro _ rfl
      exact yields_pure fun e h => exists_of_lookup_bind h
  | compound name =>
      refine (yields_byName_of_follows (follows_compound c) name).bind ?_
      rintro _ rfl
      exact yields_pure fun compound h => exists_of_lookup_bind h
  | dao name =>
      refine (yields_daoByName name).bind ?_
      rintro _ ⟨reported, rfl⟩
      refine yields_pure fun dao h => ?_
      obtain ⟨d, hd, hlisted⟩ := exists_of_lookup_bind h
      exact ⟨d, hd, ok_of_listed hlisted⟩
  | database name =>
      refine (yields_databaseByName name).bind ?_
      rintro answer ⟨htells, -⟩
      refine yields_pure fun database h => ?_
      rw [h] at htells
      obtain ⟨d, hlookup, hdatabase⟩ := Option.bind_eq_some_iff.mp htells.symm
      exact ⟨d, Catalog.mem_of_lookup (eq_ok_of_toOption hlookup), hdatabase⟩

/-- Whatever a run was asked before, it replies with what the catalog says. -/
theorem known_of_reply {calls : List Call} {reply : Reply}
    (h : reply ∈ ((calls.mapM (Call.answer c)).run {}).run.1) : reply.Known c := by
  have hrun : Yields (Session.Sound c) (calls.mapM (Call.answer c)) _ :=
    yields_mapM fun call _ => yields_known call
  obtain ⟨_, -, hknown⟩ := exists_of_forall₂ (hrun {} (Session.sound_empty c)).1 h
  exact hknown

theorem entityOf_of_reply {calls : List Call} {e : Entity}
    (h : .entity (.ok e) ∈ ((calls.mapM (Call.answer c)).run {}).run.1) :
    ∃ d ∈ c.declarations, c.entityOf d = .ok e := known_of_reply h e rfl

theorem database?_of_reply {calls : List Call} {database : Database}
    (h : .database (.ok database) ∈ ((calls.mapM (Call.answer c)).run {}).run.1) :
    ∃ d ∈ c.declarations, c.database? d = some database := known_of_reply h database rfl

end Answers

end Call

end DaoForge
