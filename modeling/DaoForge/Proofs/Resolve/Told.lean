import DaoForge.Proofs.Resolve.Raised

/-!
# DaoForge.Proofs.Resolve.Told

What the problems that a run has listed tell.

1. `Finding.mem_list`, `Finding.mem_list_names`: what listing findings lists and reports;
2. `Session.Told met out`: of the DAOs that were met and the problems that were listed so far: every name
   that was reported is that of a compound or DAO whose problems are among them, and a DAO that failed
   was reported;
3. `Reports p meets lists` is the step: from such a session `p` leaves one, after meeting and listing
   more. So do a getter (`reports_getter`) and a database (`reports_databaseOf`).
-/

namespace DaoForge

/-! ## listing -/

namespace Finding

variable {reported : List String} {findings : List Finding}

theorem list_own (p : Diagnostic) (rest : List Finding) :
    list reported (.own p :: rest) = (p :: (list reported rest).1, (list reported rest).2) := rfl

/-- The finding was listed: its own problem, or that its declaration failed, which was reported. -/
def Listed (out : List Diagnostic) (reported : List String) : Finding → Prop
  | .own p => p ∈ out
  | .dependency anchor name _ => dependencyFailed anchor name ∈ out ∧ name ∈ reported

theorem Listed.mono {out out' : List Diagnostic} {reported reported' : List String} {f : Finding}
    (h : f.Listed out reported) (hout : out ⊆ out') (hreported : reported ⊆ reported') :
    f.Listed out' reported' := by
  cases f with
  | own p => exact hout h
  | dependency anchor name theirs => exact ⟨hout h.1, hreported h.2⟩

theorem subset_list_names : reported ⊆ (list reported findings).2 := by
  induction findings generalizing reported with
  | nil => exact List.Subset.refl _
  | cons f rest ih =>
      cases f with
      | own p => exact ih
      | dependency anchor name theirs =>
          by_cases hname : name ∈ reported
          · rw [list_reported hname]
            exact ih
          · rw [list_unreported hname]
            exact List.Subset.trans (List.subset_cons_self name reported) ih

/-- Every finding is listed. -/
theorem listed_of_mem {f : Finding} (hf : f ∈ findings) :
    f.Listed (list reported findings).1 (list reported findings).2 := by
  induction findings generalizing reported with
  | nil => contradiction
  | cons g rest ih =>
      cases g with
      | own p =>
          rw [list_own]
          rcases List.mem_cons.mp hf with rfl | hf
          · exact List.mem_cons_self
          · exact (ih hf).mono (List.subset_cons_self _ _) (List.Subset.refl _)
      | dependency anchor name theirs =>
          by_cases hname : name ∈ reported
          · rw [list_reported hname]
            rcases List.mem_cons.mp hf with rfl | hf
            · exact ⟨List.mem_cons_self, subset_list_names hname⟩
            · exact (ih hf).mono (List.subset_cons_self _ _) (List.Subset.refl _)
          · rw [list_unreported hname]
            rcases List.mem_cons.mp hf with rfl | hf
            · exact ⟨List.mem_append_right _ List.mem_cons_self,
                subset_list_names List.mem_cons_self⟩
            · refine (ih hf).mono ?_ (List.Subset.refl _)
              exact List.subset_append_of_subset_right _ (List.subset_cons_self _ _)

theorem dependencyFailed_mem_list {anchor name : String} {theirs : List Diagnostic}
    (h : .dependency anchor name theirs ∈ findings) :
    dependencyFailed anchor name ∈ (list reported findings).1 := (listed_of_mem h).1

/-- A name that was not reported before is that of a finding, all of whose problems are listed. -/
theorem mem_list_names {name : String} (h : name ∈ (list reported findings).2) :
    name ∈ reported ∨ ∃ anchor theirs,
      .dependency anchor name theirs ∈ findings ∧ theirs ⊆ (list reported findings).1 := by
  induction findings generalizing reported with
  | nil => exact .inl h
  | cons f rest ih =>
      cases f with
      | own p =>
          rw [list_own] at h ⊢
          rcases ih h with hmem | ⟨anchor, theirs, hmem, hsub⟩
          · exact .inl hmem
          · exact .inr ⟨anchor, theirs, List.mem_cons_of_mem _ hmem, List.subset_cons_of_subset _ hsub⟩
      | dependency anchor' name' theirs' =>
          by_cases hname : name' ∈ reported
          · rw [list_reported hname] at h ⊢
            rcases ih h with hmem | ⟨anchor, theirs, hmem, hsub⟩
            · exact .inl hmem
            · exact .inr ⟨anchor, theirs, List.mem_cons_of_mem _ hmem,
                List.subset_cons_of_subset _ hsub⟩
          · rw [list_unreported hname] at h ⊢
            rcases ih h with hmem | ⟨anchor, theirs, hmem, hsub⟩
            · rcases List.mem_cons.mp hmem with rfl | hmem
              · exact .inr ⟨anchor', theirs', List.mem_cons_self, List.subset_append_left _ _⟩
              · exact .inl hmem
            · refine .inr ⟨anchor, theirs, List.mem_cons_of_mem _ hmem, ?_⟩
              exact List.subset_append_of_subset_right _ (List.subset_cons_of_subset _ hsub)

/-- A problem that is listed is a finding's own, one that its declaration failed with, or that it
failed. -/
theorem mem_list {p : Diagnostic} (h : p ∈ (list reported findings).1) :
    .own p ∈ findings ∨ ∃ anchor name theirs, .dependency anchor name theirs ∈ findings ∧
      (p ∈ theirs ∨ p = dependencyFailed anchor name) := by
  induction findings generalizing reported with
  | nil => contradiction
  | cons f rest ih =>
      have hlater {reported : List String} (hp : p ∈ (list reported rest).1) :
          .own p ∈ f :: rest ∨ ∃ anchor name theirs, .dependency anchor name theirs ∈ f :: rest ∧
            (p ∈ theirs ∨ p = dependencyFailed anchor name) := by
        rcases ih hp with hown | ⟨anchor, name, theirs, hmem, hp⟩
        · exact .inl (List.mem_cons_of_mem _ hown)
        · exact .inr ⟨anchor, name, theirs, List.mem_cons_of_mem _ hmem, hp⟩
      cases f with
      | own q =>
          rw [list_own] at h
          rcases List.mem_cons.mp h with rfl | h
          · exact .inl List.mem_cons_self
          · exact hlater h
      | dependency anchor name theirs =>
          by_cases hname : name ∈ reported
          · rw [list_reported hname] at h
            rcases List.mem_cons.mp h with rfl | h
            · exact .inr ⟨anchor, name, theirs, List.mem_cons_self, .inr rfl⟩
            · exact hlater h
          · rw [list_unreported hname] at h
            rcases List.mem_append.mp h with h | h
            · exact .inr ⟨anchor, name, theirs, List.mem_cons_self, .inl h⟩
            rcases List.mem_cons.mp h with rfl | h
            · exact .inr ⟨anchor, name, theirs, List.mem_cons_self, .inr rfl⟩
            · exact hlater h

/-- The compound that it depends on. -/
def dependency? : Finding → Option String
  | .own _ => none
  | .dependency _ name _ => some name

end Finding

theorem run_list (findings : List Finding) (s : Session) :
    (Session.list findings).run s =
      pure ((Finding.list s.reported findings).1,
        { s with reported := (Finding.list s.reported findings).2 }) := rfl

/-! ## what databases reach -/

namespace Catalog

variable (c : Catalog)

/-- The DAO of a getter without parameters. -/
def targets (f : Function) : List Declaration :=
  if f.parameters.isEmpty then (c.getterTarget? f).toList else []

/-- The DAOs of the getters of a database, if it is a trait and its annotation is well formed. -/
def reachedFrom (d : Declaration) : List Declaration :=
  match d.isTrait, Mark.find DatabaseMark d.annotations with
  | true, .ok (some _) => (d.functions.filter Function.isAbstract).flatMap c.targets
  | _, _ => []

/-- The DAOs that databases reach, in the order in which a run meets them. -/
def reached : List Declaration := (c.annotatedWith "Database").flatMap c.reachedFrom

/-- Names of the compounds that fail and that rows of the DAO become. -/
def brokenRows (d : Declaration) : List String :=
  match c.daoFindings d with
  | .ok _ => []
  | .error findings => findings.filterMap Finding.dependency?

end Catalog

section Told

variable {c : Catalog} {met met' : List Declaration} {out out' : List Diagnostic}
  {reported reported' : List String}

theorem mem_brokenRows {d : Declaration} {findings : List Finding}
    (hfindings : c.daoFindings d = .error findings) {name : String} :
    name ∈ c.brokenRows d ↔ ∃ anchor theirs, .dependency anchor name theirs ∈ findings := by
  unfold Catalog.brokenRows
  rw [hfindings, List.mem_filterMap]
  constructor
  · rintro ⟨f, hf, hname⟩
    cases f with
    | own p => contradiction
    | dependency anchor name' theirs =>
        cases hname
        exact ⟨anchor, theirs, hf⟩
  · rintro ⟨anchor, theirs, hf⟩
    exact ⟨_, hf, rfl⟩

/-! ## told sessions -/

/-- A reported name is told of: it is that of a compound, met in the rows of a DAO, all of whose problems
were listed, or that of a DAO that was met and whose findings were. -/
inductive Catalog.TellsOf (c : Catalog) (met : List Declaration) (out : List Diagnostic)
    (reported : List String) (name : String) : Prop
  | compound {d dao : Declaration} {theirs : List Diagnostic} (hd : d ∈ c.declarations)
      (hname : d.qualifiedName = name) (hstruct : d.isTrait = false)
      (hfails : c.compoundOf d = .error theirs) (hmet : dao ∈ met) (hrow : name ∈ c.brokenRows dao)
      (hlisted : theirs ⊆ out)
  | dao {d : Declaration} {findings : List Finding} (hmet : d ∈ met) (hname : d.qualifiedName = name)
      (hfails : c.daoFindings d = .error findings)
      (hlisted : ∀ f ∈ findings, f.Listed out reported)

theorem Catalog.TellsOf.mono {name : String} (h : c.TellsOf met out reported name)
    (hmet : met ⊆ met') (hout : out ⊆ out') (hreported : reported ⊆ reported') :
    c.TellsOf met' out' reported' name := by
  cases h with
  | compound hd hname hstruct hfails hdao hrow hlisted =>
      exact .compound hd hname hstruct hfails (hmet hdao) hrow (List.Subset.trans hlisted hout)
  | dao hdao hname hfails hlisted =>
      exact .dao (hmet hdao) hname hfails fun f hf => (hlisted f hf).mono hout hreported

/-- The problem says of no declaration that it failed, but of an entity that does or of one that was
reported. -/
def Diagnostic.Grounded (c : Catalog) (reported : List String) (p : Diagnostic) : Prop :=
  ∀ name ∈ p.error.dependency?, c.FailsAsEntity name ∨ name ∈ reported

theorem Diagnostic.Raised.grounded {owner : String} {p : Diagnostic} (h : p.Raised c owner) :
    p.Grounded c reported :=
  fun name hname => .inl (h.dependency name hname)

theorem Diagnostic.Grounded.mono {p : Diagnostic} (h : p.Grounded c reported)
    (hsub : reported ⊆ reported') : p.Grounded c reported' :=
  fun name hname => (h name hname).imp_right fun hmem => hsub hmem

theorem grounded_dependencyFailed {anchor name : String} (h : name ∈ reported) :
    (dependencyFailed anchor name).Grounded c reported := by
  rintro _ ⟨⟩
  exact .inr h

/-- After these DAOs were met and these problems listed: the problems tell of every name that was
reported, they blame nothing else, and a DAO that failed was reported. -/
structure Session.Told (c : Catalog) (met : List Declaration) (out : List Diagnostic) (s : Session) :
    Prop where
  sound : s.Sound c
  reported : ∀ name ∈ s.reported, c.TellsOf met out s.reported name
  grounded : ∀ p ∈ out, p.Grounded c s.reported
  kept : ∀ name problems, (name, .error problems) ∈ s.daos → name ∈ s.reported
  met : ∀ d ∈ met, ∃ answer, (d.qualifiedName, answer) ∈ s.daos

namespace Session.Told

variable {s : Session}

theorem empty (c : Catalog) : Session.Told c [] [] {} where
  sound := Session.sound_empty c
  reported _ h := nomatch h
  grounded _ h := nomatch h
  kept _ _ h := nomatch h
  met _ h := nomatch h

/-- Only which DAOs and problems they are matters. -/
theorem congr (h : s.Told c met out) (hmet : ∀ d, d ∈ met ↔ d ∈ met') (hout : ∀ p, p ∈ out ↔ p ∈ out') :
    s.Told c met' out' where
  sound := h.sound
  reported name hname := (h.reported name hname).mono (fun d hd => (hmet d).mp hd)
    (fun p hp => (hout p).mp hp) (List.Subset.refl _)
  grounded p hp := h.grounded p ((hout p).mpr hp)
  kept := h.kept
  met d hd := h.met d ((hmet d).mpr hd)

/-- More problems are listed, which blame nothing else. -/
theorem add (h : s.Told c met out) {problems : List Diagnostic}
    (hproblems : ∀ p ∈ problems, p.Grounded c s.reported) : s.Told c met (problems ++ out) where
  sound := h.sound
  reported name hname := (h.reported name hname).mono (List.Subset.refl _)
    (List.subset_append_right _ _) (List.Subset.refl _)
  grounded := List.forall_mem_append.mpr ⟨hproblems, h.grounded⟩
  kept := h.kept
  met := h.met

/-- A DAO is met whose answer was kept. -/
theorem meet (h : s.Told c met out) {d : Declaration}
    (hd : ∃ answer, (d.qualifiedName, answer) ∈ s.daos) : s.Told c (d :: met) out where
  sound := h.sound
  reported name hname := (h.reported name hname).mono (List.subset_cons_self _ _)
    (List.Subset.refl _) (List.Subset.refl _)
  grounded := h.grounded
  kept := h.kept
  met := List.forall_mem_cons.mpr ⟨hd, h.met⟩

theorem recalls (c : Catalog) (met : List Declaration) (out : List Diagnostic) :
    Session.Recalls c (Session.Told c met out) where
  shapes := ⟨fun _ hs => hs.sound.shapes,
    fun _ _ hs h => { hs with sound := { hs.sound with shapes := h } }⟩
  entities := ⟨fun _ hs => hs.sound.entities,
    fun _ _ hs h => { hs with sound := { hs.sound with entities := h } }⟩
  compounds := ⟨fun _ hs => hs.sound.compounds,
    fun _ _ hs h => { hs with sound := { hs.sound with compounds := h } }⟩

/-- A DAO is answered for and met: the names that are reported now are told of. -/
theorem keep (h : s.Told c met out) {d : Declaration} (hd : d ∈ c.declarations)
    {answer : Except (List Diagnostic) Dao} {lines : List Diagnostic}
    (hright : ∃ reported, answer = listed reported (c.daoFindings d))
    (hsub : s.reported ⊆ reported)
    (hkept : ∀ problems, answer = .error problems → d.qualifiedName ∈ reported)
    (htold : ∀ name ∈ reported,
      name ∈ s.reported ∨ c.TellsOf (d :: met) (lines ++ out) reported name)
    (hlines : ∀ p ∈ lines, p.Grounded c reported) :
    Session.Told c (d :: met) (lines ++ out)
      { s with reported, daos := (d.qualifiedName, answer) :: s.daos } where
  sound := { h.sound with daos := h.sound.daos.cons hd hright }
  reported name hname := by
    rcases htold name hname with hold | hnew
    · exact (h.reported name hold).mono (List.subset_cons_self _ _) (List.subset_append_right _ _)
        hsub
    · exact hnew
  grounded := List.forall_mem_append.mpr ⟨hlines, fun p hp => (h.grounded p hp).mono hsub⟩
  kept name problems hmem := by
    rcases List.mem_cons.mp hmem with heq | hmem
    · obtain ⟨rfl, rfl⟩ := Prod.mk.inj heq
      exact hkept problems rfl
    · exact hsub (h.kept name problems hmem)
  met := by
    refine List.forall_mem_cons.mpr ⟨⟨answer, List.mem_cons_self⟩, fun d' hd' => ?_⟩
    obtain ⟨answer', hmem⟩ := h.met d' hd'
    exact ⟨answer', List.mem_cons_of_mem _ hmem⟩

/-- A DAO is answered for from memory, or resolved and its findings listed. -/
theorem run_dao (h : s.Told c met out) (d : Declaration) :
    (∃ answer, (d.qualifiedName, answer) ∈ s.daos ∧ (Session.dao c d).run s = pure (answer, s)) ∨
      (∀ answer, (d.qualifiedName, answer) ∉ s.daos) ∧ ∃ s' : Session, s'.Told c met out ∧
        (Session.dao c d).run s = pure (listed s'.reported (c.daoFindings d),
          { s' with
            reported := reportedAfter s'.reported (c.daoFindings d)
            daos := (d.qualifiedName, listed s'.reported (c.daoFindings d)) :: s'.daos }) := by
  unfold Session.dao
  cases hfind : s.daos.find? fun known => known.1 == d.qualifiedName with
  | some known =>
      have hname : known.1 = d.qualifiedName := by simpa using List.find?_some hfind
      refine .inl ⟨known.2, ?_, run_remember_known hfind⟩
      rw [← hname]
      exact List.mem_of_find?_eq_some hfind
  | none =>
      refine .inr ⟨fun answer hmem => ?_, ?_⟩
      · have hmiss := List.find?_eq_none.mp hfind _ hmem
        simp at hmiss
      · obtain ⟨s', hs', hrun⟩ := (recalls c met out).run_newDao d h
        refine ⟨s', hs', ?_⟩
        rw [run_remember_new hfind]
        change (do
          let (answer, s') ← pure ((do
            Session.listDao (← c.resolveDao (Session.entity c) (Session.compound c) d) :
              Run (Except (List Diagnostic) Dao)).run s).run
          pure (answer, Shelf.daos.keep s' ((d.qualifiedName, answer) :: s'.daos))) = _
        rw [hrun]
        rfl

end Session.Told

/-! ## getters -/

/-- From a told session the step leaves one, after these DAOs were met and these problems listed. -/
def Reports {α : Type} (c : Catalog) (p : Run α) (meets : List Declaration)
    (lists : α → List Diagnostic) : Prop :=
  ∀ met out s, Session.Told c met out s →
    Session.Told c (meets ++ met) (lists (p.run s).run.1 ++ out) (p.run s).run.2

/-- What is listed for a DAO that fails for the first time: all that its answer lists, unless its name
was reported as that of a compound. -/
theorem told_of_error {d : Declaration} {findings : List Finding} {anchor : String} {s : Session}
    (hd : d ∈ c.declarations) (hmark : Mark.has DaoMark d.annotations = true)
    (hfails : c.daoFindings d = .error findings) (hs : s.Told c met out)
    (hnew : ∀ d' ∈ met, d'.qualifiedName ≠ d.qualifiedName) :
    let answer := Finding.list s.reported findings
    let lines := Finding.list answer.2 [.dependency anchor d.qualifiedName answer.1]
    Session.Told c (d :: met) (lines.1 ++ out)
      { s with
        reported := lines.2
        daos := (d.qualifiedName, .error answer.1) :: s.daos } := by
  intro answer lines
  have hright : ∃ reported, Except.error answer.1 = listed reported (c.daoFindings d) := by
    refine ⟨s.reported, ?_⟩
    rw [hfails]
    rfl
  by_cases hname : d.qualifiedName ∈ s.reported
  · cases hs.reported d.qualifiedName hname with
    | dao hmet hsame _ _ => exact absurd hsame (hnew _ hmet)
    | compound hd' hsame hstruct _ _ _ _ =>
        -- a struct is no DAO, and has no compounds to report
        obtain rfl := Catalog.eq_of_qualifiedName_eq hd' hd hsame
        rw [daoFindings_of_struct hmark hstruct] at hfails
        cases hfails
        have hlines : lines = ([dependencyFailed anchor _], s.reported) :=
          Finding.list_reported hname []
        rw [hlines]
        refine hs.keep hd hright (List.Subset.refl _) (fun _ _ => hname) (fun _ h => .inl h) ?_
        exact List.forall_mem_singleton.mpr (grounded_dependencyFailed hname)
  · have hraised := raised_daoFindings hfails
    have hstill : d.qualifiedName ∉ answer.2 := by
      intro hmem
      rcases Finding.mem_list_names hmem with hold | ⟨anchor', theirs, hmem, -⟩
      · exact hname hold
      · obtain ⟨-, d', hd', hsame, hcompound, -⟩ := hraised _ hmem
        have hstruct := (Catalog.struct_of_isCompound hcompound).1
        have htrait := isTrait_of_dependency hfails hmem
        rw [Catalog.eq_of_qualifiedName_eq hd' hd hsame, htrait] at hstruct
        contradiction
    have hlines : lines = (answer.1 ++ [dependencyFailed anchor d.qualifiedName],
        d.qualifiedName :: answer.2) := Finding.list_unreported hstill []
    rw [hlines]
    have hlisted : answer.1 ⊆ answer.1 ++ [dependencyFailed anchor d.qualifiedName] ++ out := by
      rw [List.append_assoc]
      exact List.subset_append_left _ _
    refine hs.keep hd hright ?_ (fun _ _ => List.mem_cons_self) ?_ ?_
    · exact List.subset_cons_of_subset _ Finding.subset_list_names
    · intro name hmem
      rcases List.mem_cons.mp hmem with rfl | hmem
      · refine .inr (.dao List.mem_cons_self rfl hfails fun f hf => ?_)
        exact (Finding.listed_of_mem hf).mono hlisted (List.subset_cons_self _ _)
      · rcases Finding.mem_list_names hmem with hold | ⟨anchor', theirs, hmem, hsub⟩
        · exact .inl hold
        · obtain ⟨-, d', hd', hsame, hcompound, hfails'⟩ := hraised _ hmem
          have hstruct := (Catalog.struct_of_isCompound hcompound).1
          have hrow := (mem_brokenRows hfails).mpr ⟨anchor', theirs, hmem⟩
          exact .inr (.compound hd' hsame hstruct hfails' List.mem_cons_self hrow
            (List.Subset.trans hsub hlisted))
    · refine List.forall_mem_append.mpr ⟨fun p hp => ?_, List.forall_mem_singleton.mpr ?_⟩
      · rcases Finding.mem_list hp with hown | ⟨anchor', name, theirs, hmem, hp⟩
        · exact (hraised _ hown : p.Raised c _).grounded
        rcases hp with hp | rfl
        · obtain ⟨-, d', -, -, -, hcompound⟩ := hraised _ hmem
          exact (raised_compoundOf hcompound p hp).grounded
        · have hreported : name ∈ answer.2 := (Finding.listed_of_mem hmem).2
          exact grounded_dependencyFailed (List.mem_cons_of_mem _ hreported)
      · exact grounded_dependencyFailed List.mem_cons_self

/-- The step of a run: a getter. -/
theorem reports_getter (owner : String) (f : Function) :
    Reports c (c.getter owner f) (c.targets f) Checked.found := by
  intro met out s hs
  unfold Catalog.getter Catalog.targets
  by_cases hparameters : f.parameters.isEmpty = true
  · simp only [hparameters, Bool.not_true, Bool.false_eq_true, if_false, if_true]
    cases htarget : c.getterTarget? f with
    | none =>
        refine hs.add (List.forall_mem_singleton.mpr ?_)
        exact (raised_of_none (Diagnostic.anchors_member owner f.name) rfl).grounded
    | some d =>
        have hd := mem_of_getterTarget? htarget
        have hmark : Mark.has DaoMark d.annotations = true :=
          (Option.filter_eq_some_iff.mp htarget).2
        simp only [StateT.run_bind]
        rcases hs.run_dao d with ⟨answer, hmem, hrun⟩ | ⟨hnew, s', hs', hrun⟩
        · rw [hrun, pure_bind]
          cases answer with
          | ok dao => exact hs.meet ⟨_, hmem⟩
          | error problems =>
              -- its problems were listed when it failed first, so only its name is now
              have hreported := hs.kept _ problems hmem
              have hlist (anchor : String) :
                  (Session.list [.dependency anchor d.qualifiedName problems]).run s =
                    pure ([dependencyFailed anchor d.qualifiedName], s) := by
                rw [run_list, Finding.list_reported hreported]
                rfl
              simp only [StateT.run_bind, hlist, pure_bind]
              refine (hs.meet ⟨_, hmem⟩).add (List.forall_mem_singleton.mpr ?_)
              exact grounded_dependencyFailed hreported
        · rw [hrun, pure_bind]
          have hnew' : ∀ d' ∈ met, d'.qualifiedName ≠ d.qualifiedName := by
            intro d' hd' hsame
            obtain ⟨answer, hmem⟩ := hs.met d' hd'
            rw [hsame] at hmem
            exact hnew answer hmem
          cases hfindings : c.daoFindings d with
          | ok dao =>
              refine hs'.keep hd ⟨[], by rw [hfindings]; rfl⟩ (List.Subset.refl _) ?_
                (fun _ h => .inl h) (List.forall_mem_nil _)
              exact fun _ h => nomatch h
          | error findings => exact told_of_error hd hmark hfindings hs' hnew'
  · simp only [hparameters, Bool.not_false, if_true, Bool.false_eq_true, if_false]
    refine hs.add (List.forall_mem_singleton.mpr ?_)
    exact (raised_of_none (Diagnostic.anchors_member owner f.name) rfl).grounded

section Reports

variable {α β : Type}

/-- A step that only asks what entities and compounds are may come before. -/
theorem Reports.after {p : Run α} {f : α → Run β} {meets : List Declaration}
    {lists : β → List Diagnostic} {post : α → Prop}
    (hp : ∀ met out, Yields (Session.Told c met out) p post)
    (hf : ∀ a, post a → Reports c (f a) meets lists) : Reports c (p >>= f) meets lists := by
  intro met out s hs
  obtain ⟨hpost, hs'⟩ := hp met out s hs
  exact hf _ hpost met out _ hs'

/-- At the end more problems may be listed, that blame nothing but entities that fail. -/
theorem Reports.map {p : Run α} {g : α → β} {meets : List Declaration} {lists : α → List Diagnostic}
    {lists' : β → List Diagnostic} (h : Reports c p meets lists)
    (hsub : ∀ a, lists a ⊆ lists' (g a))
    (hnew : ∀ a, ∀ q ∈ lists' (g a), q ∈ lists a ∨ ∃ owner, q.Raised c owner) :
    Reports c (p >>= fun a => pure (g a)) meets lists' := by
  intro met out s hs
  have hs' := h met out s hs
  have hall : ∀ q ∈ lists' (g (p.run s).run.1), q.Grounded c (p.run s).run.2.reported := by
    intro q hq
    rcases hnew _ q hq with hold | ⟨owner, hraised⟩
    · exact hs'.grounded q (List.mem_append_left _ hold)
    · exact hraised.grounded
  refine Session.Told.congr (hs'.add hall) (fun d => Iff.rfl) fun q => ?_
  change _ ↔ q ∈ lists' (g (p.run s).run.1) ++ out
  simp only [List.mem_append]
  have himp := @hsub (p.run s).run.1 q
  tauto

/-- Steps in a row meet and list in a row. -/
theorem reports_mapM {xs : List α} {f : α → Run β} {meets : α → List Declaration}
    {lists : β → List Diagnostic} (h : ∀ x ∈ xs, Reports c (f x) (meets x) lists) :
    Reports c (xs.mapM f) (xs.flatMap meets) fun results => results.flatMap lists := by
  induction xs with
  | nil => exact fun met out s hs => hs
  | cons x xs ih =>
      obtain ⟨hx, hxs⟩ := List.forall_mem_cons.mp h
      intro met out s hs
      rw [List.mapM_cons]
      have hrest := ih hxs _ _ _ (hx met out s hs)
      refine Session.Told.congr hrest (fun d => ?_) fun p => ?_
      · simp only [List.flatMap_cons, List.mem_append]
        tauto
      · change _ ↔ p ∈ (_ :: _ : List β).flatMap lists ++ out
        simp only [List.flatMap_cons, List.mem_append]
        tauto

end Reports

/-! ## databases -/

/-- The problems that an answer lists. -/
def problemsOf {α : Type} : Except (List Diagnostic) α → List Diagnostic
  | .ok _ => []
  | .error problems => problems

theorem problemsOf_toExcept {α : Type} {check : Checked Diagnostic α} {a : α}
    (h : check.value? = some a) : problemsOf check.toExcept = check.found := by
  unfold Checked.toExcept
  rw [h]
  cases check.found <;> rfl

/-- A database lists the problems of its getters. -/
theorem getters_subset_assembleDatabase {owner : String} {version : Int64}
    {converters : TypeConvertersMark} {listed : Checked Diagnostic (List Entity)}
    (getters : Checked Diagnostic (List DaoGetter)) :
    getters.found ⊆ (c.assembleDatabase owner version converters listed getters).found := by
  intro p hp
  simp [Catalog.assembleDatabase, hp]

theorem reports_markedDatabase (d : Declaration) (record : DatabaseMark) :
    Reports c (c.markedDatabase d record)
      ((d.functions.filter Function.isAbstract).flatMap c.targets) problemsOf := by
  unfold Catalog.markedDatabase
  refine .after (fun met out =>
    (Session.Told.recalls c met out).yields_knownEntities d record) ?_
  rintro _ rfl
  have hgetters : Reports c ((d.functions.filter Function.isAbstract).mapM
      (c.getter d.qualifiedName)) _ fun getters => getters.flatMap Checked.found :=
    reports_mapM fun f _ => reports_getter d.qualifiedName f
  refine hgetters.map (fun getters => ?_) fun getters p hp => ?_
  · rw [problemsOf_toExcept rfl]
    exact List.subset_append_of_subset_right _ (getters_subset_assembleDatabase (.all getters))
  · rw [problemsOf_toExcept rfl] at hp
    have hself := Diagnostic.anchors_self d.qualifiedName
    rcases List.mem_append.mp hp with hp | hp
    · exact .inr ⟨_, raised_readMark hself p hp⟩
    rcases found_assembleDatabase hp with hp | hp | hp
    · have hlisted : (c.knownEntities d record).Finds (Diagnostic.Raised c d.qualifiedName) :=
        CheckedT.finds_all fun t _ => raised_dependentEntity hself
      exact .inr ⟨_, hlisted p hp⟩
    · exact .inl hp
    · exact .inr ⟨_, hp⟩

/-- A step that changes nothing may list such problems too. -/
theorem reports_error {problem : Diagnostic} {owner : String} (h : problem.Raised c owner) :
    Reports c (pure (.error [problem]) : Run (Except (List Diagnostic) Database)) [] problemsOf :=
  fun _ _ _ hs => hs.add (List.forall_mem_singleton.mpr h.grounded)

/-- The step of a run: a database. -/
theorem reports_databaseOf (d : Declaration) :
    Reports c (c.databaseOf d) (c.reachedFrom d) problemsOf := by
  have hself := Diagnostic.anchors_self d.qualifiedName
  unfold Catalog.databaseOf Catalog.reachedFrom
  by_cases htrait : d.isTrait = true
  · simp only [htrait, Bool.not_true, Bool.false_eq_true, if_false]
    cases Mark.find DatabaseMark d.annotations with
    | error error => exact reports_error (raised_of_none hself rfl)
    | ok found =>
        cases found with
        | none => exact reports_error (raised_of_none hself rfl)
        | some record => exact reports_markedDatabase d record
  · simp only [htrait, Bool.not_false, if_true]
    exact reports_error (raised_of_none hself rfl)

end Told

end DaoForge
