import DaoForge.Proofs.Emission
import DaoForge.Proofs.Resolve.Target
import Mathlib.Data.List.Duplicate

/-!
# DaoForge.Proofs.Skipped

Databases that are left out, and where a run says that a declaration failed.

1. `Origin.Composes`: the units of an origin can be composed. A run comes to the entities and DAOs of
   `ResolvedSchema.parts`, to some of them more than once;
2. `Progress.Ledger`: what a run noted and told about these. Each step keeps it (`Ledger.ensureEntity`,
   `Ledger.ensureDao`, `Ledger.ensureDatabase`), hence `ledger_compileWith`;
3. `compile_skipped_iff`: a database without units is named only where its entities and DAOs compose, and
   a declaration is blamed at itself where its units do not compose and the run comes to it twice.
-/

namespace DaoForge

/-! ## parts -/

namespace Origin

/-- The units of the origin can be composed. -/
def Composes (n : Naming) (o : Origin) : Prop := ∃ u v, o.Gives n u v

theorem composes_entity_iff {n : Naming} {e : Entity} :
    (Origin.entity e).Composes n ↔ ∃ table mapper,
      TableUnit.of n e = .ok table ∧ MapperUnit.of n e = .ok mapper := by
  constructor
  · rintro ⟨_, _, h⟩
    cases h with
    | entity htable hmapper => exact ⟨_, _, htable, hmapper⟩
  · rintro ⟨_, _, htable, hmapper⟩
    exact ⟨_, _, .entity htable hmapper⟩

theorem composes_dao_iff {n : Naming} {d : Dao} :
    (Origin.dao d).Composes n ↔ ∃ queries dao,
      QueriesUnit.of n d = .ok queries ∧ DaoUnit.of n d = .ok dao := by
  constructor
  · rintro ⟨_, _, h⟩
    cases h with
    | dao hqueries hdao => exact ⟨_, _, hqueries, hdao⟩
  · rintro ⟨_, _, hqueries, hdao⟩
    exact ⟨_, _, .dao hqueries hdao⟩

/-- A run noted that it generated the units of the entity or DAO. -/
def NotedIn (p : Progress) : Origin → Prop
  | .entity e => (noted? p.entities e.declaration).isSome = true
  | .dao d => (noted? p.daos d.declaration).isSome = true
  | .database _ => False

end Origin

/-- The entities and DAOs that the generation of a database comes to, in order. -/
def Database.parts (d : Database) : List Origin :=
  d.entities.map .entity ++ d.getters.map fun g => .dao g.dao

namespace ResolvedSchema

/-- The entities and DAOs that a run comes to, in order and as often as it does. -/
def parts (s : ResolvedSchema) : List Origin :=
  s.entities.map .entity ++ s.databases.flatMap Database.parts

/-- The schema holds the entity or DAO. -/
structure HoldsPart (s : ResolvedSchema) (o : Origin) : Prop where
  holds : s.Holds o
  kind : o.key.1 ≠ .schema

end ResolvedSchema

section Parts

variable {c : Catalog} {o o' : Origin}

theorem holdsPart_entity {e : Entity} (he : e ∈ c.schema.entities) : c.schema.HoldsPart (.entity e) :=
  ⟨he, UnitKind.noConfusion⟩

theorem holdsPart_dao {d : Database} (hd : d ∈ c.schema.databases) {g : DaoGetter} (hg : g ∈ d.getters) :
    c.schema.HoldsPart (.dao g.dao) :=
  ⟨⟨d, hd, g, hg, rfl⟩, UnitKind.noConfusion⟩

/-- Entities and DAOs are told apart by their declarations. -/
theorem eq_part_of_declaration_eq (ho : c.schema.HoldsPart o) (ho' : c.schema.HoldsPart o')
    (h : o.declaration = o'.declaration) : o = o' := by
  cases o with
  | entity e => exact (eq_entity_of_declaration_eq ho.holds ho'.holds h).symm
  | dao d =>
      cases o' with
      | entity e => exact eq_entity_of_declaration_eq ho'.holds ho.holds h.symm
      | dao d' => exact eq_of_key_eq ho.holds ho'.holds (Prod.ext rfl h)
      | database d' => exact absurd rfl ho'.kind
  | database d => exact absurd rfl ho.kind

/-- What comes last is a duplicate if it came before. -/
theorem duplicate_concat_iff {α : Type} {x y : α} {xs : List α} :
    List.Duplicate x (xs ++ [y]) ↔ List.Duplicate x xs ∨ (x = y ∧ y ∈ xs) := by
  induction xs with
  | nil => simp
  | cons z zs ih =>
      rw [List.cons_append, List.duplicate_cons_iff, List.duplicate_cons_iff, ih, List.mem_append,
        List.mem_singleton, List.mem_cons]
      constructor
      · rintro (⟨rfl, hmem | rfl⟩ | hdup | ⟨rfl, hmem⟩)
        · exact .inl (.inl ⟨rfl, hmem⟩)
        · exact .inr ⟨rfl, .inl rfl⟩
        · exact .inl (.inr hdup)
        · exact .inr ⟨rfl, .inr hmem⟩
      · rintro ((⟨rfl, hmem⟩ | hdup) | ⟨rfl, rfl | hmem⟩)
        · exact .inl ⟨rfl, .inl hmem⟩
        · exact .inr (.inl hdup)
        · exact .inl ⟨rfl, .inr rfl⟩
        · exact .inr (.inr ⟨rfl, hmem⟩)

end Parts

/-! ## what a run notes and tells -/

/-- A problem is anchored at the declaration. -/
def AnchoredAt (found : List Diagnostic) (declaration : String) : Prop :=
  ∃ x ∈ found, x.declaration = declaration

theorem anchoredAt_append {found new : List Diagnostic} {declaration : String} :
    AnchoredAt (found ++ new) declaration ↔ AnchoredAt found declaration ∨ AnchoredAt new declaration := by
  simp only [AnchoredAt, List.mem_append, or_and_right, exists_or]

namespace Progress

/-- Everything that generating units comes to. -/
theorem run_generateOnce {α : Type} {declaration : String} {isDone : Progress → Bool}
    {units : Except GenerationError α} {add : Progress → α → Progress} (p : Progress) :
    ((Progress.generateOnce declaration isDone units add).run p).run =
      if isDone p = true then ([], p)
      else if declaration ∈ p.failed then ([dependencyFailed declaration declaration], p)
      else
        match units with
        | .error error =>
          ([⟨declaration, .generation error⟩],
            { p.meet (.generation error) with failed := p.failed ++ [declaration] })
        | .ok a => ([], add p a) := by
  unfold Progress.generateOnce
  rw [StateT.run_bind, StateT.run_get, pure_bind]
  simp only [List.contains_iff_mem]
  split
  · rfl
  split
  · rfl
  · cases units <;> rfl

variable {c : Catalog} {n : Naming} {met : List Origin} {done : List Database}
  {found new : List Diagnostic} {p p' : Progress} {o : Origin}

/-- A run has come to the parts `met` and to the databases `done`, and has found these problems. -/
structure Ledger (c : Catalog) (n : Naming) (met : List Origin) (done : List Database)
    (found : List Diagnostic) (p : Progress) : Prop where
  holds : ∀ o ∈ met, c.schema.HoldsPart o
  noted : ∀ o, c.schema.HoldsPart o → (o.NotedIn p ↔ o ∈ met ∧ o.Composes n)
  failed : ∀ o, c.schema.HoldsPart o → (o.declaration ∈ p.failed ↔ o ∈ met ∧ ¬ o.Composes n)
  /-- What failed is blamed at itself, when the run comes to it again. -/
  blamed : ∀ anchor name, dependencyFailed anchor name ∈ found ↔
    anchor = name ∧ ∃ o, List.Duplicate o met ∧ o.declaration = name ∧ ¬ o.Composes n
  told : ∀ o ∈ met, ¬ o.Composes n → AnchoredAt found o.declaration
  /-- A problem is that of a part, or of a database whose parts all compose. -/
  anchors : ∀ x ∈ found, (∃ o ∈ met, o.declaration = x.declaration ∧ ¬ o.Composes n) ∨
    ∃ d ∈ done, d.declaration = x.declaration ∧ ∀ o ∈ d.parts, o.Composes n
  outcome : ∀ d ∈ done, (∀ o ∈ d.parts, o.Composes n) →
    AnchoredAt found d.declaration ∨ ∃ u ∈ p.units, (Origin.database d).Owns u

theorem ledger_nil (c : Catalog) (n : Naming) : Ledger c n [] [] [] {} where
  holds _ h := nomatch h
  noted o _ := by cases o <;> simp [Origin.NotedIn, noted?]
  failed o _ := by simp
  blamed anchor name := by simp
  told _ h := nomatch h
  anchors _ h := nomatch h
  outcome _ h := nomatch h

/-- What a run finds when it comes to a part: nothing if it composes, else its error the first time, and
later that it failed. -/
inductive Finds (n : Naming) (met : List Origin) (o : Origin) : List Diagnostic → Prop where
  | nothing (hcomposes : o.Composes n) : Finds n met o []
  | error (hfails : ¬ o.Composes n) (hnew : o ∉ met) (error : GenerationError) :
      Finds n met o [⟨o.declaration, .generation error⟩]
  | again (hfails : ¬ o.Composes n) (hmet : o ∈ met) :
      Finds n met o [dependencyFailed o.declaration o.declaration]

namespace Finds

theorem eq_nil_iff (h : Finds n met o new) : new = [] ↔ o.Composes n := by
  cases h with
  | nothing hcomposes => exact iff_of_true rfl hcomposes
  | error hfails => exact iff_of_false (List.cons_ne_nil _ _) hfails
  | again hfails => exact iff_of_false (List.cons_ne_nil _ _) hfails

theorem blamed_iff (h : Finds n met o new) (anchor name : String) :
    dependencyFailed anchor name ∈ new ↔
      anchor = name ∧ o ∈ met ∧ o.declaration = name ∧ ¬ o.Composes n := by
  cases h with
  | nothing hcomposes => simp [hcomposes]
  | error hfails hnew error => simp [dependencyFailed, hnew]
  | again hfails hmet =>
      simp only [dependencyFailed, List.mem_singleton, Diagnostic.mk.injEq, SpecError.resolution.injEq,
        ResolutionError.dependencyFailed.injEq, hmet, hfails, not_false_eq_true, and_true, true_and]
      constructor
      · rintro ⟨hanchor, hname⟩
        exact ⟨hanchor.trans hname.symm, hname.symm⟩
      · rintro ⟨hanchor, hname⟩
        exact ⟨hanchor.trans hname.symm, hname.symm⟩

/-- What is found of a part is anchored at it. -/
theorem anchored (h : Finds n met o new) : ∀ x ∈ new, o.declaration = x.declaration ∧ ¬ o.Composes n := by
  cases h with
  | nothing => exact List.forall_mem_nil _
  | error hfails => exact List.forall_mem_singleton.mpr ⟨rfl, hfails⟩
  | again hfails => exact List.forall_mem_singleton.mpr ⟨rfl, hfails⟩

theorem anchoredAt (h : Finds n met o new) (hfails : ¬ o.Composes n) : AnchoredAt new o.declaration := by
  cases h with
  | nothing hcomposes => exact absurd hcomposes hfails
  | error => exact ⟨_, List.mem_singleton_self _, rfl⟩
  | again => exact ⟨_, List.mem_singleton_self _, rfl⟩

end Finds

namespace Ledger

/-- A part is met. -/
theorem meet (hp : Ledger c n met done found p) (ho : c.schema.HoldsPart o) (hnew : Finds n met o new)
    (hnoted : ∀ o', c.schema.HoldsPart o' → (o'.NotedIn p' ↔ o' ∈ met ++ [o] ∧ o'.Composes n))
    (hfailed : ∀ o', c.schema.HoldsPart o' →
      (o'.declaration ∈ p'.failed ↔ o' ∈ met ++ [o] ∧ ¬ o'.Composes n))
    (hunits : p.units ⊆ p'.units) : Ledger c n (met ++ [o]) done (found ++ new) p' where
  holds := List.forall_mem_append.mpr ⟨hp.holds, List.forall_mem_singleton.mpr ho⟩
  noted := hnoted
  failed := hfailed
  blamed anchor name := by
    rw [List.mem_append, hp.blamed, hnew.blamed_iff, ← and_or_left]
    refine and_congr_right fun _ => ?_
    simp only [duplicate_concat_iff, or_and_right, exists_or]
    refine or_congr_right ⟨?_, ?_⟩
    · rintro ⟨hmet, hname, hfails⟩
      exact ⟨o, ⟨rfl, hmet⟩, hname, hfails⟩
    · rintro ⟨_, ⟨rfl, hmet⟩, hname, hfails⟩
      exact ⟨hmet, hname, hfails⟩
  told := by
    refine List.forall_mem_append.mpr ⟨fun o' ho' hfails => ?_, List.forall_mem_singleton.mpr ?_⟩
    · exact anchoredAt_append.mpr (.inl (hp.told o' ho' hfails))
    · exact fun hfails => anchoredAt_append.mpr (.inr (hnew.anchoredAt hfails))
  anchors := by
    refine List.forall_mem_append.mpr ⟨fun x hx => (hp.anchors x hx).imp_left ?_, fun x hx => .inl ?_⟩
    · exact fun ⟨o', ho', hfails⟩ => ⟨o', List.mem_append_left _ ho', hfails⟩
    · exact ⟨o, List.mem_append_right _ (List.mem_singleton_self o), hnew.anchored x hx⟩
  outcome d hd hparts := (hp.outcome d hd hparts).imp
    (fun h => anchoredAt_append.mpr (.inl h)) fun ⟨u, hu, howns⟩ => ⟨u, hunits hu, howns⟩

/-- A part that was met is met again, and nothing else changes. -/
theorem meetAgain (hp : Ledger c n met done found p) (ho : c.schema.HoldsPart o) (hmet : o ∈ met)
    (hnew : Finds n met o new) : Ledger c n (met ++ [o]) done (found ++ new) p := by
  have hsame {o' : Origin} : o' ∈ met ++ [o] ↔ o' ∈ met := by
    rw [List.mem_append, List.mem_singleton]
    exact or_iff_left_of_imp fun heq => heq ▸ hmet
  refine hp.meet ho hnew (fun o' ho' => ?_) (fun o' ho' => ?_) (List.Subset.refl _)
  · rw [hsame, hp.noted o' ho']
  · rw [hsame, hp.failed o' ho']

/-- It does not matter where the run would stop. -/
theorem meetError (hp : Ledger c n met done found p) (error : SpecError) :
    Ledger c n met done found (p.meet error) := { hp with }

/-- A part that does not compose is met for the first time, and has failed. -/
theorem meetFailing (hp : Ledger c n met done found p) (ho : c.schema.HoldsPart o) (hmet : o ∉ met)
    (hfails : ¬ o.Composes n) (error : GenerationError) :
    Ledger c n (met ++ [o]) done (found ++ [⟨o.declaration, .generation error⟩])
      { p.meet (.generation error) with failed := p.failed ++ [o.declaration] } := by
  refine hp.meet ho (.error hfails hmet error) (fun o' ho' => ?_) (fun o' ho' => ?_) (List.Subset.refl _)
  · rw [List.mem_append, List.mem_singleton, or_and_right, ← hp.noted o' ho', iff_comm]
    refine or_iff_left_of_imp ?_
    rintro ⟨rfl, hcomposed⟩
    exact absurd hcomposed hfails
  · rw [List.mem_append, hp.failed o' ho', List.mem_singleton, List.mem_append, List.mem_singleton,
      or_and_right]
    refine or_congr_right ⟨fun heq => ?_, fun heq => heq.1 ▸ rfl⟩
    obtain rfl := eq_part_of_declaration_eq ho' ho heq
    exact ⟨rfl, hfails⟩

/-- A part is met that composes, and it is noted. -/
theorem meetComposed (hp : Ledger c n met done found p) (ho : c.schema.HoldsPart o)
    (hcomposed : o.Composes n)
    (hnoted : ∀ o', c.schema.HoldsPart o' → (o'.NotedIn p' ↔ o'.NotedIn p ∨ o' = o))
    (hfailed : p'.failed = p.failed) (hunits : p.units ⊆ p'.units) :
    Ledger c n (met ++ [o]) done (found ++ []) p' := by
  refine hp.meet ho (.nothing hcomposed) (fun o' ho' => ?_) (fun o' ho' => ?_) hunits
  · rw [hnoted o' ho', hp.noted o' ho', List.mem_append, List.mem_singleton, or_and_right]
    refine or_congr_right ⟨?_, And.left⟩
    rintro rfl
    exact ⟨rfl, hcomposed⟩
  · rw [hfailed, hp.failed o' ho', List.mem_append, List.mem_singleton, or_and_right, iff_comm]
    refine or_iff_left_of_imp ?_
    rintro ⟨rfl, hfails⟩
    exact absurd hcomposed hfails

/-- The step: a part is met whose units are generated once. -/
theorem generateOnce {α : Type} {isDone : Progress → Bool} {units : Except GenerationError α}
    {add : Progress → α → Progress} (hp : Ledger c n met done found p) (ho : c.schema.HoldsPart o)
    (hdone : isDone p = true ↔ o.NotedIn p) (hcomposes : o.Composes n ↔ ∃ a, units = .ok a)
    (hadd : ∀ a, (∀ o', c.schema.HoldsPart o' → (o'.NotedIn (add p a) ↔ o'.NotedIn p ∨ o' = o)) ∧
      (add p a).failed = p.failed ∧ p.units ⊆ (add p a).units)
    (h : ((Progress.generateOnce o.declaration isDone units add).run p).run = (new, p')) :
    Ledger c n (met ++ [o]) done (found ++ new) p' ∧ (new = [] ↔ o.Composes n) := by
  rw [run_generateOnce] at h
  have hnoted := hdone.trans (hp.noted o ho)
  have hfailed := hp.failed o ho
  by_cases hmet : o ∈ met
  · by_cases hcomposed : o.Composes n
    · rw [if_pos (hnoted.mpr ⟨hmet, hcomposed⟩)] at h
      cases h
      exact ⟨hp.meetAgain ho hmet (.nothing hcomposed), iff_of_true rfl hcomposed⟩
    · rw [if_neg fun h => hcomposed (hnoted.mp h).2, if_pos (hfailed.mpr ⟨hmet, hcomposed⟩)] at h
      cases h
      have hnew : Finds n met o _ := .again hcomposed hmet
      exact ⟨hp.meetAgain ho hmet hnew, hnew.eq_nil_iff⟩
  · rw [if_neg fun h => hmet (hnoted.mp h).1, if_neg fun h => hmet (hfailed.mp h).1] at h
    cases units with
    | error error =>
        cases h
        have hfails : ¬ o.Composes n := fun h => nomatch hcomposes.mp h
        exact ⟨hp.meetFailing ho hmet hfails error, iff_of_false (List.cons_ne_nil _ _) hfails⟩
    | ok a =>
        cases h
        have hcomposed : o.Composes n := hcomposes.mpr ⟨a, rfl⟩
        obtain ⟨hnoted, hfailed, hunits⟩ := hadd a
        exact ⟨hp.meetComposed ho hcomposed hnoted hfailed hunits, iff_of_true rfl hcomposed⟩

theorem ensureEntity (hp : Ledger c n met done found p) {e : Entity} (he : e ∈ c.schema.entities)
    (h : ((Progress.ensureEntity n e).run p).run = (new, p')) :
    Ledger c n (met ++ [.entity e]) done (found ++ new) p' ∧
      (new = [] ↔ (Origin.entity e).Composes n) := by
  have hpart := holdsPart_entity he
  unfold Progress.ensureEntity at h
  refine hp.generateOnce hpart Iff.rfl ?_ ?_ h
  · rw [Origin.composes_entity_iff]
    constructor
    · rintro ⟨table, mapper, htable, hmapper⟩
      exact ⟨(table, mapper), by rw [htable, hmapper]; rfl⟩
    · rintro ⟨units, hunits⟩
      obtain ⟨table, htable, hunits⟩ := bind_eq_ok hunits
      obtain ⟨mapper, hmapper, -⟩ := bind_eq_ok hunits
      exact ⟨table, mapper, htable, hmapper⟩
  · intro (table, mapper)
    refine ⟨fun o' ho' => ?_, rfl, List.subset_append_left _ _⟩
    cases o' with
    | entity e' =>
        refine isSome_noted?_append.trans (or_congr_right ⟨fun hname => ?_, ?_⟩)
        · exact eq_part_of_declaration_eq ho' hpart hname
        · rintro ⟨⟩
          rfl
    | dao d => exact (or_iff_left nofun).symm
    | database d => exact absurd rfl ho'.kind

theorem ensureDao (hp : Ledger c n met done found p) {d : Dao} (hd : c.schema.HoldsPart (.dao d))
    (h : ((Progress.ensureDao n d).run p).run = (new, p')) :
    Ledger c n (met ++ [.dao d]) done (found ++ new) p' ∧ (new = [] ↔ (Origin.dao d).Composes n) := by
  unfold Progress.ensureDao at h
  refine hp.generateOnce hd Iff.rfl ?_ ?_ h
  · rw [Origin.composes_dao_iff]
    constructor
    · rintro ⟨queries, dao, hqueries, hdao⟩
      exact ⟨(queries, dao), by rw [hqueries, hdao]; rfl⟩
    · rintro ⟨units, hunits⟩
      obtain ⟨queries, hqueries, hunits⟩ := bind_eq_ok hunits
      obtain ⟨dao, hdao, -⟩ := bind_eq_ok hunits
      exact ⟨queries, dao, hqueries, hdao⟩
  · intro (queries, dao)
    refine ⟨fun o' ho' => ?_, rfl, List.subset_append_left _ _⟩
    cases o' with
    | entity e => exact (or_iff_left nofun).symm
    | dao d' =>
        refine isSome_noted?_append.trans (or_congr_right ⟨fun hname => ?_, ?_⟩)
        · exact eq_part_of_declaration_eq ho' hd hname
        · rintro ⟨⟩
          rfl
    | database d => exact absurd rfl ho'.kind

/-- Steps in a row meet one part each, and find nothing iff all of these compose. -/
theorem mapM {α : Type} {f : α → StateM Progress (List Diagnostic)} {xs : List α}
    {founds : List (List Diagnostic)} (hp : Ledger c n met done found p) (origin : α → Origin)
    (hstep : ∀ x ∈ xs, ∀ met found p new p', Ledger c n met done found p →
      ((f x).run p).run = (new, p') → Ledger c n (met ++ [origin x]) done (found ++ new) p' ∧
        (new = [] ↔ (origin x).Composes n))
    (h : ((xs.mapM f).run p).run = (founds, p')) :
    Ledger c n (met ++ xs.map origin) done (found ++ founds.flatten) p' ∧
      (founds.flatten = [] ↔ ∀ o ∈ xs.map origin, o.Composes n) := by
  refine run_mapM_extends (P := fun before new p =>
    Ledger c n (met ++ before.map origin) done (found ++ new) p ∧
      (new = [] ↔ ∀ o ∈ before.map origin, o.Composes n)) ?_ ⟨by simpa using hp, by simp⟩ h
  rintro before x after earlier p new p' hsplit ⟨hp, hearlier⟩ hx
  have hmem : x ∈ xs := by rw [← hsplit]; simp
  obtain ⟨hp', hnew⟩ := hstep x hmem _ _ _ _ _ hp hx
  rw [List.map_append, List.map_singleton, ← List.append_assoc, ← List.append_assoc,
    List.append_eq_nil_iff, List.forall_mem_append, List.forall_mem_singleton, hearlier, hnew]
  exact ⟨hp', Iff.rfl⟩

/-- The entities and DAOs of a database are met. -/
theorem ensureParts {p₁ p₂ : Progress} {d : Database} {ofEntities ofDaos : List (List Diagnostic)}
    (hp : Ledger c n met done found p) (hd : d ∈ c.schema.databases)
    (hentities : ((d.entities.mapM (Progress.ensureEntity n)).run p).run = (ofEntities, p₁))
    (hdaos : ((d.getters.mapM fun g => Progress.ensureDao n g.dao).run p₁).run = (ofDaos, p₂)) :
    Ledger c n (met ++ d.parts) done (found ++ (ofEntities.flatten ++ ofDaos.flatten)) p₂ ∧
      (ofEntities.flatten ++ ofDaos.flatten = [] ↔ ∀ o ∈ d.parts, o.Composes n) := by
  obtain ⟨hp₁, hfirst⟩ := hp.mapM .entity (fun e he _ _ _ _ _ hp he' =>
    hp.ensureEntity (entities_subset_schema hd he) he') hentities
  obtain ⟨hp₂, hsecond⟩ := hp₁.mapM (fun g => .dao g.dao) (fun g hg _ _ _ _ _ hp hg' =>
    hp.ensureDao (holdsPart_dao hd hg) hg') hdaos
  rw [List.append_assoc, List.append_assoc] at hp₂
  refine ⟨hp₂, ?_⟩
  rw [List.append_eq_nil_iff, hfirst, hsecond, Database.parts, List.forall_mem_append]

/-- A database is done: its problem is taken in, or a unit of it. -/
theorem close (hp : Ledger c n met done found p) {d : Database}
    (hnoted : p'.entities = p.entities ∧ p'.daos = p.daos) (hfailed : p'.failed = p.failed)
    (hunits : p.units ⊆ p'.units) (hblamed : ∀ x ∈ new, x.error.dependency? = none)
    (hnew : ∀ x ∈ new, d.declaration = x.declaration ∧ ∀ o ∈ d.parts, o.Composes n)
    (houtcome : (∀ o ∈ d.parts, o.Composes n) →
      AnchoredAt new d.declaration ∨ ∃ u ∈ p'.units, (Origin.database d).Owns u) :
    Ledger c n met (done ++ [d]) (found ++ new) p' where
  holds := hp.holds
  noted o ho := by
    rw [← hp.noted o ho]
    cases o with
    | entity e => rw [Origin.NotedIn, hnoted.1, Origin.NotedIn]
    | dao d => rw [Origin.NotedIn, hnoted.2, Origin.NotedIn]
    | database d => exact Iff.rfl
  failed o ho := by rw [hfailed, hp.failed o ho]
  blamed anchor name := by
    rw [List.mem_append, ← hp.blamed]
    refine or_iff_left fun hmem => ?_
    have hnone := hblamed _ hmem
    contradiction
  told o ho hfails := anchoredAt_append.mpr (.inl (hp.told o ho hfails))
  anchors := by
    refine List.forall_mem_append.mpr ⟨fun x hx => (hp.anchors x hx).imp_right ?_, fun x hx => .inr ?_⟩
    · exact fun ⟨d', hd', hrest⟩ => ⟨d', List.mem_append_left _ hd', hrest⟩
    · exact ⟨d, List.mem_append_right _ (List.mem_singleton_self d), hnew x hx⟩
  outcome := by
    refine List.forall_mem_append.mpr ⟨fun d' hd' hparts => ?_, List.forall_mem_singleton.mpr ?_⟩
    · exact (hp.outcome d' hd' hparts).imp (fun h => anchoredAt_append.mpr (.inl h))
        fun ⟨u, hu, howns⟩ => ⟨u, hunits hu, howns⟩
    · exact fun hparts => (houtcome hparts).imp_left fun h => anchoredAt_append.mpr (.inr h)

end Ledger

/-! ## databases -/

theorem no_dependency_composing {α : Type} (result : Except GenerationError α) :
    FailsWithin (fun error => error.dependency? = none) (composing result) := by
  cases result with
  | ok a => exact failsWithin_ok a
  | error error => exact failsWithin_error rfl

theorem no_dependency_adapterInstance (d : Database) (key : AdapterKey) :
    FailsWithin (fun error => error.dependency? = none) (d.adapterInstance key) := by
  unfold Database.adapterInstance
  split
  · split
    · exact failsWithin_ok _
    · exact failsWithin_error rfl
  split
  · split
    · exact failsWithin_ok _
    · exact failsWithin_error rfl
  · exact failsWithin_ok _
  · exact failsWithin_ok _
  · exact failsWithin_error rfl

theorem no_dependency_databaseUnit (n : Naming) (d : Database) (mappers : List MapperWiring)
    (queries : List QueriesWiring) :
    FailsWithin (fun error => error.dependency? = none) (DatabaseUnit.of n d mappers queries) := by
  unfold DatabaseUnit.of
  refine (no_dependency_composing _).bind fun name _ => ?_
  refine (no_dependency_composing _).bind fun schema _ => ?_
  refine (no_dependency_composing _).bind fun databaseTrait _ => ?_
  refine FailsWithin.bind (failsWithin_mapM fun key _ => ?_) fun adapters _ => ?_
  · exact (no_dependency_composing _).bind fun field _ => (no_dependency_adapterInstance d key).bind_ok
  refine (no_dependency_composing _).bind fun ofMappers _ => ?_
  exact (no_dependency_composing _).bind fun ofQueries _ => (no_dependency_composing _).bind_ok

/-- What keeps a database from being composed, whose entities and DAOs are done, is no dependency. -/
theorem no_dependency_databaseUnits {d : Database} (hparts : ∀ o ∈ d.parts, o.NotedIn p) :
    FailsWithin (fun error => error.dependency? = none) (databaseUnits n p d) := by
  obtain ⟨hentities, hdaos⟩ := List.forall_mem_append.mp hparts
  unfold databaseUnits
  refine FailsWithin.bind (failsWithin_mapM fun e he => ?_) fun mappers _ => ?_
  · have hnoted : (noted? p.entities e.declaration).isSome = true := hentities _ (List.mem_map_of_mem he)
    obtain ⟨adapters, hadapters⟩ := Option.isSome_iff_exists.mp hnoted
    rw [hadapters]
    exact failsWithin_ok _
  refine FailsWithin.bind (failsWithin_mapM fun dao hdao => ?_) fun queries _ => ?_
  · obtain ⟨g, hg, rfl⟩ := List.mem_map.mp (mem_of_mem_distinctBy hdao)
    have hnoted : (noted? p.daos g.dao.declaration).isSome = true := hdaos _ (List.mem_map_of_mem hg)
    obtain ⟨unit, hunit⟩ := Option.isSome_iff_exists.mp hnoted
    rw [hunit]
    exact failsWithin_ok _
  refine (no_dependency_composing _).bind fun schema _ => FailsWithin.bind_ok ?_
  exact no_dependency_databaseUnit n d mappers queries

theorem Ledger.ensureDatabase (hp : Ledger c n met done found p) {d : Database}
    (hd : d ∈ c.schema.databases) (h : ((Progress.ensureDatabase n d).run p).run = (new, p')) :
    Ledger c n (met ++ d.parts) (done ++ [d]) (found ++ new) p' := by
  obtain ⟨ofEntities, p₁, ofDaos, p₂, hentities, hdaos, houtcome⟩ := ensureDatabase_outcomes h
  obtain ⟨hp₂, hnone⟩ := hp.ensureParts hd hentities hdaos
  obtain ⟨rfl, hsome, rfl⟩ | ⟨hfirst, hsecond, hrest⟩ := houtcome
  · -- a part failed, and nothing is told of the database
    have hclosed : Ledger c n _ (done ++ [d]) (_ ++ []) _ := hp₂.close ⟨rfl, rfl⟩ rfl (List.Subset.refl _)
      (List.forall_mem_nil _) (List.forall_mem_nil _) fun hparts => absurd (hnone.mpr hparts) hsome
    rwa [List.append_nil] at hclosed
  · have hparts : ∀ o ∈ d.parts, o.Composes n := hnone.mp (by rw [hfirst, hsecond]; rfl)
    rw [hfirst, hsecond, List.append_nil, List.append_nil] at hp₂
    obtain ⟨error, hunits, rfl, rfl⟩ | ⟨schema, database, hunits, rfl, rfl⟩ := hrest
    · have hnoted : ∀ o ∈ d.parts, o.NotedIn p₂ := fun o ho =>
        (hp₂.noted o (hp₂.holds o (List.mem_append_right _ ho))).mpr
          ⟨List.mem_append_right _ ho, hparts o ho⟩
      refine (hp₂.meetError error).close ⟨rfl, rfl⟩ rfl (List.Subset.refl _) ?_ ?_ fun _ => .inl ?_
      · exact List.forall_mem_singleton.mpr (no_dependency_databaseUnits hnoted error hunits)
      · exact List.forall_mem_singleton.mpr ⟨rfl, hparts⟩
      · exact ⟨_, List.mem_singleton_self _, rfl⟩
    · refine hp₂.close ⟨rfl, rfl⟩ rfl (List.subset_append_left _ _) (List.forall_mem_nil _)
        (List.forall_mem_nil _) fun _ => .inr ⟨.schema schema, ?_, (databaseUnits_gives hunits).owns.1⟩
      exact List.mem_append_right _ List.mem_cons_self

end Progress

/-! ## the resolution -/

/-- The resolution blames nothing at itself but a trait, or what is named like a member of another
declaration. -/
theorem trait_or_member_of_blamed {c : Catalog} {name : String}
    (h : dependencyFailed name name ∈ c.schema.diagnostics) :
    (∃ d ∈ c.declarations, d.qualifiedName = name ∧ d.isTrait = true) ∨
      ∃ d ∈ c.declarations, ∃ member, name = Diagnostic.memberAnchor d.qualifiedName member := by
  cases stems_of_mem_diagnostics h with
  | @entity d hd h =>
      refine .inr (member_of_concerns hd (raised_of_mem_problemsOf_entityOf h).concerns fun heq => ?_)
      obtain rfl : name = d.qualifiedName := heq
      exact not_blamed_entityOf hd h
  | @compound d hd hcompound h =>
      cases hanswer : c.compoundOf d with
      | ok compound =>
          rw [hanswer] at h
          contradiction
      | error problems =>
          rw [hanswer] at h
          have hraised := raised_compoundOf hanswer _ h
          refine .inr (member_of_concerns hd hraised.concerns fun heq => ?_)
          -- what failed is an entity, and the compound is none
          obtain ⟨d', hd', hname, hmark, -⟩ := hraised.dependency name rfl
          obtain ⟨-, hunmarked⟩ := Catalog.struct_of_isCompound hcompound
          rw [Catalog.eq_of_qualifiedName_eq hd' hd (hname.trans heq), hunmarked] at hmark
          contradiction
  | @ofTrait d hd htrait h =>
      by_cases hname : d.qualifiedName = name
      · exact .inl ⟨d, hd, hname, htrait⟩
      · exact .inr (member_of_concerns hd h fun heq => hname heq.symm)
  | noTrait h => cases h

/-! ## whole runs -/

section Runs

variable {c : Catalog} {n : Naming}

/-- What a whole run has noted and told. -/
theorem ledger_compileWith (c : Catalog) (n : Naming) :
    ∃ p, Progress.Ledger c n c.schema.parts c.schema.databases (c.generationFaults n) p ∧
      (c.compileWith n).contents = p.units ∧
      (c.compileWith n).report.diagnostics =
        distinct (c.schema.diagnostics ++ c.generationFaults n) := by
  obtain ⟨ofEntities, p₁, ofDatabases, p₂, hentities, hdatabases, hreport, hcontents⟩ :=
    compileWith_steps c n
  have hfaults := generationFaults_eq hentities hdatabases
  obtain ⟨hp₁, -⟩ := (Progress.ledger_nil c n).mapM .entity
    (fun e he _ _ _ _ _ hp he' => hp.ensureEntity he he') hentities
  rw [List.nil_append, List.nil_append] at hp₁
  have hp₂ : Progress.Ledger c n c.schema.parts c.schema.databases (c.generationFaults n) p₂ := by
    rw [hfaults]
    refine Progress.run_mapM_extends (P := fun before new p => Progress.Ledger c n
      (c.schema.entities.map .entity ++ before.flatMap Database.parts) before
      (ofEntities.flatten ++ new) p) ?_ (by simpa using hp₁) hdatabases
    intro before d after earlier p new p' hsplit hp hd
    have hmem : d ∈ c.schema.databases := by rw [← hsplit]; simp
    rw [List.flatMap_append, List.flatMap_singleton, ← List.append_assoc, ← List.append_assoc]
    exact hp.ensureDatabase hmem hd
  rw [List.append_assoc, ← hfaults] at hreport
  exact ⟨p₂, hp₂, hcontents, hreport⟩

/-- What a run tells of databases that it leaves out, and of declarations that failed. -/
structure Compilation.TellsSkipped (r : Compilation) (c : Catalog) (n : Naming) : Prop where
  /-- A database without units is named iff its entities and DAOs compose, unless the resolution or a DAO
  of the same trait has a problem there. -/
  named_iff : ∀ d ∈ c.schema.databases, (Origin.database d).AbsentFrom r.contents →
    (AnchoredAt r.report.diagnostics d.declaration ↔
      AnchoredAt c.schema.diagnostics d.declaration ∨ (∀ o ∈ d.parts, o.Composes n) ∨
        ∃ dao, .dao dao ∈ c.schema.parts ∧ dao.declaration = d.declaration ∧
          ¬ (Origin.dao dao).Composes n)
  /-- A declaration is blamed at itself iff its units do not compose and the run comes to it twice, unless
  the resolution does so. -/
  blamed_iff : ∀ name, dependencyFailed name name ∈ r.report.diagnostics ↔
    dependencyFailed name name ∈ c.schema.diagnostics ∨
      ∃ o, List.Duplicate o c.schema.parts ∧ o.declaration = name ∧ ¬ o.Composes n
  /-- The generation blames no declaration at another one. -/
  blamed_itself : ∀ anchor name, dependencyFailed anchor name ∈ r.report.diagnostics →
    anchor = name ∨ dependencyFailed anchor name ∈ c.schema.diagnostics
  /-- The resolution blames nothing at itself but a trait, or what is named like a member. -/
  resolution : ∀ name, dependencyFailed name name ∈ c.schema.diagnostics →
    (∃ d ∈ c.declarations, d.qualifiedName = name ∧ d.isTrait = true) ∨
      ∃ d ∈ c.declarations, ∃ member, name = Diagnostic.memberAnchor d.qualifiedName member

theorem tellsSkipped_compileWith (c : Catalog) (n : Naming) : (c.compileWith n).TellsSkipped c n := by
  obtain ⟨p, hp, hcontents, hreport⟩ := ledger_compileWith c n
  have hmem (x : Diagnostic) : x ∈ (c.compileWith n).report.diagnostics ↔
      x ∈ c.schema.diagnostics ∨ x ∈ c.generationFaults n := by
    rw [hreport, mem_distinct, List.mem_append]
  constructor
  case named_iff =>
    intro d hd habsent
    rw [hcontents] at habsent
    have hanchored : AnchoredAt (c.compileWith n).report.diagnostics d.declaration ↔
        AnchoredAt c.schema.diagnostics d.declaration ∨
          AnchoredAt (c.generationFaults n) d.declaration := by
      simp only [AnchoredAt, hmem, or_and_right, exists_or]
    rw [hanchored]
    refine or_congr_right ⟨?_, ?_⟩
    · rintro ⟨x, hx, hname⟩
      obtain ⟨o, ho, hsame, hfails⟩ | ⟨d', hd', hsame, hparts⟩ := hp.anchors x hx
      · cases o with
        | entity e =>
            cases eq_entity_of_declaration_eq (hp.holds _ ho).holds (o := .database d) hd
              (hsame.trans hname)
        | dao dao => exact .inr ⟨dao, ho, hsame.trans hname, hfails⟩
        | database d' => exact absurd rfl (hp.holds _ ho).kind
      · obtain rfl := List.inj_on_of_nodup_map nodup_schema_databases hd' hd (hsame.trans hname)
        exact .inl hparts
    · rintro (hparts | ⟨dao, hdao, hsame, hfails⟩)
      · obtain htold | ⟨u, hu, howns⟩ := hp.outcome d hd hparts
        · exact htold
        · exact absurd howns (habsent u hu)
      · exact hsame ▸ hp.told _ hdao hfails
  case blamed_iff =>
    intro name
    rw [hmem, hp.blamed]
    exact or_congr_right (and_iff_right rfl)
  case blamed_itself =>
    intro anchor name hblamed
    exact ((hmem _).mp hblamed).elim .inr fun h => .inl ((hp.blamed anchor name).mp h).1
  case resolution => exact fun name => trait_or_member_of_blamed

/-- **Databases that are left out** are named only where nothing that they depend on failed, and what fails
is blamed at itself, as often as a run comes to it again. -/
theorem compile_skipped_iff {o : Options} {r : Compilation} (h : c.compile o = .ok r) :
    ∃ n, Naming.ofOptions o = .ok n ∧ r.TellsSkipped c n := by
  obtain ⟨n, hn, rfl, -⟩ := compile_eq_ok h
  exact ⟨n, hn, tellsSkipped_compileWith c n⟩

end Runs

/-- The database of an entity whose code cannot be composed is left out: no problem names it, and the entity
is blamed at itself. -/
theorem compile_skipped_iff_self :
    ∃ r n d, selfCatalog.compile {} = .ok r ∧ Naming.ofOptions {} = .ok n ∧
      d ∈ selfCatalog.schema.databases ∧ d.declaration = "app::Db" ∧
      (Origin.database d).AbsentFrom r.contents ∧ ¬ AnchoredAt r.report.diagnostics "app::Db" ∧
      (¬ ∀ o ∈ d.parts, o.Composes n) ∧
      dependencyFailed "app::User" "app::User" ∈ r.report.diagnostics ∧
      ∃ o, List.Duplicate o selfCatalog.schema.parts ∧ o.declaration = "app::User" ∧ ¬ o.Composes n := by
  have hrun : (selfCatalog.compile {}).toOption.map (fun r =>
      (r.contents.map UnitContent.declaration, r.report.diagnostics)) =
        some (["app::UserDao", "app::UserDao"],
          [⟨"app::User", .generation (.invalidIdentifier "self")⟩,
            dependencyFailed "app::User" "app::User"]) := by
    decide +kernel
  have hschema : selfCatalog.schema.databases.map Database.declaration = ["app::Db"] := by decide +kernel
  have hclean : selfCatalog.schema.diagnostics = [] := by decide +kernel
  obtain ⟨r, hr, hparts⟩ := Option.map_eq_some_iff.mp hrun
  obtain ⟨hcontents, hdiagnostics⟩ := Prod.mk.inj hparts
  obtain ⟨d, hd, hname⟩ := List.mem_map.mp (hschema ▸ List.mem_singleton_self _)
  obtain ⟨n, hn, htells⟩ := compile_skipped_iff (eq_ok_of_toOption hr)
  have habsent : (Origin.database d).AbsentFrom r.contents := by
    intro u hu howns
    have hmem := List.mem_map_of_mem (f := UnitContent.declaration) hu
    rw [hcontents, howns.declaration] at hmem
    have hother : ("app::Db" : String) ∈ ["app::UserDao", "app::UserDao"] := hname ▸ hmem
    exact absurd hother (by decide)
  have hunnamed : ¬ AnchoredAt r.report.diagnostics "app::Db" := by
    rw [hdiagnostics]
    rintro ⟨x, hx, hanchor⟩
    have hnone : ∀ x ∈ [(⟨"app::User", .generation (.invalidIdentifier "self")⟩ : Diagnostic),
        dependencyFailed "app::User" "app::User"], x.declaration ≠ "app::Db" := by decide
    exact hnone x hx hanchor
  have hblamed : dependencyFailed "app::User" "app::User" ∈ r.report.diagnostics := by
    rw [hdiagnostics]
    exact List.mem_cons_of_mem _ (List.mem_singleton_self _)
  refine ⟨r, n, d, eq_ok_of_toOption hr, hn, hd, hname, habsent, hunnamed, fun hparts => ?_, hblamed, ?_⟩
  · exact hunnamed (hname ▸ (htells.named_iff d hd habsent).mpr (.inr (.inl hparts)))
  · refine ((htells.blamed_iff "app::User").mp hblamed).resolve_left ?_
    rw [hclean]
    exact List.not_mem_nil

end DaoForge
