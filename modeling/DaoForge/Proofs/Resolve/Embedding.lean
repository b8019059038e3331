import DaoForge.Proofs.Resolve.Buildable
import DaoForge.Proofs.Resolve.Isolation
import DaoForge.Proofs.Resolve.Told

/-!
# DaoForge.Proofs.Resolve.Embedding

Cycles of embedded structs.

1. `ComesTo`: what a property comes to, with no bound on how deep structs are embedded. Where the
   structs around a property are distinct, it comes to exactly one thing, and that is what the bounded
   walk finds (`comesTo_iff`);
2. `Leads`: embeddings lead from a property along structs to a declaration. The walk reports a cycle
   iff they lead back to one of the structs on their way, and to none before
   (`tellsCycle_memberFindings_iff`); if they lead back at all, they do so a first time
   (`Leads.first_return`);
3. nothing else that is wrong with an entity tells of a cycle (`holdsFindings_entityOf`);
4. `Call.embedding_cycles`: the reply to an entity tells of its cycles, all of them and no other.
-/

namespace DaoForge

/-! ## the walk without a bound -/

/-- What a property comes to in the end, and with it the properties of the structs that it embeds. -/
inductive ComesTo (c : Catalog) : MemberScope → Property → MemberFindings → Prop where
  | malformed {s : MemberScope} {p : Property} {faults : List Diagnostic}
      (hmarks : p.marks (s.anchorOf p) = .error faults) : ComesTo c s p { diagnostics := faults }
  | ignored {s : MemberScope} {p : Property} {marks : PropertyMarks} {reason : IgnoreReason}
      (hmarks : p.marks (s.anchorOf p) = .ok marks) (hreason : s.ignoreReason? p = some reason) :
      ComesTo c s p (ignoredMember s p marks reason)
  | column {s : MemberScope} {p : Property} {marks : PropertyMarks}
      (hmarks : p.marks (s.anchorOf p) = .ok marks) (hreason : s.ignoreReason? p = none)
      (hembedded : marks.embedded = none) : ComesTo c s p (columnMember s p marks)
  | untargeted {s : MemberScope} {p : Property} {marks : PropertyMarks} {embedded : EmbeddedMark}
      {error : SpecError} (hmarks : p.marks (s.anchorOf p) = .ok marks)
      (hreason : s.ignoreReason? p = none) (hembedded : marks.embedded = some embedded)
      (htarget : embeddedTarget c s p = .error error) :
      ComesTo c s p (.problem (s.anchorOf p) error)
  | embedded {s : MemberScope} {p : Property} {marks : PropertyMarks} {embedded : EmbeddedMark}
      {target : Declaration} {inner : Property → MemberFindings}
      (hmarks : p.marks (s.anchorOf p) = .ok marks) (hreason : s.ignoreReason? p = none)
      (hembedded : marks.embedded = some embedded) (htarget : embeddedTarget c s p = .ok target)
      (hinner : ∀ q ∈ target.properties, ComesTo c (s.nested p embedded target) q (inner q)) :
      ComesTo c s p
        (embeddedMember s p marks embedded target (.concat (target.properties.map inner)))

section Walk

variable {c : Catalog} {depth : Nat} {s : MemberScope} {p : Property} {f : MemberFindings}

/-- The bounded walk ends within its bound. -/
theorem comesTo_memberFindings (hs : s.Fits c depth) :
    ComesTo c s p (memberFindings c depth s p) := by
  induction depth using Nat.strongRecOn generalizing s p with
  | ind depth ih =>
      fun_cases memberFindings c depth s p with
      | case1 _ s p _ faults hmarks => exact .malformed hmarks
      | case2 _ s p _ marks hmarks reason hreason => exact .ignored hmarks hreason
      | case3 _ s p _ marks hmarks hreason hembedded => exact .column hmarks hreason hembedded
      | case4 _ s p _ marks hmarks hreason embedded hembedded error htarget =>
          exact .untargeted hmarks hreason hembedded htarget
      | case5 s p _ marks hmarks hreason embedded hembedded target htarget =>
          have hdepth := hs.depth_pos htarget
          contradiction
      | case6 s p _ marks hmarks hreason embedded hembedded target htarget depth =>
          refine .embedded hmarks hreason hembedded htarget fun q _ => ?_
          exact ih depth (Nat.lt_succ_self depth) (hs.nested htarget embedded)

/-- What a property comes to is what the bounded walk finds. The induction is on the walk; the bound
falls with each struct that is embedded, and as none of them occurs twice it is never used up. -/
theorem ComesTo.eq_memberFindings (h : ComesTo c s p f) (hs : s.Fits c depth) :
    f = memberFindings c depth s p := by
  induction h generalizing depth with
  | malformed hmarks => simp only [memberFindings, hmarks]
  | ignored hmarks hreason => simp only [memberFindings, hmarks, hreason]
  | column hmarks hreason hembedded => simp only [memberFindings, hmarks, hreason, hembedded]
  | untargeted hmarks hreason hembedded htarget =>
      simp only [memberFindings, hmarks, hreason, hembedded, htarget]
  | @embedded s p marks embedded target inner hmarks hreason hembedded htarget _ ih =>
      obtain ⟨rest, rfl⟩ := Nat.exists_eq_add_one.mpr (hs.depth_pos htarget)
      have hinner : target.properties.map inner =
          target.properties.map (memberFindings c rest (s.nested p embedded target)) :=
        List.map_congr_left fun q hq => ih q hq (hs.nested htarget embedded)
      rw [memberFindings]
      simp only [hmarks, hreason, hembedded, htarget, hinner]

/-- **The walk ends**: a property comes to exactly one thing, which the bounded walk finds. -/
theorem comesTo_iff (hs : s.Fits c depth) : ComesTo c s p f ↔ f = memberFindings c depth s p := by
  constructor
  · exact fun h => h.eq_memberFindings hs
  · rintro rfl
    exact comesTo_memberFindings hs

end Walk

/-! ## chains of embeddings -/

/-- The property embeds the declaration: it is not left out, neither by its annotations nor among
those that are listed, its annotations are well formed, and its type is the declaration. -/
structure Property.Embeds (c : Catalog) (listed : List String) (p : Property)
    (target : Declaration) : Prop where
  unmarked : Mark.has IgnoreMark p.annotations = false
  unlisted : p.name ∉ listed
  info : ∃ info, Mark.find ColumnInfoMark p.annotations = .ok info
  key : ∃ key, Mark.find PrimaryKeyMark p.annotations = .ok key
  embedded : ∃ embedded, Mark.find EmbeddedMark p.annotations = .ok (some embedded)
  resolves : c.resolve? p.type = some target

/-- Embeddings lead from the property along the structs of these names to the declaration of the last
name. Only properties of the first struct can be listed as left out. -/
inductive Leads (c : Catalog) : List String → Property → List String → String → Prop where
  | here {listed : List String} {p : Property} {target : Declaration}
      (h : p.Embeds c listed target) : Leads c listed p [] target.qualifiedName
  | next {listed : List String} {p q : Property} {target : Declaration} {inner : List String}
      {last : String} (h : p.Embeds c listed target) (hstruct : target.isTrait = false)
      (hq : q ∈ target.properties) (rest : Leads c [] q inner last) :
      Leads c listed p (target.qualifiedName :: inner) last

/-- Embeddings lead from the struct along other declarations back to one on the way. -/
structure Declaration.EmbedsCycle (c : Catalog) (d : Declaration) (listed inner : List String)
    (last : String) : Prop where
  leads : ∃ p ∈ d.properties, Leads c listed p inner last
  returns : last ∈ d.qualifiedName :: inner

/-- The problems tell of the cycle. -/
def TellsCycle (problems : List Diagnostic) (names : List String) : Prop :=
  ∃ problem ∈ problems, problem.error = .resolution (.cyclicEmbedding names)

section Chains

variable {c : Catalog} {depth : Nat} {s : MemberScope} {p : Property}

/-- Embeddings that lead back to their way do so a first time. The induction is on the embeddings; the
way grows with each. -/
theorem Leads.first_return {listed inner : List String} {last : String} (h : Leads c listed p inner last)
    {chain : List String} (hchain : chain.Nodup) (hlast : last ∈ chain ++ inner) :
    ∃ inner' last', Leads c listed p inner' last' ∧ (chain ++ inner').Nodup ∧
      last' ∈ chain ++ inner' := by
  induction h generalizing chain with
  | @here listed p target h =>
      exact ⟨[], target.qualifiedName, .here h, by rwa [List.append_nil], hlast⟩
  | @next listed p q target inner last h hstruct hq rest ih =>
      by_cases hseen : target.qualifiedName ∈ chain
      · refine ⟨[], target.qualifiedName, .here h, ?_, ?_⟩
        · rwa [List.append_nil]
        · rwa [List.append_nil]
      · have hlonger : (chain ++ [target.qualifiedName]).Nodup :=
          hchain.append (List.nodup_singleton _) (by simpa using hseen)
        rw [List.append_cons] at hlast
        obtain ⟨inner', last', hleads, hnodup, hreturns⟩ := ih hlonger hlast
        rw [← List.append_cons] at hnodup hreturns
        exact ⟨target.qualifiedName :: inner', last', .next h hstruct hq hleads, hnodup, hreturns⟩

end Chains

/-! ## problems that are no cycles -/

/-- The names of the cycle that the error tells of. -/
def SpecError.cycle? : SpecError → Option (List String)
  | .resolution (.cyclicEmbedding names) => some names
  | _ => none

/-- The problem is not that embeddings lead back. -/
def Diagnostic.Acyclic (problem : Diagnostic) : Prop := problem.error.cycle? = none

section Acyclic

variable {c : Catalog} {problems problems' : List Diagnostic} {names : List String}

theorem not_tellsCycle (h : ∀ problem ∈ problems, problem.Acyclic) : ¬ TellsCycle problems names := by
  rintro ⟨problem, hproblem, herror⟩
  have hnone : problem.error.cycle? = none := h problem hproblem
  rw [herror] at hnone
  contradiction

theorem tellsCycle_append :
    TellsCycle (problems ++ problems') names ↔ TellsCycle problems names ∨ TellsCycle problems' names := by
  simp only [TellsCycle, List.mem_append, or_and_right, exists_or]

theorem tellsCycle_singleton {problem : Diagnostic} :
    TellsCycle [problem] names ↔ problem.error = .resolution (.cyclicEmbedding names) := by
  simp only [TellsCycle, List.mem_singleton, exists_eq_left]

theorem tellsCycle_concat {f : Property → MemberFindings} {ps : List Property} :
    TellsCycle (MemberFindings.concat (ps.map f)).diagnostics names ↔
      ∃ p ∈ ps, TellsCycle (f p).diagnostics names := by
  simp only [TellsCycle, MemberFindings.concat, List.mem_flatMap, List.mem_map]
  grind

/-- Plain problems tell of no cycle, and neither does an entity that failed. -/
theorem admits_acyclic (c : Catalog) (owner : String) : Diagnostic.Admits c owner Diagnostic.Acyclic where
  plain {anchor error} _ hplain := by
    change error.cycle? = none
    unfold SpecError.cycle?
    split
    · contradiction
    · rfl
  failed _ _ _ _ := rfl

end Acyclic

/-! ## what the walk reports -/

/-- The properties of the scope that are listed as left out. -/
def MemberScope.listed (s : MemberScope) : List String :=
  match s.path with
  | none => s.ignored
  | some _ => []

section Reports

variable {c : Catalog} {depth : Nat} {s : MemberScope} {p : Property} {names : List String}

theorem marks_of_find {info : Option ColumnInfoMark} {key : Option PrimaryKeyMark}
    {embedded : Option EmbeddedMark} (anchor : String)
    (hinfo : Mark.find ColumnInfoMark p.annotations = .ok info)
    (hkey : Mark.find PrimaryKeyMark p.annotations = .ok key)
    (hembedded : Mark.find EmbeddedMark p.annotations = .ok embedded) :
    p.marks anchor = .ok ⟨info.getD {}, key, embedded⟩ := by
  unfold Property.marks readMark
  rw [hinfo, hkey, hembedded]
  rfl

/-- Marks are well formed that are read. -/
theorem find_of_marks {anchor : String} {marks : PropertyMarks} (h : p.marks anchor = .ok marks) :
    (∃ info, Mark.find ColumnInfoMark p.annotations = .ok info) ∧
      Mark.find PrimaryKeyMark p.annotations = .ok marks.key ∧
      Mark.find EmbeddedMark p.annotations = .ok marks.embedded := by
  unfold Property.marks readMark at h
  cases hinfo : Mark.find ColumnInfoMark p.annotations <;>
    cases hkey : Mark.find PrimaryKeyMark p.annotations <;>
    cases hembedded : Mark.find EmbeddedMark p.annotations <;>
    rw [hinfo, hkey, hembedded] at h <;> cases h
  exact ⟨⟨_, rfl⟩, rfl, rfl⟩

theorem ignoreReason?_eq_none_iff :
    s.ignoreReason? p = none ↔ Mark.has IgnoreMark p.annotations = false ∧ p.name ∉ s.listed := by
  unfold MemberScope.ignoreReason? MemberScope.listed
  cases s.path with
  | none => by_cases hmark : Mark.has IgnoreMark p.annotations = true <;> simp [hmark]
  | some path => simp

/-- A property embeds a declaration iff the walk gets as far as to look the declaration up. -/
theorem embeds_iff {target : Declaration} :
    p.Embeds c s.listed target ↔ ∃ marks embedded, p.marks (s.anchorOf p) = .ok marks ∧
      s.ignoreReason? p = none ∧ marks.embedded = some embedded ∧ c.resolve? p.type = some target := by
  constructor
  · rintro ⟨hunmarked, hunlisted, ⟨info, hinfo⟩, ⟨key, hkey⟩, ⟨embedded, hembedded⟩, hresolves⟩
    exact ⟨_, embedded, marks_of_find _ hinfo hkey hembedded,
      ignoreReason?_eq_none_iff.mpr ⟨hunmarked, hunlisted⟩, rfl, hresolves⟩
  · rintro ⟨marks, embedded, hmarks, hreason, hembedded, hresolves⟩
    obtain ⟨hinfo, hkey, hfound⟩ := find_of_marks hmarks
    obtain ⟨hunmarked, hunlisted⟩ := ignoreReason?_eq_none_iff.mp hreason
    rw [hembedded] at hfound
    exact ⟨hunmarked, hunlisted, hinfo, ⟨_, hkey⟩, ⟨_, hfound⟩, hresolves⟩

/-- From the chain of structs around a property, embeddings lead along further structs back to a struct
of the way, and to none before: the way has these names. -/
def Returns (c : Catalog) (chain listed : List String) (p : Property) (names : List String) : Prop :=
  ∃ inner last, Leads c listed p inner last ∧ (chain ++ inner).Nodup ∧ last ∈ chain ++ inner ∧
    names = chain ++ inner ++ [last]

theorem Returns.embeds {chain listed : List String} (h : Returns c chain listed p names) :
    ∃ target, p.Embeds c listed target := by
  obtain ⟨inner, last, hleads, -⟩ := h
  cases hleads with
  | here h => exact ⟨_, h⟩
  | next h => exact ⟨_, h⟩

theorem Property.Embeds.unique {listed : List String} {target target' : Declaration}
    (h : p.Embeds c listed target) (h' : p.Embeds c listed target') : target = target' :=
  Option.some.inj (h.resolves.symm.trans h'.resolves)

/-- One step of embeddings: they lead back at once, or from a property of the struct. -/
theorem returns_iff {chain listed : List String} {target : Declaration}
    (h : p.Embeds c listed target) (hchain : chain.Nodup) :
    Returns c chain listed p names ↔
      if target.qualifiedName ∈ chain then names = chain ++ [target.qualifiedName]
      else target.isTrait = false ∧ ∃ q ∈ target.properties,
        Returns c (chain ++ [target.qualifiedName]) [] q names := by
  by_cases hseen : target.qualifiedName ∈ chain
  · rw [if_pos hseen]
    constructor
    · rintro ⟨inner, last, hleads, hnodup, -, rfl⟩
      cases hleads with
      | here h' => rw [h.unique h', List.append_nil]
      | next h' =>
          rw [h.unique h'] at hseen
          have happart := List.disjoint_of_nodup_append hnodup
          exact absurd List.mem_cons_self (happart hseen)
    · rintro rfl
      refine ⟨[], target.qualifiedName, .here h, ?_, ?_, ?_⟩ <;> rw [List.append_nil] <;> assumption
  · rw [if_neg hseen]
    constructor
    · rintro ⟨inner, last, hleads, hnodup, hreturns, rfl⟩
      cases hleads with
      | here h' =>
          rw [h.unique h', ← List.append_nil chain] at hseen
          contradiction
      | @next _ _ q target' inner _ h' hstruct hq rest =>
          obtain rfl := h.unique h'
          have hway := List.append_cons chain target.qualifiedName inner
          rw [hway] at hnodup hreturns ⊢
          exact ⟨hstruct, q, hq, inner, last, rest, hnodup, hreturns, rfl⟩
    · rintro ⟨hstruct, q, hq, inner, last, rest, hnodup, hreturns, rfl⟩
      refine ⟨target.qualifiedName :: inner, last, .next h hstruct hq rest, ?_⟩
      rw [List.append_cons chain]
      exact ⟨hnodup, hreturns, rfl⟩

theorem embeddedTarget_of_resolves {target : Declaration} (h : c.resolve? p.type = some target) :
    embeddedTarget c s p =
      if target.qualifiedName ∈ s.chain then
        .error (.resolution (.cyclicEmbedding (s.chain ++ [target.qualifiedName])))
      else if target.isTrait then .error (.validation (.notAStruct target.qualifiedName))
      else .ok target := by
  unfold embeddedTarget
  rw [h]
  simp only [List.contains_iff_mem]

theorem resolves_of_embeddedTarget {target : Declaration} (h : embeddedTarget c s p = .ok target) :
    c.resolve? p.type = some target ∧ target.isTrait = false ∧ target.qualifiedName ∉ s.chain := by
  cases hresolves : c.resolve? p.type with
  | none => simp [embeddedTarget, hresolves] at h
  | some found =>
      rw [embeddedTarget_of_resolves hresolves] at h
      split at h
      · contradiction
      next hnew =>
      split at h
      · contradiction
      next hstruct =>
      cases h
      exact ⟨rfl, Bool.eq_false_iff.mpr hstruct, hnew⟩

/-- Where the walk looks no declaration up, it reports no cycle. -/
theorem tellsCycle_iff_of_not_embeds {problems : List Diagnostic}
    (hacyclic : ∀ problem ∈ problems, problem.Acyclic)
    (hnone : ∀ target, ¬ p.Embeds c s.listed target) :
    TellsCycle problems names ↔ Returns c s.chain s.listed p names := by
  constructor
  · exact fun h => absurd h (not_tellsCycle hacyclic)
  · intro h
    obtain ⟨target, htarget⟩ := h.embeds
    exact absurd htarget (hnone target)

/-- Where the walk may not embed the declaration, it reports a cycle iff the declaration is on the way. -/
theorem tellsCycle_untargeted_iff {marks : PropertyMarks} {embedded : EmbeddedMark} {error : SpecError}
    (hmarks : p.marks (s.anchorOf p) = .ok marks) (hreason : s.ignoreReason? p = none)
    (hembedded : marks.embedded = some embedded) (htarget : embeddedTarget c s p = .error error)
    (hnodup : s.chain.Nodup) :
    TellsCycle (MemberFindings.problem (s.anchorOf p) error).diagnostics names ↔
      Returns c s.chain s.listed p names := by
  cases hresolves : c.resolve? p.type with
  | none =>
      have herror : error = .resolution (.unresolvedType p.type.source) := by
        simpa [embeddedTarget, hresolves, eq_comm] using htarget
      rw [herror]
      refine tellsCycle_iff_of_not_embeds (List.forall_mem_singleton.mpr rfl) fun target hembeds => ?_
      rw [hembeds.resolves] at hresolves
      contradiction
  | some target =>
      have hembeds := embeds_iff.mpr ⟨marks, embedded, hmarks, hreason, hembedded, hresolves⟩
      rw [returns_iff hembeds hnodup, MemberFindings.problem, tellsCycle_singleton]
      rw [embeddedTarget_of_resolves hresolves] at htarget
      split at htarget
      · next hseen =>
        cases htarget
        simp [hseen, eq_comm]
      split at htarget
      · next hseen htrait =>
        cases htarget
        simp [hseen, htrait]
      · contradiction

/-- **Cycles that the walk reports** are those that embeddings come to, each the first time. The
induction is on the bound, of which an embedded struct takes one. -/
theorem tellsCycle_memberFindings_iff (hs : s.Fits c depth) :
    TellsCycle (memberFindings c depth s p).diagnostics names ↔
      Returns c s.chain s.listed p names := by
  induction depth using Nat.strongRecOn generalizing s p with
  | ind depth ih =>
      fun_cases memberFindings c depth s p with
      | case1 _ s p _ faults hmarks =>
          refine tellsCycle_iff_of_not_embeds ?_ fun target htarget => ?_
          · exact (admits_acyclic c _).marks (Diagnostic.anchors_self _) hmarks
          obtain ⟨marks, _, hmarks', -⟩ := embeds_iff.mp htarget
          rw [hmarks] at hmarks'
          contradiction
      | case2 _ s p _ marks hmarks reason hreason =>
          refine tellsCycle_iff_of_not_embeds ?_ fun target htarget => ?_
          · unfold ignoredMember
            split
            · exact List.forall_mem_singleton.mpr rfl
            · exact List.forall_mem_nil _
          · obtain ⟨_, _, -, hreason', -⟩ := embeds_iff.mp htarget
            rw [hreason] at hreason'
            contradiction
      | case3 _ s p _ marks hmarks hreason hembedded =>
          refine tellsCycle_iff_of_not_embeds ?_ fun target htarget => ?_
          · unfold columnMember
            split
            · exact List.forall_mem_singleton.mpr rfl
            · exact List.forall_mem_nil _
          · obtain ⟨_, _, hmarks', -, hembedded', -⟩ := embeds_iff.mp htarget
            rw [hmarks] at hmarks'
            cases hmarks'
            rw [hembedded] at hembedded'
            contradiction
      | case4 _ s p _ marks hmarks hreason embedded hembedded error htarget =>
          exact tellsCycle_untargeted_iff hmarks hreason hembedded htarget hs.nodup
      | case5 s p _ marks hmarks hreason embedded hembedded target htarget =>
          have hdepth := hs.depth_pos htarget
          contradiction
      | case6 s p _ marks hmarks hreason embedded hembedded target htarget depth =>
          have hnested := hs.nested htarget embedded
          obtain ⟨hresolves, hstruct, hnew⟩ := resolves_of_embeddedTarget htarget
          have hembeds := embeds_iff.mpr ⟨marks, embedded, hmarks, hreason, hembedded, hresolves⟩
          have hinner (q : Property) := ih depth (Nat.lt_succ_self depth) hnested (p := q)
          have hbuilt (required : List String) (anchor : String) :=
            (admits_acyclic c anchor).construction target required (Diagnostic.anchors_self anchor)
          rw [returns_iff hembeds hs.nodup, if_neg hnew, embeddedMember, tellsCycle_append,
            tellsCycle_concat, or_iff_left (not_tellsCycle (hbuilt _ _))]
          simp only [hinner, hstruct, true_and]
          rfl

end Reports

/-! ## entities -/

section Entities

variable {c : Catalog} {d : Declaration} {record : EntityMark} {names : List String}

/-- The scope of an entity's own properties. -/
def Declaration.memberScope (d : Declaration) (record : EntityMark) : MemberScope :=
  { entity := d.qualifiedName, ignored := record.ignoredColumns, chain := [d.qualifiedName] }

/-- The problems are those of the properties of the entity, among others that tell of no cycle. -/
def HoldsFindings (c : Catalog) (d : Declaration) (record : EntityMark) (problems : List Diagnostic) :
    Prop :=
  ∃ before after, problems = before ++ (c.findings d record).diagnostics ++ after ∧
    (∀ problem ∈ before, problem.Acyclic) ∧ ∀ problem ∈ after, problem.Acyclic

theorem holdsFindings_shapeOf : HoldsFindings c d record (problemsOf (c.shapeOf d record)) := by
  unfold Catalog.shapeOf
  extract_lets owner unknown scope findings stored
  split
  next construction constructionFaults hconstruction =>
  extract_lets entity duplicates key keyed
  split
  next indices indexFaults hindices =>
  have hunknown : ∀ problem ∈ unknown, problem.Acyclic :=
    List.forall_mem_map.mpr fun name _ => rfl
  have hbuilt := (admits_acyclic c owner).construction d stored (Diagnostic.anchors_self owner)
  rw [hconstruction] at hbuilt
  have hduplicates : ∀ problem ∈ duplicates, problem.Acyclic :=
    List.forall_mem_map.mpr fun name _ => rfl
  have hkey : ∀ problem ∈ key.found, problem.Acyclic :=
    (admits_acyclic c entity.declaration).resolvePrimaryKey (raised_findings c d record).keys
  have hindexed := (admits_acyclic c keyed.declaration).resolveIndices record
  rw [hindices] at hindexed
  have hall : HoldsFindings c d record (unknown ++ findings.diagnostics ++ constructionFaults ++
      duplicates ++ key.found ++ indexFaults) := by
    refine ⟨unknown, constructionFaults ++ duplicates ++ key.found ++ indexFaults, ?_, hunknown, ?_⟩
    · simp only [List.append_assoc]
      rfl
    · simp only [List.forall_mem_append]
      exact ⟨⟨⟨hbuilt, hduplicates⟩, hkey⟩, hindexed⟩
  split
  · next hnone =>
    rw [hnone] at hall
    exact hall
  · exact hall

theorem holdsFindings_entityOf (hstruct : d.isTrait = false)
    (hrecord : Mark.find EntityMark d.annotations = .ok (some record)) :
    HoldsFindings c d record (problemsOf (c.entityOf d)) := by
  have hshapeOf : c.entityShape d = c.shapeOf d record := by
    unfold Catalog.entityShape
    rw [hstruct, hrecord]
    rfl
  have hholds : HoldsFindings c d record (problemsOf (c.shapeOf d record)) := holdsFindings_shapeOf
  rw [← hshapeOf] at hholds
  cases hshape : c.entityShape d with
  | error problems =>
      rw [entityOf_of_entityShape_error hshape]
      rwa [hshape] at hholds
  | ok shape =>
      -- only the foreign keys can be wrong
      have hclean : (c.findings d record).diagnostics = [] :=
        (shapedBy_of_shapeOf (hshapeOf.symm.trans hshape)).clean
      cases hentity : c.entityOf d with
      | ok e =>
          rw [hshape] at hholds
          exact hholds
      | error problems =>
          have hacyclic : ∀ problem ∈ problems, problem.Acyclic :=
            Checked.Finds.of_toExcept
              (CheckedT.finds_all fun mark _ => (admits_acyclic c shape.declaration).foreignKey)
              (foreignKeys_of_entityOf_error hshape hentity)
          refine ⟨[], problems, ?_, List.forall_mem_nil _, hacyclic⟩
          rw [hclean]
          rfl

theorem HoldsFindings.subset {problems : List Diagnostic} (h : HoldsFindings c d record problems) :
    (c.findings d record).diagnostics ⊆ problems := by
  obtain ⟨before, after, rfl, -⟩ := h
  exact fun problem hproblem => List.mem_append_left _ (List.mem_append_right _ hproblem)

theorem HoldsFindings.tellsCycle_iff {problems : List Diagnostic}
    (h : HoldsFindings c d record problems) :
    TellsCycle problems names ↔ TellsCycle (c.findings d record).diagnostics names := by
  obtain ⟨before, after, rfl, hbefore, hafter⟩ := h
  simp only [tellsCycle_append, not_tellsCycle hbefore, not_tellsCycle hafter, false_or, or_false]

/-- Of the properties of an entity the cycles that are reported begin with it. -/
theorem tellsCycle_findings_iff (hd : d ∈ c.declarations) :
    TellsCycle (c.findings d record).diagnostics names ↔
      ∃ inner last, d.EmbedsCycle c record.ignoredColumns inner last ∧
        (d.qualifiedName :: inner).Nodup ∧ names = d.qualifiedName :: inner ++ [last] := by
  have hfits := MemberScope.fits_entity hd record
  rw [Catalog.findings, tellsCycle_concat]
  simp only [tellsCycle_memberFindings_iff hfits]
  constructor
  · rintro ⟨p, hp, inner, last, hleads, hnodup, hreturns, hnames⟩
    exact ⟨inner, last, ⟨⟨p, hp, hleads⟩, hreturns⟩, hnodup, hnames⟩
  · rintro ⟨inner, last, ⟨⟨p, hp, hleads⟩, hreturns⟩, hnodup, hnames⟩
    exact ⟨p, hp, inner, last, hleads, hnodup, hreturns, hnames⟩

/-- Where there is a cycle, one is reported. -/
theorem Declaration.EmbedsCycle.first_return {listed inner : List String} {last : String}
    (h : d.EmbedsCycle c listed inner last) :
    ∃ inner' last', d.EmbedsCycle c listed inner' last' ∧ (d.qualifiedName :: inner').Nodup := by
  obtain ⟨⟨p, hp, hleads⟩, hreturns⟩ := h
  obtain ⟨inner', last', hleads', hnodup, hreturns'⟩ :=
    hleads.first_return (List.nodup_singleton d.qualifiedName) hreturns
  exact ⟨inner', last', ⟨⟨p, hp, hleads'⟩, hreturns'⟩, hnodup⟩

end Entities

/-! ## runs -/

/-- What the problems of an entity tell of its cycles: that there is one, if there is; each of them
that goes round once; and the way, joined by arrows. -/
structure TellsCycles (c : Catalog) (d : Declaration) (listed : List String)
    (problems : List Diagnostic) : Prop where
  detected : (∃ names, TellsCycle problems names) ↔ ∃ inner last, d.EmbedsCycle c listed inner last
  exact : ∀ names, TellsCycle problems names ↔ ∃ inner last, d.EmbedsCycle c listed inner last ∧
    (d.qualifiedName :: inner).Nodup ∧ names = d.qualifiedName :: inner ++ [last]
  text : ∀ problem ∈ problems, ∀ names, problem.error = .resolution (.cyclicEmbedding names) →
    problem.error.message = "resolution error: cyclic embedding: " ++ " -> ".intercalate names

theorem tellsCycles_entityOf {c : Catalog} {d : Declaration} {record : EntityMark}
    (hd : d ∈ c.declarations) (hstruct : d.isTrait = false)
    (hrecord : Mark.find EntityMark d.annotations = .ok (some record)) :
    TellsCycles c d record.ignoredColumns (problemsOf (c.entityOf d)) := by
  have hholds := holdsFindings_entityOf (c := c) hstruct hrecord
  have hexact (names : List String) :
      TellsCycle (problemsOf (c.entityOf d)) names ↔ _ :=
    hholds.tellsCycle_iff.trans (tellsCycle_findings_iff hd)
  refine ⟨⟨?_, ?_⟩, hexact, ?_⟩
  · rintro ⟨names, hnames⟩
    obtain ⟨inner, last, hcycle, -⟩ := (hexact names).mp hnames
    exact ⟨inner, last, hcycle⟩
  · rintro ⟨inner, last, hcycle⟩
    obtain ⟨inner', last', hcycle', hnodup⟩ := hcycle.first_return
    exact ⟨_, (hexact _).mpr ⟨inner', last', hcycle', hnodup, rfl⟩⟩
  · intro problem _ names herror
    rw [herror]
    rfl

namespace Call

/-- **Cycles of embeddings are detected**: for a struct that is marked as an entity, and well, the walk
over its properties ends, and the reply of a run, whatever it was asked before, tells of the cycles that
embeddings come to from the struct. -/
theorem embedding_cycles {c : Catalog} {d : Declaration} {record : EntityMark} {calls : List Call}
    {reply : Reply} (hd : d ∈ c.declarations) (hstruct : d.isTrait = false)
    (hrecord : Mark.find EntityMark d.annotations = .ok (some record))
    (hreply : (.entity d.qualifiedName, reply) ∈
      calls.zip ((calls.mapM (Call.answer c)).run {}).run.1) :
    ∃ answer, reply = .entity answer ∧
      (∃ found : Property → MemberFindings,
        (∀ p ∈ d.properties, ∀ f, ComesTo c (d.memberScope record) p f ↔ f = found p) ∧
          (MemberFindings.concat (d.properties.map found)).diagnostics ⊆ problemsOf answer) ∧
      TellsCycles c d record.ignoredColumns (problemsOf answer) := by
  have hagrees := (List.forall₂_iff_zip.mp (answers_agree (c := c) calls)).2 hreply
  rw [fresh_entity, Catalog.entity, Catalog.lookup_qualifiedName hd] at hagrees
  cases reply with
  | entity answer =>
      obtain rfl : answer = c.entityOf d := hagrees
      have hfits : MemberScope.Fits c c.size (d.memberScope record) := MemberScope.fits_entity hd record
      have hholds := holdsFindings_entityOf (c := c) hstruct hrecord
      exact ⟨_, rfl, ⟨_, fun p _ f => comesTo_iff hfits, hholds.subset⟩,
        tellsCycles_entityOf hd hstruct hrecord⟩
  | compound => contradiction
  | dao => contradiction
  | database => contradiction

/-- An order of a part, which comes in a box of parts. The order leaves out the one before it. -/
def partOrder : Declaration where
  qualifiedName := "app::Order"
  annotations := [{ name := "Entity" }]
  properties :=
    [{ name := "id", type := .ofName "i64", annotations := [{ name := "PrimaryKey" }] },
      { name := "part", type := .ofName "app::Part", annotations := [{ name := "Embedded" }] },
      { name := "before"
        type := .ofName "app::Order"
        annotations := [{ name := "Embedded" }, { name := "Ignore" }] }]

/-- Orders, and parts and boxes that embed each other. -/
def partCatalog : Catalog where
  declarations :=
    [{ qualifiedName := "app::Part"
       properties :=
        [{ name := "name", type := .ofName "String" },
          { name := "box", type := .ofName "app::Box", annotations := [{ name := "Embedded" }] }] },
      { qualifiedName := "app::Box"
        properties :=
          [{ name := "inner", type := .ofName "Part", annotations := [{ name := "Embedded" }] }] },
      partOrder]
  nodup := by decide

/-- The order has one cycle, which does not lead back to the order. -/
theorem embedding_cycles_order :
    ∃ answer, (.entity "app::Order", .entity answer) ∈ [Call.entity "app::Order"].zip
        (([Call.entity "app::Order"].mapM (Call.answer partCatalog)).run {}).run.1 ∧
      TellsCycles partCatalog partOrder [] (problemsOf answer) ∧
      TellsCycle (problemsOf answer) ["app::Order", "app::Part", "app::Box", "app::Part"] ∧
      ¬ TellsCycle (problemsOf answer) ["app::Order", "app::Order"] := by
  have hproblems : problemsOf ((partCatalog.byName (Session.entity partCatalog) "app::Order").run
      {}).run.1 = [⟨"app::Order::part.box.inner", .resolution (.cyclicEmbedding
        ["app::Order", "app::Part", "app::Box", "app::Part"])⟩] := by
    decide +kernel
  have hrecord : Mark.find EntityMark partOrder.annotations = .ok (some {}) := by decide
  have hreply : (Call.entity "app::Order", Reply.entity ((partCatalog.byName
      (Session.entity partCatalog) "app::Order").run {}).run.1) ∈ [Call.entity "app::Order"].zip
        (([Call.entity "app::Order"].mapM (Call.answer partCatalog)).run {}).run.1 := by
    rw [replies_entity]
    exact List.mem_singleton_self _
  obtain ⟨answer, hanswer, -, hcycles⟩ :=
    embedding_cycles (d := partOrder) (by decide) (by decide) hrecord hreply
  cases hanswer
  refine ⟨_, hreply, hcycles, ?_⟩
  rw [hproblems]
  simp [tellsCycle_singleton]

end Call

end DaoForge
