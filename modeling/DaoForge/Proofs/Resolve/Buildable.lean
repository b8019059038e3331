import DaoForge.Proofs.Resolve.Consistent
import DaoForge.Proofs.Resolve.Row
import DaoForge.Proofs.Unit.Faults
import Mathlib.Data.List.Perm.Subperm

/-!
# DaoForge.Proofs.Resolve.Buildable

What resolves can be built.

1. `MemberScope.Fits`: along the embeddings no struct occurs twice, so that the depth is enough; every
   property then comes to one member, which can be built (`one_of_memberFindings`);
2. `buildable_of_mem_schema`: entities can be built whose structs have no two properties of one name. A
   constructor would take the first of them, which need not be the one that is stored;
3. `buildable_of_daoFindings`: so can DAOs.
-/

namespace DaoForge

/-- As in any struct, the properties have distinct names. -/
def Catalog.PropertiesDistinct (c : Catalog) : Prop :=
  ∀ d ∈ c.declarations, d.isTrait = false → (d.properties.map Property.name).Nodup

/-! ## constructions -/

section Constructions

/-- Of members with distinct properties each is the first of its own. -/
theorem Member.find?_property {members : List Member}
    (hnodup : (members.map Member.property).Nodup) {m : Member} (hm : m ∈ members) :
    members.find? (fun m' => m'.property == m.property) = some m := by
  have hsome : (members.find? fun m' => m'.property == m.property).isSome = true :=
    List.find?_isSome.mpr ⟨m, hm, beq_self_eq_true m.property⟩
  obtain ⟨found, hfound⟩ := Option.isSome_iff_exists.mp hsome
  have hproperty : found.property = m.property := by simpa using List.find?_some hfound
  rw [hfound, List.inj_on_of_nodup_map hnodup (List.mem_of_find?_eq_some hfound) hm hproperty]

/-- A construction that nothing is wrong with takes the members of its struct. -/
theorem covers_of_construction {d : Declaration} {members : List Member} {anchor : String}
    {construction : Construction}
    (h : d.construction ((members.filter Member.isStored).map Member.property) anchor =
      (construction, []))
    (hmembers : members.map Member.property = d.properties.map Property.name)
    (hnodup : (d.properties.map Property.name).Nodup) : construction.Covers members := by
  rw [← hmembers] at hnodup
  intro parameter hparameter
  obtain ⟨hfunction, hparameters⟩ | ⟨-, hrequired⟩ := construction_cases h
  · rw [hparameters, ← hmembers] at hparameter
    obtain ⟨m, hm, rfl⟩ := List.mem_map.mp hparameter
    exact ⟨m, Member.find?_property hnodup hm, fun hsome => by simp [hfunction] at hsome⟩
  · obtain ⟨m, hm, rfl⟩ := List.mem_map.mp ((hrequired parameter).mp hparameter)
    obtain ⟨hmem, hstored⟩ := List.mem_filter.mp hm
    exact ⟨m, Member.find?_property hnodup hmem, fun _ => hstored⟩

theorem Construction.Covers.markKeyAll {c : Construction} {members : List Member}
    (h : c.Covers members) (names : List String) :
    c.Covers (Member.markKeyAll names members) := by
  intro parameter hparameter
  obtain ⟨m, hfind, hstored⟩ := h parameter hparameter
  have hsame : (fun m : Member => m.property == parameter) ∘ Member.markKey names =
      fun m => m.property == parameter :=
    funext fun m => by rw [Function.comp_apply, Member.property_markKey]
  refine ⟨m.markKey names, ?_, fun hfunction => ?_⟩
  · rw [Member.markKeyAll_eq_map, List.find?_map, hsame, hfind, Option.map_some]
  · rw [Member.isStored_markKey]
    exact hstored hfunction

theorem Member.Buildable.markKey {m : Member} (h : m.Buildable) (names : List String) :
    (m.markKey names).Buildable := by
  induction h with
  | @column column mapped =>
      refine .column fun hstored => ?_
      rw [← Column.flagged] at hstored ⊢
      rw [Column.flagged_isStored] at hstored
      rw [flagged_mapping]
      exact mapped hstored
  | @embedded e members covers _ ih =>
      refine .embedded (covers.markKeyAll names) ?_
      rw [Member.markKeyAll_eq_map, List.forall_mem_map]
      exact ih

end Constructions

/-! ## members -/

/-- The structs around the scope are declared and distinct, and the depth is enough for all others. -/
structure MemberScope.Fits (c : Catalog) (depth : Nat) (s : MemberScope) : Prop where
  nodup : s.chain.Nodup
  declared : s.chain ⊆ c.declarations.map Declaration.qualifiedName
  depth : s.chain.length + depth = c.size + 1

section Members

variable {c : Catalog} {depth : Nat} {s : MemberScope} {p : Property} {target : Declaration}

/-- A struct that can be embedded is another one than those around the property. -/
theorem of_embeddedTarget (h : embeddedTarget c s p = .ok target) :
    target ∈ c.declarations ∧ target.isTrait = false ∧ target.qualifiedName ∉ s.chain := by
  unfold embeddedTarget at h
  split at h
  · contradiction
  next found hfound =>
  split at h
  · contradiction
  next hchain =>
  split at h
  · contradiction
  next htrait =>
  cases h
  exact ⟨Catalog.mem_of_resolve? hfound, Bool.eq_false_iff.mpr htrait, by simpa using hchain⟩

namespace MemberScope.Fits

theorem chain_nested (hs : s.Fits c depth) (h : embeddedTarget c s p = .ok target) :
    (s.chain ++ [target.qualifiedName]).Nodup ∧
      s.chain ++ [target.qualifiedName] ⊆ c.declarations.map Declaration.qualifiedName := by
  obtain ⟨hmem, -, hnew⟩ := of_embeddedTarget h
  constructor
  · exact hs.nodup.append (List.nodup_singleton _) (by simpa using hnew)
  · refine List.append_subset.mpr ⟨hs.declared, ?_⟩
    exact List.cons_subset.mpr ⟨List.mem_map_of_mem hmem, List.nil_subset _⟩

/-- Where a struct can be embedded, some depth is left. -/
theorem depth_pos (hs : s.Fits c depth) (h : embeddedTarget c s p = .ok target) : 0 < depth := by
  obtain ⟨hnodup, hsubset⟩ := hs.chain_nested h
  have hlength := (hnodup.subperm hsubset).length_le
  rw [List.length_append, List.length_singleton, List.length_map] at hlength
  have hdepth := hs.depth
  rw [Catalog.size] at hdepth
  omega

theorem nested (hs : s.Fits c (depth + 1)) (h : embeddedTarget c s p = .ok target)
    (embedded : EmbeddedMark) : (s.nested p embedded target).Fits c depth := by
  obtain ⟨hnodup, hsubset⟩ := hs.chain_nested h
  refine ⟨hnodup, hsubset, ?_⟩
  have hdepth := hs.depth
  rw [MemberScope.nested, List.length_append, List.length_singleton]
  omega

end MemberScope.Fits

/-- The depth is enough for a struct of its own. -/
theorem MemberScope.fits_entity {d : Declaration} (hd : d ∈ c.declarations) (record : EntityMark) :
    MemberScope.Fits c c.size
      { entity := d.qualifiedName, ignored := record.ignoredColumns, chain := [d.qualifiedName] } where
  nodup := List.nodup_singleton _
  declared := List.cons_subset.mpr ⟨List.mem_map_of_mem hd, List.nil_subset _⟩
  depth := Nat.add_comm 1 c.size

theorem ne_nil_of_marks {anchor : String} {faults : List Diagnostic}
    (h : p.marks anchor = .error faults) : faults ≠ [] := by
  revert h
  fun_cases Property.marks p anchor with
  | case1 => exact fun h => nomatch h
  | case2 _ _ _ _ _ _ _ _ _ hsome =>
      rintro ⟨⟩
      exact hsome

/-- The property came to one member, and the member can be built. -/
def MemberFindings.One (f : MemberFindings) (p : Property) : Prop :=
  ∃ m, f.members = [m] ∧ m.property = p.name ∧ m.Buildable

/-- The members of several properties are one for each. -/
theorem members_of_concat {f : Property → MemberFindings} {ps : List Property}
    (h : ∀ p ∈ ps, (f p).One p) :
    (MemberFindings.concat (ps.map f)).members.map Member.property = ps.map Property.name ∧
      ∀ m ∈ (MemberFindings.concat (ps.map f)).members, m.Buildable := by
  induction ps with
  | nil => exact ⟨rfl, by simp [MemberFindings.concat]⟩
  | cons p ps ih =>
      obtain ⟨⟨m, hmembers, hproperty, hbuildable⟩, hrest⟩ := List.forall_mem_cons.mp h
      obtain ⟨hproperties, hall⟩ := ih hrest
      have hsplit : (MemberFindings.concat ((p :: ps).map f)).members =
          m :: (MemberFindings.concat (ps.map f)).members := by
        rw [MemberFindings.concat, List.map_cons, List.flatMap_cons, hmembers]
        rfl
      rw [hsplit, List.map_cons, hproperty, hproperties]
      exact ⟨rfl, List.forall_mem_cons.mpr ⟨hbuildable, hall⟩⟩

theorem clean_of_concat {f : Property → MemberFindings} {ps : List Property}
    (h : (MemberFindings.concat (ps.map f)).diagnostics = []) :
    ∀ p ∈ ps, (f p).diagnostics = [] :=
  fun p hp => List.flatMap_eq_nil_iff.mp h (f p) (List.mem_map_of_mem hp)

/-- An embedded property of a struct all of whose properties came to one member. -/
theorem one_of_embeddedMember {marks : PropertyMarks} {embedded : EmbeddedMark}
    {inner : MemberFindings}
    (hclean : (embeddedMember s p marks embedded target inner).diagnostics = [])
    (hproperties : inner.members.map Member.property = target.properties.map Property.name)
    (hnodup : (target.properties.map Property.name).Nodup)
    (hbuildable : ∀ m ∈ inner.members, m.Buildable) :
    (embeddedMember s p marks embedded target inner).One p := by
  obtain ⟨-, hfaults⟩ := List.append_eq_nil_iff.mp hclean
  refine ⟨_, rfl, rfl, .embedded ?_ hbuildable⟩
  exact covers_of_construction (Prod.ext rfl hfaults) hproperties hnodup

/-- Without a problem a property comes to one member that can be built, however deep it embeds. -/
theorem one_of_memberFindings (hnames : c.PropertiesDistinct) (depth : Nat) (s : MemberScope)
    (p : Property) : (memberFindings c depth s p).diagnostics = [] → s.Fits c depth →
      (memberFindings c depth s p).One p := by
  induction depth, s, p using memberFindings_induction (c := c) with
  | malformed depth s p faults hmarks =>
      exact fun hclean => absurd hclean (ne_nil_of_marks hmarks)
  | ignored depth s p marks reason =>
      intro hclean _
      unfold ignoredMember at hclean ⊢
      split at hclean
      · contradiction
      · next hkey =>
        rw [if_neg hkey]
        exact ⟨_, rfl, rfl, .column fun hstored => nomatch hstored⟩
  | column depth s p marks =>
      intro hclean _
      unfold columnMember at hclean ⊢
      split at hclean
      · contradiction
      · exact ⟨_, rfl, rfl, .column fun _ => rfl⟩
  | untargeted depth s p error htarget => exact fun hclean => nomatch hclean
  | exhausted s p target htarget =>
      exact fun _ hs => absurd (hs.depth_pos htarget) (Nat.lt_irrefl 0)
  | embedded depth s p marks embedded target htarget ih =>
      intro hclean hs
      obtain ⟨hmem, htrait, -⟩ := of_embeddedTarget htarget
      have hinner := clean_of_concat (List.append_eq_nil_iff.mp hclean).1
      obtain ⟨hproperties, hbuildable⟩ := members_of_concat fun q hq =>
        ih q hq (hinner q hq) (hs.nested htarget embedded)
      exact one_of_embeddedMember hclean hproperties (hnames target hmem htrait) hbuildable

end Members

/-! ## entities -/

section Entities

variable {c : Catalog} (hnames : c.PropertiesDistinct) {d : Declaration} (hd : d ∈ c.declarations)
  {e : Entity}

include hnames hd in
theorem buildable_of_entityShape (h : c.entityShape d = .ok e) : e.Buildable := by
  obtain ⟨htrait, record, -, hshaped⟩ := shapedBy_of_entityShape h
  have hfits := MemberScope.fits_entity hd record
  obtain ⟨hproperties, hbuildable⟩ := members_of_concat fun p hp =>
    one_of_memberFindings hnames c.size _ p (clean_of_concat hshaped.clean p hp) hfits
  have hcovers := covers_of_construction hshaped.construction hproperties (hnames d hd htrait)
  constructor
  · rw [hshaped.members]
    exact hcovers.markKeyAll e.primaryKey.columns
  · rw [hshaped.members, Member.markKeyAll_eq_map, List.forall_mem_map]
    exact fun m hm => (hbuildable m hm).markKey e.primaryKey.columns

include hnames hd in
/-- **Entities can be built** that resolve, if the properties of every struct have distinct names. -/
theorem buildable_of_entityOf (h : c.entityOf d = .ok e) : e.Buildable := by
  obtain ⟨shape, foreignKeys, hshape, rfl, -⟩ := shape_of_entityOf h
  have hbuildable := buildable_of_entityShape hnames hd hshape
  exact ⟨hbuildable.covers, hbuildable.members⟩

include hnames in
theorem buildable_of_mem_schema (he : e ∈ c.schema.entities) : e.Buildable := by
  obtain ⟨d, hd, -, hentity⟩ := mem_schema_entities.mp he
  exact buildable_of_entityOf hnames hd hentity

/-- What an entity of the schema stores has a mapping. -/
theorem mapped_of_mem_schema (he : e ∈ c.schema.entities) :
    ∀ column ∈ e.storedColumns, column.mapping.isSome = true := by
  intro column hcolumn
  obtain ⟨d, -, -, hentity⟩ := mem_schema_entities.mp he
  obtain ⟨hmem, hstored⟩ := List.mem_filter.mp hcolumn
  exact ((consistent_of_entityOf hentity).mapped column hmem).mpr hstored

end Entities

/-! ## compounds -/

section Compounds

variable {c : Catalog} {d : Declaration}

/-- Without a problem a property embeds the entity or is a relation, as it is annotated. -/
theorem role_of_compoundRole {p : Property} {embedded : Option EmbeddedMark}
    {relation : Option RelationMark} (h : (d.compoundRole p embedded relation).found = []) :
    ((d.compoundRole p embedded relation).value? = some (.main p) ∧ embedded.isSome = true ∧
        relation = none) ∨
      ∃ mark, (d.compoundRole p embedded relation).value? = some (.relation p mark) ∧
        relation = some mark := by
  unfold Declaration.compoundRole at h ⊢
  split at h
  · split at h
    · contradiction
    next hprefix =>
    split at h
    · contradiction
    next hnullable =>
    rw [if_neg hprefix, if_neg hnullable]
    exact .inl ⟨rfl, rfl, rfl⟩
  · exact .inr ⟨_, rfl, rfl⟩
  · contradiction
  · contradiction

theorem find_of_readMark {R : Type} [MarkRecord R] {anchor : String} {annotations : List Mark}
    {record : Option R} (h : readMark R anchor annotations = (record, [])) :
    Mark.find R annotations = .ok record := by
  unfold readMark at h
  split at h
  · next hfound =>
    cases h
    exact hfound
  · cases h

/-- A property that a compound requires has a role, as it is annotated. -/
theorem role_of_compoundProperty {p : Property} {named : String × Option CompoundRole}
    (h : (d.compoundProperty p).Builds named) :
    (named = (p.name, some (.main p)) ∧ Mark.has EmbeddedMark p.annotations = true ∧
        Mark.find RelationMark p.annotations = .ok none) ∨
      ∃ mark, named = (p.name, some (.relation p mark)) ∧
        Mark.find RelationMark p.annotations = .ok (some mark) := by
  revert h
  fun_cases Declaration.compoundProperty d p with
  | case1 anchor embedded embeddedFaults hembedded relation relationFaults hrelation hfaults role =>
      rintro ⟨⟨⟩, hclean⟩
      obtain ⟨rfl, rfl⟩ := List.append_eq_nil_iff.mp hfaults
      obtain ⟨hmain, hsome, rfl⟩ | ⟨mark, hrole, rfl⟩ := role_of_compoundRole hclean
      · refine .inl ⟨congrArg (Prod.mk p.name) hmain, ?_, find_of_readMark hrelation⟩
        exact (Mark.isPresent_iff_of_find (find_of_readMark hembedded)).mpr hsome
      · exact .inr ⟨mark, congrArg (Prod.mk p.name) hrole, find_of_readMark hrelation⟩
  | case2 => exact fun h => absurd h Checked.not_builds_fail

/-- It has a role, if nothing is wrong with it. -/
theorem decides_compoundProperty (d : Declaration) (p : Property) : (d.compoundProperty p).Decides := by
  fun_cases Declaration.compoundProperty d p with
  | case1 => exact fun _ => ⟨_, rfl⟩
  | case2 _ _ _ _ _ _ _ hfaults => exact fun hclean => absurd hclean hfaults

theorem decides_junction? (main target : Entity) (mark : RelationMark) (anchor : String) :
    (c.junction? (.known c.entityOf) main target mark anchor).run.run.Decides := by
  unfold Catalog.junction?
  split
  · exact Checked.decides_pure _
  · refine CheckedT.decides_bind ?_ fun junction => Checked.decides_pure _
    unfold Catalog.junction
    refine CheckedT.decides_bind (decides_dependentEntity c _ _) fun entity => ?_
    refine CheckedT.decides_bind (Checked.decides_demand _) fun _ => ?_
    refine CheckedT.decides_bind (Checked.decides_demand _) fun _ => ?_
    exact Checked.decides_pure _

theorem decides_relation (owner : String) (main : Entity) (p : Property) (mark : RelationMark) :
    (c.relation (.known c.entityOf) owner main p mark).run.run.Decides := by
  unfold Catalog.relation
  refine CheckedT.decides_bind (Checked.decides_ofOption _ _) fun ⟨cardinality, element⟩ => ?_
  refine CheckedT.decides_bind (decides_dependentEntity c _ _) fun target => ?_
  refine CheckedT.decides_bind (Checked.decides_demand _) fun _ => ?_
  refine CheckedT.decides_bind (Checked.decides_ofOption _ _) fun row => ?_
  refine CheckedT.decides_bind (decides_junction? main target mark _) fun junction => ?_
  exact Checked.decides_pure _

/-- The property of a compound that is its main one. -/
theorem eq_of_mainProperty {roles : List CompoundRole} {main p : Property}
    (h : (d.mainProperty roles).Builds main) (hp : .main p ∈ roles) : p = main := by
  have hmem : p ∈ roles.filterMap CompoundRole.main? := List.mem_filterMap.mpr ⟨_, hp, rfl⟩
  simp only [Declaration.mainProperty] at h
  split at h
  · next only honly =>
    cases h.value
    rw [honly] at hmem
    exact List.mem_singleton.mp hmem
  · exact absurd h Checked.not_builds_fail

/-- A constructor of a compound takes the embedded entity and relations only. -/
theorem takes_of_compoundOf {compound : Compound} (h : c.compoundOf d = .ok compound)
    (hfunction : compound.construction.function.isSome = true) :
    ∀ parameter ∈ compound.construction.parameters,
      parameter = compound.mainProperty ∨ ∃ r ∈ compound.relations, r.property = parameter := by
  obtain ⟨named, construction, hproperties, hconstruction, hbody⟩ := body_of_compoundOf h
  unfold Catalog.compoundBody at hbody
  obtain ⟨mainProperty, hmainProperty, hbody⟩ := CheckedT.builds_bind hbody
  obtain ⟨main, -, hbody⟩ := CheckedT.builds_bind hbody
  obtain ⟨relations, hrelations, hbody⟩ := CheckedT.builds_bind hbody
  cases hbody.value
  obtain ⟨hnone, -⟩ | ⟨-, hrequired⟩ := construction_cases hconstruction
  · rw [hnone] at hfunction
    contradiction
  intro parameter hparameter
  obtain ⟨entry, hentry, rfl⟩ := List.mem_map.mp ((hrequired parameter).mp hparameter)
  obtain ⟨check, hcheck, hbuilds⟩ := Checked.builds_all hproperties hentry
  obtain ⟨p, -, rfl⟩ := List.mem_map.mp hcheck
  obtain ⟨rfl, -⟩ | ⟨mark, rfl, -⟩ := role_of_compoundProperty hbuilds
  · have hrole : .main p ∈ named.filterMap Prod.snd := List.mem_filterMap.mpr ⟨_, hentry, rfl⟩
    exact .inl (congrArg Property.name (eq_of_mainProperty hmainProperty hrole))
  · have hrole : .relation p mark ∈ named.filterMap Prod.snd :=
      List.mem_filterMap.mpr ⟨_, hentry, rfl⟩
    have hasked : (p, mark) ∈ (named.filterMap Prod.snd).filterMap CompoundRole.relation? :=
      List.mem_filterMap.mpr ⟨_, hrole, rfl⟩
    have hall := CheckedT.forall₂_of_builds_all hrelations fun x _ => decides_relation _ main x.1 x.2
    obtain ⟨r, hr, hrelation⟩ := exists_of_forall₂ hall.flip hasked
    exact .inr ⟨r, hr, (entities_of_relation hrelation).1⟩

end Compounds

/-! ## DAOs -/

/-- **DAOs can be built** that resolve. -/
theorem buildable_of_daoFindings {c : Catalog} {d : Declaration} {dao : Dao}
    (h : c.daoFindings d = .ok dao) : dao.Buildable where
  writes o ho e htarget := mapped_of_mem_schema (target_mem_schema h ho htarget)
  loads compound hcompound hfunction := by
    obtain ⟨o, ho, hrow⟩ := Dao.row_of_mem_compounds hcompound
    obtain ⟨d', -, hcompound⟩ := known_of_daoFindings h ho _ hrow
    exact takes_of_compoundOf hcompound hfunction

end DaoForge
