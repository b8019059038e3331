import DaoForge.Proofs.Emission
import DaoForge.Proofs.Unit.Sibling

/-!
# DaoForge.Proofs.References

The units that the units of a run refer to, and whether these are among them.

1. `UnitContent.From.keepsTo`: the code of each unit keeps to the units that it lists, and to what its
   declaration spells;
2. `compile_closed_iff`: so the references of a unit are those that stand in its code, and they are met iff
   no queries unit reads an entity whose code cannot be composed.
-/

namespace DaoForge

/-- What the units of a declaration spell as the declaration does. -/
def Origin.spelling : Origin → Spelling
  | .entity e => e.spelling
  | .dao d => d.spelling
  | .database d => d.spelling

section Runs

variable {c : Catalog}

/-- Whatever a unit is composed from, its code keeps to the units that it lists, and to what is spelled. -/
theorem UnitContent.From.keepsTo {options : Options} {n : Naming} (hn : Naming.ofOptions options = .ok n)
    {units : List UnitContent} {u : UnitContent} (h : u.From c n units) :
    ∃ o, c.schema.Holds o ∧ o.Owns u ∧ u.KeepsTo n o.spelling := by
  cases h with
  | table he h => exact ⟨.entity _, he, Origin.owns_table h, TableUnit.keepsTo hn h⟩
  | mapper he h => exact ⟨.entity _, he, Origin.owns_mapper h, MapperUnit.keepsTo hn h⟩
  | queries hd h => exact ⟨.dao _, hd, Origin.owns_queries h, QueriesUnit.keepsTo hn h⟩
  | dao hd h => exact ⟨.dao _, hd, Origin.owns_dao h, DaoUnit.keepsTo hn h⟩
  | schema hd h => exact ⟨.database _, hd, Origin.owns_schema h, SchemaUnit.keepsTo hn h⟩
  | database hd h =>
      refine ⟨.database _, hd, Origin.owns_database h, DatabaseUnit.keepsTo hn h ?_⟩
      rw [wiredAdapters_eq hd]
      exact List.Subset.refl _

/-- The reference comes from a type or a path that the declaration of the unit spells: it stands in its code,
or the code goes on behind it. -/
def Catalog.SpellsBeside (c : Catalog) (n : Naming) (u : UnitContent) (x : Ident) : Prop :=
  ∃ o spelled, c.schema.Holds o ∧ o.Owns u ∧ o.spelling.Has n spelled ∧ spelled.Occurs (u.code n) ∧
    (x.sibling.Occurs spelled ∨ [.word "super"] <:+ spelled)

/-- **When the units are closed under reference.** The references of a unit are those that stand in its code,
beside what its declaration spells. All of them are met iff every emitted queries unit reads entities whose
own units can be composed, or whose mapper's name some emitted unit has by chance. So it is in every run
without diagnostics; but in one that reports an entity, the queries of its DAOs are emitted all the same. -/
theorem compile_closed_iff {o : Options} {r : Compilation} (h : c.compile o = .ok r) :
    ∃ n, Naming.ofOptions o = .ok n ∧
      (∀ u ∈ r.contents, ∀ x ∈ u.references, x.sibling.Occurs (u.code n)) ∧
      (∀ u ∈ r.contents, ∀ name x, Ident.of name = .ok x → x.sibling.Occurs (u.code n) →
        x ∈ u.references ∨ c.SpellsBeside n u x) ∧
      (r.report.diagnostics = [] → r.Closed) ∧
      (r.Closed ↔ ∀ q, .queries q ∈ r.contents → ∀ e ∈ q.mappedEntities,
        e.Composes n ∨ ∃ v ∈ r.units, v.name = n.mapper e) := by
  obtain ⟨n, hn, rfl, -⟩ := compile_eq_ok h
  refine ⟨n, hn, fun u _ x hx => UnitContent.occurs_sibling n hx, ?_, closed_compileWith,
    closed_compileWith_iff c n⟩
  obtain ⟨p, hp, hcontents⟩ := wired_compileWith c n
  rw [hcontents]
  intro u hu name x hx hoccurs
  obtain ⟨o, ho, howns, hkeeps⟩ := (hp.units u hu).keepsTo hn
  refine (hkeeps.named hx hoccurs).imp_right ?_
  rintro ⟨spelled, hspelled, hstands, hinner⟩
  exact ⟨o, spelled, ho, howns, hspelled, hstands, hinner⟩

end Runs

/-- The queries of the DAO are emitted, and the mapper that they refer to is not. -/
theorem compile_not_closed_self :
    ∃ r, selfCatalog.compile {} = .ok r ∧ ¬ r.Closed := by
  have hrun : ((Naming.ofOptions {}).toOption.bind fun n => (selfCatalog.compile {}).toOption.map fun r =>
      r.contents.any fun u =>
        match u with
        | .queries q => q.mappedEntities.any fun e => (MapperUnit.of n e).toOption.isNone &&
            r.units.all fun v => v.name != n.mapper e
        | _ => false) = some true := by
    decide +kernel
  obtain ⟨n, hn, hrun⟩ := Option.bind_eq_some_iff.mp hrun
  obtain ⟨r, hr, hdangling⟩ := Option.map_eq_some_iff.mp hrun
  have hcompile := eq_ok_of_toOption hr
  refine ⟨r, hcompile, fun hclosed => ?_⟩
  obtain ⟨n', hn', -, -, -, hiff⟩ := compile_closed_iff hcompile
  obtain rfl : n = n' := Except.ok.inj ((eq_ok_of_toOption hn).symm.trans hn')
  obtain ⟨u, hu, hreads⟩ := List.any_eq_true.mp hdangling
  split at hreads
  · next q =>
    obtain ⟨e, he, hmissing⟩ := List.any_eq_true.mp hreads
    rw [Bool.and_eq_true, List.all_eq_true] at hmissing
    obtain ⟨_, mapper, -, hmapper⟩ | ⟨v, hv, hname⟩ := hiff.mp hclosed q hu e he
    · rw [hmapper] at hmissing
      exact Bool.false_ne_true hmissing.1
    · have hother := hmissing.2 v hv
      rw [hname, bne_self_eq_false] at hother
      exact Bool.false_ne_true hother
  · exact Bool.false_ne_true hreads

end DaoForge
