import DaoForge.Proofs.Resolve.Memory
import DaoForge.Proofs.Unit.Adapter

/-!
# DaoForge.Proofs.Unit.Reference

The units that a unit refers to.

1. `UnitContent.references` lists them; each stands in the code as the name of a unit beside it
   (`UnitContent.occurs_sibling`);
2. units refer to what they are generated from: a queries unit to the mappers of the entities it
   reads, a DAO unit to its queries, a schema unit to its tables, and a database unit to what it owns
   (`QueriesUnit.mappers_of`, `DaoUnit.queries_of`, `SchemaUnit.tables_of`,
   `DatabaseUnit.references_of`).
-/

namespace DaoForge

/-! ## code -/

namespace Code

/-- The piece of code stands somewhere in the code, maybe inside brackets. -/
inductive Occurs (piece : Code) : Code → Prop where
  | here : Occurs piece piece
  | before {code : Code} (h : Occurs piece code) (after : Code) : Occurs piece (code ++ after)
  | after {code : Code} (h : Occurs piece code) (before : Code) : Occurs piece (before ++ code)
  | inside {inner : Code} (h : Occurs piece inner) (delimiter : Delimiter) :
    Occurs piece [.group delimiter inner]

variable {piece : Code}

theorem Occurs.parens {inner : Code} (h : Occurs piece inner) : Occurs piece (Code.parens inner) :=
  h.inside .parenthesis

theorem Occurs.braces {inner : Code} (h : Occurs piece inner) : Occurs piece (Code.braces inner) :=
  h.inside .brace

theorem Occurs.flatMap {α : Type} {items : List α} {f : α → Code} {item : α} (hitem : item ∈ items)
    (h : Occurs piece (f item)) : Occurs piece (items.flatMap f) := by
  obtain ⟨before, after, rfl⟩ := List.append_of_mem hitem
  rw [List.flatMap_append, List.flatMap_cons]
  exact (h.before _).after _

theorem Occurs.trans {middle code : Code} (h : Occurs piece middle) (h' : Occurs middle code) :
    Occurs piece code := by
  induction h' with
  | here => exact h
  | before _ after ih => exact ih.before after
  | after _ before ih => exact ih.after before
  | inside _ delimiter ih => exact ih.inside delimiter

theorem Occurs.commas {items : List Code} {item : Code} (hitem : item ∈ items)
    (h : Occurs piece item) : Occurs piece (Code.commas items) := by
  induction items with
  | nil => contradiction
  | cons first rest ih =>
      cases rest with
      | nil => exact List.mem_singleton.mp hitem ▸ h
      | cons second rest =>
          obtain rfl | hitem := List.mem_cons.mp hitem
          · exact (h.before _).before _
          · exact (ih hitem).after _

theorem Occurs.commasAfter {items : List Code} {item : Code} (hitem : item ∈ items)
    (h : Occurs piece item) : Occurs piece (Code.commasAfter items) :=
  .flatMap hitem (h.before _)

theorem Occurs.shared {inner : Code} (h : Occurs piece inner) : Occurs piece (Code.shared inner) :=
  (h.after _).before _

theorem Occurs.typed {type : Code} (h : Occurs piece type) (name : Ident) :
    Occurs piece (Code.typed name type) := h.after _

end Code

/-- The units that a unit refers to. -/
def UnitContent.references : UnitContent → List Ident
  | .table _ | .mapper _ => []
  | .queries unit => unit.mappers.map MapperField.mapper
  | .dao unit => [unit.queries]
  | .schema unit => unit.tables
  | .database unit =>
    unit.schema :: (unit.mappers.map Creation.unit ++ unit.queries.map Creation.unit ++
      unit.getters.map GetterUnit.implementation)

section Occurrences

variable (n : Naming)

theorem QueriesUnit.occurs_sibling {u : QueriesUnit} {f : MapperField} (h : f ∈ u.mappers) :
    f.mapper.sibling.Occurs (u.code n) := by
  unfold QueriesUnit.code
  extract_lets fields
  have hfield : Code.typed f.name (Code.shared f.mapper.sibling) ∈ fields :=
    List.mem_append_right _
      (List.mem_map_of_mem (f := fun f : MapperField => Code.typed f.name f.mapper.sibling.shared) h)
  have hstruct := (Code.Occurs.commasAfter hfield (Code.Occurs.here.shared.typed f.name)).braces
  exact hstruct.after _ |>.before _ |>.before _ |>.before _

theorem DaoUnit.occurs_sibling (u : DaoUnit) : u.queries.sibling.Occurs (u.code n) := by
  unfold DaoUnit.code
  extract_lets holder
  have hholder : u.queries.sibling.Occurs holder := Code.Occurs.here.shared
  have hstruct := ((hholder.after (Code.words "queries :")).before (Code.word ",")).braces
  exact hstruct.after _ |>.before _ |>.before _ |>.before _ |>.before _ |>.before _ |>.before _
    |>.before _ |>.before _

theorem SchemaUnit.occurs_sibling {u : SchemaUnit} {table : Ident} (h : table ∈ u.tables) :
    table.sibling.Occurs (u.code n) := by
  unfold SchemaUnit.code
  extract_lets creations
  have hcreate : table.sibling.Occurs creations :=
    .flatMap h (Code.Occurs.here.before (Code.words ":: create (driver) ? ;"))
  have hbody := ((hcreate.before okUnit).braces.after (Code.words "& mut ||")).parens
  have hfunction := (hbody.after (Code.words "driver . transaction")).braces
  exact (hfunction.after _ |>.before _ |>.before _ |>.before _ |>.before _ |>.before _).braces.after _

/-- What stands in the struct of a database unit stands in its code. -/
theorem DatabaseUnit.occurs_of_struct {u : DatabaseUnit} {piece : Code}
    (h : piece.Occurs (Code.words "driver :" ++ n.sharedDriverType ++ Code.words ", schema :" ++
      u.schema.sibling ++ Code.word "," ++ Code.commasAfter (u.fields n))) :
    piece.Occurs (u.code n) := by
  unfold DatabaseUnit.code
  extract_lets schema getters
  exact h.braces.after _ |>.before _ |>.before _ |>.before _ |>.before _ |>.before _ |>.before _
    |>.before _ |>.before _ |>.before _ |>.before _ |>.before _ |>.before _

theorem Creation.occurs_sibling (m : Creation) : m.unit.sibling.Occurs m.typedField :=
  Code.Occurs.here.shared.typed m.field

theorem DatabaseUnit.occurs_sibling {u : DatabaseUnit} {x : Ident}
    (h : x ∈ (UnitContent.database u).references) : x.sibling.Occurs (u.code n) := by
  have hfield : ∀ field ∈ u.fields n, x.sibling.Occurs field → x.sibling.Occurs (u.code n) :=
    fun field hmem hoccurs => occurs_of_struct n ((Code.Occurs.commasAfter hmem hoccurs).after _)
  simp only [UnitContent.references, List.mem_cons, List.mem_append, List.mem_map] at h
  obtain rfl | (⟨m, hm, rfl⟩ | ⟨m, hm, rfl⟩) | ⟨g, hg, rfl⟩ := h
  · exact occurs_of_struct n (Code.Occurs.here.after _ |>.before _ |>.before _)
  · refine hfield _ ?_ m.occurs_sibling
    exact List.mem_append_left _ (List.mem_append_left _ (List.mem_append_right _
      (List.mem_map_of_mem hm)))
  · refine hfield _ ?_ m.occurs_sibling
    exact List.mem_append_left _ (List.mem_append_right _ (List.mem_map_of_mem hm))
  · refine hfield (Code.typed g.function g.implementation.sibling) ?_
      (Code.Occurs.here.typed g.function)
    exact List.mem_append_right _ (List.mem_map.mpr ⟨g, hg, rfl⟩)

/-- **References stand in the code**: a unit names each unit that it refers to, as one beside it. -/
theorem UnitContent.occurs_sibling {u : UnitContent} {x : Ident} (h : x ∈ u.references) :
    x.sibling.Occurs (u.code n) := by
  cases u with
  | table unit => contradiction
  | mapper unit => contradiction
  | queries unit =>
      obtain ⟨f, hf, rfl⟩ := List.mem_map.mp h
      exact QueriesUnit.occurs_sibling n hf
  | dao unit =>
      rw [List.mem_singleton.mp h]
      exact DaoUnit.occurs_sibling n unit
  | schema unit => exact SchemaUnit.occurs_sibling n h
  | database unit => exact DatabaseUnit.occurs_sibling n h

end Occurrences

/-! ## what the references of a unit are named for -/

section Names

variable {n : Naming}

theorem QueriesUnit.mappers_of {d : Dao} {u : QueriesUnit} (h : QueriesUnit.of n d = .ok u) :
    ∀ f ∈ u.mappers, f.entity ∈ d.mappedEntities ∧ Ident.of (n.mapper f.entity) = .ok f.mapper ∧
      f.entity.mapperField = .ok f.name := by
  obtain ⟨name, -, h⟩ := bind_eq_ok h
  obtain ⟨adapters, -, h⟩ := bind_eq_ok h
  obtain ⟨mappers, hmappers, h⟩ := bind_eq_ok h
  obtain ⟨methods, -, h⟩ := bind_eq_ok h
  obtain ⟨loaders, -, h⟩ := bind_eq_ok h
  cases h
  intro f hf
  obtain ⟨e, he, hfield⟩ := exists_of_forall₂ (forall₂_of_mapM hmappers) hf
  obtain ⟨mapper, hmapper, hfield⟩ := bind_eq_ok hfield
  obtain ⟨field, hname, hfield⟩ := bind_eq_ok hfield
  cases hfield
  exact ⟨he, hmapper, hname⟩

theorem DaoUnit.queries_of {d : Dao} {u : DaoUnit} (h : DaoUnit.of n d = .ok u) :
    Ident.of (n.queries d) = .ok u.queries := by
  obtain ⟨name, -, h⟩ := bind_eq_ok h
  obtain ⟨queries, hqueries, h⟩ := bind_eq_ok h
  obtain ⟨daoTrait, -, h⟩ := bind_eq_ok h
  obtain ⟨functions, -, h⟩ := bind_eq_ok h
  cases h
  exact hqueries

theorem SchemaUnit.tables_of {d : Database} {u : SchemaUnit} (h : SchemaUnit.of n d = .ok u) :
    ∀ table ∈ u.tables, ∃ e ∈ d.entities, Ident.of (n.table e) = .ok table := by
  obtain ⟨name, -, h⟩ := bind_eq_ok h
  obtain ⟨tables, htables, h⟩ := bind_eq_ok h
  cases h
  intro table htable
  exact exists_of_forall₂ (forall₂_of_mapM htables) htable

theorem MapperWiring.unit_of {w : MapperWiring} {m : Creation} (h : w.create n = .ok m) :
    Ident.of (n.mapper w.entity) = .ok m.unit := by
  obtain ⟨unit, hunit, h⟩ := bind_eq_ok h
  obtain ⟨field, -, h⟩ := bind_eq_ok h
  obtain ⟨adapters, -, h⟩ := bind_eq_ok h
  cases h
  exact hunit

theorem QueriesWiring.unit_of {w : QueriesWiring} {mappers : List MapperWiring} {m : Creation}
    (h : w.create n mappers = .ok m) : Ident.of (n.queries w.dao) = .ok m.unit := by
  obtain ⟨unit, hunit, h⟩ := bind_eq_ok h
  obtain ⟨field, -, h⟩ := bind_eq_ok h
  obtain ⟨adapters, -, h⟩ := bind_eq_ok h
  obtain ⟨passed, -, h⟩ := bind_eq_ok h
  cases h
  exact hunit

theorem DaoGetter.implementation_of {g : DaoGetter} {u : GetterUnit} (h : g.unit n = .ok u) :
    Ident.of (n.dao g.dao) = .ok u.implementation := by
  obtain ⟨function, -, h⟩ := bind_eq_ok h
  obtain ⟨implementation, himplementation, h⟩ := bind_eq_ok h
  obtain ⟨holder, -, h⟩ := bind_eq_ok h
  obtain ⟨daoTrait, -, h⟩ := bind_eq_ok h
  cases h
  exact himplementation

theorem DatabaseUnit.references_of {d : Database} {mappers : List MapperWiring}
    {queries : List QueriesWiring} {u : DatabaseUnit}
    (h : DatabaseUnit.of n d mappers queries = .ok u) :
    ∀ x ∈ (UnitContent.database u).references, Ident.of (n.schema d) = .ok x ∨
      (∃ w ∈ mappers, Ident.of (n.mapper w.entity) = .ok x) ∨
      (∃ w ∈ queries, Ident.of (n.queries w.dao) = .ok x) ∨
      ∃ g ∈ d.getters, Ident.of (n.dao g.dao) = .ok x := by
  have hparts := parts_of h
  intro x hx
  simp only [UnitContent.references, List.mem_cons, List.mem_append, List.mem_map] at hx
  obtain rfl | (⟨m, hm, rfl⟩ | ⟨q, hq, rfl⟩) | ⟨g, hg, rfl⟩ := hx
  · exact .inl hparts.schema
  · obtain ⟨w, hw, hcreate⟩ := exists_of_forall₂ hparts.mappers hm
    exact .inr (.inl ⟨w, hw, MapperWiring.unit_of hcreate⟩)
  · obtain ⟨w, hw, hcreate⟩ := exists_of_forall₂ hparts.queries hq
    exact .inr (.inr (.inl ⟨w, hw, QueriesWiring.unit_of hcreate⟩))
  · obtain ⟨g', hg', hunit⟩ := exists_of_forall₂ hparts.getters hg
    exact .inr (.inr (.inr ⟨g', hg', DaoGetter.implementation_of hunit⟩))

end Names

end DaoForge
