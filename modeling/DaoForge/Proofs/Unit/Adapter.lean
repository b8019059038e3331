import DaoForge.Compile
import DaoForge.Proofs.Distinct
import DaoForge.Proofs.Unit.Composing

/-!
# DaoForge.Proofs.Unit.Adapter

The adapters and mappers that units take and pass on.

1. a mapper unit takes the adapters of its entity, a queries unit those of the statements and the
   mappers that rows are read with (`MapperUnit.adapters_of`, `QueriesUnit.fields_of`);
2. the statements of a DAO use the adapters of what they bind, read and write
   (`Dao.mem_statementAdapters`);
3. a database unit is composed of the adapters that its mappers and queries are constructed with, and of
   these and its DAOs (`DatabaseUnit.parts_of`).
-/

namespace DaoForge

/-! ## fields -/

theorem AdapterField.key_of {key : AdapterKey} {field : AdapterField}
    (h : AdapterField.of key = .ok field) : field.key = key ∧ key.field = .ok field.name := by
  obtain ⟨name, hname, h⟩ := bind_eq_ok h
  obtain ⟨source, -, h⟩ := bind_eq_ok h
  obtain ⟨storage, -, h⟩ := bind_eq_ok h
  cases h
  exact ⟨rfl, hname⟩

/-- The fields of adapters are of these adapters, in their order, and so are the names alone. -/
theorem adapterFields_of {keys : List AdapterKey} {fields : List AdapterField}
    (h : keys.mapM AdapterField.of = .ok fields) :
    fields.map AdapterField.key = keys ∧
      keys.mapM AdapterKey.field = .ok (fields.map AdapterField.name) := by
  have hfields := (forall₂_of_mapM h).imp fun _ _ => AdapterField.key_of
  rw [mapM_eq_ok_iff, List.forall₂_map_right_iff]
  have hkeys := map_eq_of_forall₂ (f := id) (hfields.imp fun _ _ hfield => hfield.1.symm)
  rw [List.map_id] at hkeys
  exact ⟨hkeys.symm, hfields.imp fun _ _ hfield => hfield.2⟩

section Units

variable {n : Naming}

/-- The fields of mappers are of these entities, in their order, and so are the names alone. -/
theorem mapperFields_of {entities : List Entity} {fields : List MapperField}
    (h : (entities.mapM fun e => do return ⟨e, ← Ident.of (n.mapper e), ← e.mapperField⟩) =
      Except.ok fields) :
    fields.map MapperField.entity = entities ∧
      entities.mapM Entity.mapperField = .ok (fields.map MapperField.name) := by
  have hfields : List.Forall₂ (fun (e : Entity) (field : MapperField) =>
      e = field.entity ∧ e.mapperField = .ok field.name) entities fields := by
    refine (forall₂_of_mapM h).imp fun e field hfield => ?_
    obtain ⟨mapper, -, hfield⟩ := bind_eq_ok hfield
    obtain ⟨name, hname, hfield⟩ := bind_eq_ok hfield
    cases hfield
    exact ⟨rfl, hname⟩
  rw [mapM_eq_ok_iff, List.forall₂_map_right_iff]
  have hentities := map_eq_of_forall₂ (f := id) (hfields.imp fun _ _ hfield => hfield.1)
  rw [List.map_id] at hentities
  exact ⟨hentities.symm, hfields.imp fun _ _ hfield => hfield.2⟩

/-! ## units that take adapters -/

theorem MapperUnit.adapters_of {e : Entity} {u : MapperUnit} (h : MapperUnit.of n e = .ok u) :
    Ident.of (n.mapper e) = .ok u.name ∧ u.declaration = e.declaration ∧
      u.adapters.map AdapterField.key = e.adapters ∧
      e.adapters.mapM AdapterKey.field = .ok (u.adapters.map AdapterField.name) := by
  obtain ⟨name, hname, h⟩ := bind_eq_ok h
  obtain ⟨entity, -, h⟩ := bind_eq_ok h
  obtain ⟨fields, -, h⟩ := bind_eq_ok h
  obtain ⟨adapters, hadapters, h⟩ := bind_eq_ok h
  obtain ⟨value, -, h⟩ := bind_eq_ok h
  cases h
  exact ⟨hname, rfl, adapterFields_of hadapters⟩

theorem QueriesUnit.fields_of {d : Dao} {u : QueriesUnit} (h : QueriesUnit.of n d = .ok u) :
    Ident.of (n.queries d) = .ok u.name ∧ u.declaration = d.declaration ∧
      (u.adapterKeys = d.statementAdapters ∧
        d.statementAdapters.mapM AdapterKey.field = .ok (u.adapters.map AdapterField.name)) ∧
      u.mappedEntities = d.mappedEntities ∧
      d.mappedEntities.mapM Entity.mapperField = .ok (u.mappers.map MapperField.name) := by
  obtain ⟨name, hname, h⟩ := bind_eq_ok h
  obtain ⟨adapters, hadapters, h⟩ := bind_eq_ok h
  obtain ⟨mappers, hmappers, h⟩ := bind_eq_ok h
  obtain ⟨methods, -, h⟩ := bind_eq_ok h
  obtain ⟨loaders, -, h⟩ := bind_eq_ok h
  cases h
  exact ⟨hname, rfl, adapterFields_of hadapters, mapperFields_of hmappers⟩

/-- What a mapper unit is composed of. -/
theorem MapperUnit.parts_of {e : Entity} {u : MapperUnit} (h : MapperUnit.of n e = .ok u) :
    e.adapters.mapM AdapterField.of = .ok u.adapters ∧ e.build = .ok u.value := by
  obtain ⟨name, -, h⟩ := bind_eq_ok h
  obtain ⟨entity, -, h⟩ := bind_eq_ok h
  obtain ⟨fields, -, h⟩ := bind_eq_ok h
  obtain ⟨adapters, hadapters, h⟩ := bind_eq_ok h
  obtain ⟨value, hvalue, h⟩ := bind_eq_ok h
  cases h
  exact ⟨hadapters, hvalue⟩

/-- What a queries unit is composed of: a method for each function, a loader for each compound. -/
theorem QueriesUnit.parts_of {d : Dao} {u : QueriesUnit} (h : QueriesUnit.of n d = .ok u) :
    d.statementAdapters.mapM AdapterField.of = .ok u.adapters ∧
      List.Forall₂ (fun o m => Operation.method o = .ok m) d.operations u.methods ∧
      List.Forall₂ (fun compound l => Compound.loader compound = .ok l) d.compounds u.loaders := by
  obtain ⟨name, -, h⟩ := bind_eq_ok h
  obtain ⟨adapters, hadapters, h⟩ := bind_eq_ok h
  obtain ⟨mappers, -, h⟩ := bind_eq_ok h
  obtain ⟨methods, hmethods, h⟩ := bind_eq_ok h
  obtain ⟨loaders, hloaders, h⟩ := bind_eq_ok h
  cases h
  exact ⟨hadapters, forall₂_of_mapM hmethods, forall₂_of_mapM hloaders⟩

theorem Compound.loaderName_of {compound : Compound} {l : Loader} (h : compound.loader = .ok l) :
    compound.loaderName = .ok l.name := by
  obtain ⟨name, hname, h⟩ := bind_eq_ok h
  obtain ⟨main, -, h⟩ := bind_eq_ok h
  obtain ⟨path, -, h⟩ := bind_eq_ok h
  obtain ⟨loads, -, h⟩ := bind_eq_ok h
  obtain ⟨value, -, h⟩ := bind_eq_ok h
  cases h
  exact hname

section Statements

variable {d : Dao} {o : Operation} {row : RowType} {key : AdapterKey}

/-- The adapters of the statements: of what each of them binds and reads, and of what it writes. -/
theorem Dao.mem_statementAdapters : key ∈ d.statementAdapters ↔
    ∃ o ∈ d.operations, key ∈ o.adapters ∨ ∃ e, o.kind.target? = some e ∧ key ∈ e.adapters := by
  rw [statementAdapters, mem_distinct, List.mem_append, Dao.adapters, mem_distinct, List.mem_flatMap,
    List.mem_flatMap, ← exists_or]
  refine exists_congr fun o => ?_
  rw [← and_or_left]
  cases o.kind.target? <;> simp

theorem Operation.mem_adapters_of_row (h : o.rowType? = some row) (hkey : key ∈ row.adapters) :
    key ∈ o.adapters := by
  rw [adapters, h]
  exact List.mem_append_right _ hkey

/-- The adapter of a relation that projects a column is one of the row. -/
theorem Compound.mem_adapters {compound : Compound} {r : Relation} (hr : r ∈ compound.relations)
    {name : String} {type : TypeExpr} {mapping : Mapping} (h : r.element = .scalar name type mapping)
    (hkey : mapping.adapter? = some key) : key ∈ (RowType.compound compound).adapters := by
  refine List.mem_filterMap.mpr ⟨r, hr, ?_⟩
  rw [h]
  exact hkey

end Statements

/-! ## what a database unit is composed of -/

/-- The parts of a database unit, in step with what they are composed from: the adapters that are wired, the
mappers and queries holders, and the DAOs. -/
structure DatabaseUnit.Parts (n : Naming) (d : Database) (ofMappers : List MapperWiring)
    (ofQueries : List QueriesWiring) (u : DatabaseUnit) : Prop where
  declaration : u.declaration = d.declaration
  name : Ident.of (n.database d) = .ok u.name
  schema : Ident.of (n.schema d) = .ok u.schema
  databaseTrait : Code.ofPath d.declaration = .ok u.databaseTrait
  adapters : List.Forall₂ (fun key a => AdapterField.of key = .ok a.1 ∧ d.adapterInstance key = .ok a.2)
    (wiredAdapters ofMappers ofQueries) u.adapters
  mappers : List.Forall₂ (fun w m => MapperWiring.create n w = .ok m) ofMappers u.mappers
  queries : List.Forall₂ (fun w m => QueriesWiring.create n ofMappers w = .ok m) ofQueries u.queries
  getters : List.Forall₂ (fun g m => DaoGetter.unit n g = .ok m) d.getters u.getters

theorem DatabaseUnit.parts_of {d : Database} {mappers : List MapperWiring}
    {queries : List QueriesWiring} {u : DatabaseUnit}
    (h : DatabaseUnit.of n d mappers queries = .ok u) : u.Parts n d mappers queries := by
  obtain ⟨name, hname, h⟩ := bind_eq_ok h
  obtain ⟨schema, hschema, h⟩ := bind_eq_ok h
  obtain ⟨databaseTrait, htrait, h⟩ := bind_eq_ok h
  obtain ⟨adapters, hadapters, h⟩ := bind_eq_ok h
  obtain ⟨ofMappers, hmappers, h⟩ := bind_eq_ok h
  obtain ⟨ofQueries, hqueries, h⟩ := bind_eq_ok h
  obtain ⟨getters, hgetters, h⟩ := bind_eq_ok h
  cases h
  refine ⟨rfl, composing_eq_ok hname, composing_eq_ok hschema, composing_eq_ok htrait, ?_,
    forall₂_of_mapM (composing_eq_ok hmappers), forall₂_of_mapM (composing_eq_ok hqueries),
    forall₂_of_mapM (composing_eq_ok hgetters)⟩
  refine (forall₂_of_mapM hadapters).imp fun key a ha => ?_
  obtain ⟨field, hfield, ha⟩ := bind_eq_ok ha
  obtain ⟨made, hmade, ha⟩ := bind_eq_ok ha
  cases ha
  exact ⟨composing_eq_ok hfield, hmade⟩

end Units

end DaoForge
