import DaoForge.Declaration.Catalog
import DaoForge.Schema.Storage

/-!
# DaoForge.Resolve.Types

Types against a catalog. Two spellings name one type if their paths agree, or if one of them is a
single name and it is the last name of the other. A declaration is a converter if it implements the
adapter trait of two arguments; the second one must be a native type.
-/

namespace DaoForge

mutual

/-- One type, up to a shorter spelling of paths on one side. -/
def TypeExpr.same : TypeExpr → TypeExpr → Bool
  | ⟨name, nullable, arguments⟩, ⟨name', nullable', arguments'⟩ =>
    (name == name' ||
        ((!isQualified name || !isQualified name') &&
          DaoForge.simpleName name == DaoForge.simpleName name')) &&
      nullable == nullable' && TypeExpr.sameAll arguments arguments'

/-- `same`, item by item, for lists of one length. -/
def TypeExpr.sameAll : List TypeExpr → List TypeExpr → Bool
  | [], [] => true
  | t :: ts, u :: us => TypeExpr.same t u && TypeExpr.sameAll ts us
  | _, _ => false

end

namespace Declaration

/-- The adapter trait among the supertypes. -/
def adapterSupertype? (d : Declaration) : Option TypeExpr :=
  d.supertypes.find? fun t => t.simpleName == "ColumnAdapter"

/-- What a converter converts: its type, without an `Option`, and the affinity of its storage. -/
def converts? (d : Declaration) : Option (TypeExpr × Affinity) := do
  let adapter ← d.adapterSupertype?
  match adapter.arguments with
  | [source, storage] => some (source.nonNull, ← Affinity.ofNative? storage)
  | _ => none

end Declaration

namespace Catalog

/-- Mapping of a parameter or of a scalar result: that of a native or primitive type, else through
the first declared converter of the type. -/
def valueMapping? (c : Catalog) (t : TypeExpr) : Option Mapping :=
  match Mapping.resolve? t .undefined with
  | some mapping => some mapping
  | none =>
    let converter := (c.declarations.filterMap Declaration.converts?).find? fun converts =>
      converts.1.same t.nonNull
    converter.map fun converts => .adapted (.of t converts.2)

end Catalog

end DaoForge
