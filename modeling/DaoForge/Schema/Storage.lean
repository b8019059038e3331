import DaoForge.Mark.Constant
import DaoForge.Mark.Records
import DaoForge.Declaration.TypeExpr

/-!
# DaoForge.Schema.Storage

How a value moves between its type and SQL. Each affinity has one native type, which is read and
bound directly; a value of any other type goes through an adapter, which is identified by the type it
converts and the affinity it converts to. A few primitive types have built-in adapters.

`Mapping.resolve?` chooses the mapping of a type, honouring an affinity that is declared.
-/

namespace DaoForge

namespace Affinity

/-- The type in which values of the affinity are stored. -/
def storageType? : Affinity → Option TypeExpr
  | .undefined => none
  | .integer => some (.ofName "i64")
  | .real => some (.ofName "f64")
  | .text => some (.ofName "String")
  | .blob => some { name := "Vec", arguments := [.ofName "u8"] }

/-- Affinity of a type that is read and bound natively. -/
def ofNative? (t : TypeExpr) : Option Affinity :=
  match t.arguments with
  | [] =>
    if t.name == "i64" then some .integer
    else if t.name == "f64" then some .real
    else if t.name == "String" || t.name == "std::string::String" ||
        t.name == "alloc::string::String" then some .text
    else none
  | [element] =>
    if (t.name == "Vec" || t.name == "std::vec::Vec" || t.name == "alloc::vec::Vec") &&
        element.name == "u8" && !element.nullable then some .blob
    else none
  | _ => none

end Affinity

/-- Element of a type that is a list, read through its `Option`; bytes are no list. -/
def TypeExpr.listElement? (t : TypeExpr) : Option TypeExpr :=
  match t.arguments with
  | [element] =>
    if (t.name == "Vec" || t.name == "std::vec::Vec" || t.name == "alloc::vec::Vec") &&
        (Affinity.ofNative? t).isNone then some element
    else none
  | _ => none

/-- The built-in adapters. -/
inductive BuiltinAdapter where
  /-- Narrow integers, stored as integers of 64 bits. -/
  | integer
  /-- Booleans, stored as 0 and 1. -/
  | boolean
  /-- Floats of single width, stored as doubles. -/
  | float
  deriving DecidableEq, Repr

namespace BuiltinAdapter

/-- The built-in adapter of a primitive type. -/
def ofType? (t : TypeExpr) : Option BuiltinAdapter :=
  if !t.arguments.isEmpty then none
  else if ["i8", "i16", "i32", "u8", "u16", "u32"].contains t.name then some .integer
  else if t.name == "bool" then some .boolean
  else if t.name == "f32" then some .float
  else none

def affinity : BuiltinAdapter → Affinity
  | .integer | .boolean => .integer
  | .float => .real

/-- Name of the adapter in documents. -/
def name : BuiltinAdapter → String
  | .integer => "Integer"
  | .boolean => "Boolean"
  | .float => "Float"

end BuiltinAdapter

/-- Identity of an adapter: the type it converts, without an `Option`, and the affinity of its
storage. Columns of one type that are stored alike share an adapter. -/
structure AdapterKey where
  sourceType : TypeExpr
  affinity : Affinity
  deriving DecidableEq, Repr

namespace AdapterKey

/-- The adapter of a type, `Option` or not. -/
def of (t : TypeExpr) (affinity : Affinity) : AdapterKey := ⟨t.nonNull, affinity⟩

def storageType (key : AdapterKey) : TypeExpr := key.affinity.storageType?.getD TypeExpr.unit

/-- The built-in adapter with this identity. -/
def builtin? (key : AdapterKey) : Option BuiltinAdapter :=
  (BuiltinAdapter.ofType? key.sourceType).filter fun builtin => builtin.affinity == key.affinity

/-- Text of the adapter: `bool <-> i64`. -/
def text (key : AdapterKey) : String := key.sourceType.source ++ " <-> " ++ key.storageType.source

def toTree (key : AdapterKey) : Tree :=
  .record [("source_type", key.sourceType.toTree), ("affinity", constantTree key.affinity)]

end AdapterKey

/-- How a value moves between its type and SQL. -/
inductive Mapping where
  | native (affinity : Affinity)
  | adapted (key : AdapterKey)
  deriving DecidableEq, Repr

namespace Mapping

def affinity : Mapping → Affinity
  | .native affinity => affinity
  | .adapted key => key.affinity

def adapter? : Mapping → Option AdapterKey
  | .native _ => none
  | .adapted key => some key

/-- The mapping of a type for a declared affinity. An undefined affinity is inferred from native and
built-in types, and none is found for any other. -/
def resolve? (t : TypeExpr) (declared : Affinity) : Option Mapping :=
  let base := t.nonNull
  let native := Affinity.ofNative? base
  if declared = .undefined then
    match native with
    | some affinity => some (.native affinity)
    | none =>
      (BuiltinAdapter.ofType? base).map fun builtin => .adapted (.of base builtin.affinity)
  else if native = some declared then some (.native declared)
  else some (.adapted (.of base declared))

def toTree : Mapping → Tree
  | .native affinity => .tagged "native" (constantTree affinity)
  | .adapted key => .tagged "adapted" key.toTree

end Mapping

end DaoForge
