import DaoForge.Text.Path
import DaoForge.Tree.Basic

/-!
# DaoForge.Declaration.TypeExpr

Types as they are written in declarations: a path, its generic arguments, and whether the whole is
wrapped in `Option`.

* `normalized` folds every `Option` spelled as a generic into the flag of its argument;
* `source` is the type's source text;
* `toTree` and `ofTree?` are its form in a declaration document.
-/

namespace DaoForge

/-- A type expression. `nullable` stands for an `Option` around it. -/
structure TypeExpr where
  name : String
  nullable : Bool := false
  arguments : List TypeExpr := []
  deriving Repr, Inhabited

namespace TypeExpr

mutual

/-- Equality of type expressions is decided part by part. -/
def decEq : (s t : TypeExpr) → Decidable (s = t)
  | ⟨name, nullable, arguments⟩, ⟨name', nullable', arguments'⟩ =>
    match decEqString name name', decEqBool nullable nullable', decEqList arguments arguments' with
    | isTrue h, isTrue h', isTrue h'' => isTrue (by rw [h, h', h''])
    | isFalse h, _, _ => isFalse fun e => h (congrArg TypeExpr.name e)
    | _, isFalse h, _ => isFalse fun e => h (congrArg TypeExpr.nullable e)
    | _, _, isFalse h => isFalse fun e => h (congrArg TypeExpr.arguments e)
where
  decEqString (s t : String) : Decidable (s = t) := inferInstance
  decEqBool (s t : Bool) : Decidable (s = t) := inferInstance

def decEqList : (s t : List TypeExpr) → Decidable (s = t)
  | [], [] => isTrue rfl
  | [], _ :: _ => isFalse nofun
  | _ :: _, [] => isFalse nofun
  | s :: ss, t :: ts =>
    match decEq s t, decEqList ss ts with
    | isTrue h, isTrue h' => isTrue (by rw [h, h'])
    | isFalse h, _ => isFalse fun e => h (List.cons.inj e).1
    | _, isFalse h => isFalse fun e => h (List.cons.inj e).2

end

instance : DecidableEq TypeExpr := decEq

/-- A path without arguments. -/
def ofName (name : String) : TypeExpr := { name }

/-- The type of functions without a result. -/
def unit : TypeExpr := ofName "()"

/-- The type inside the `Option`. -/
def nonNull (t : TypeExpr) : TypeExpr := { t with nullable := false }

/-- The type wrapped in `Option`. -/
def asNullable (t : TypeExpr) : TypeExpr := { t with nullable := true }

/-- Last name of the type's path. -/
def simpleName (t : TypeExpr) : String := DaoForge.simpleName t.name

/-- The type's path is `name`, or its last name is. -/
def isNamed (t : TypeExpr) (name : String) : Bool := t.name == name || t.simpleName == name

/-- The type without a value, which may also be left unnamed. -/
def isUnit (t : TypeExpr) : Bool :=
  !t.nullable && t.arguments.isEmpty && (t.name == "()" || t.name == "")

/-- The three paths of `Option`. -/
def isOptionPath (name : String) : Bool :=
  name == "Option" || name == "std::option::Option" || name == "core::option::Option"

/-- A node over normalized arguments: an `Option` of one argument becomes that argument, nullable. -/
def fold (name : String) (nullable : Bool) (arguments : List TypeExpr) : TypeExpr :=
  match arguments with
  | [inner] => if isOptionPath name then inner.asNullable else ⟨name, nullable, [inner]⟩
  | arguments => ⟨name, nullable, arguments⟩

mutual

/-- Every `Option` that is spelled as a generic becomes the flag of its argument, at any depth. -/
def normalized : TypeExpr → TypeExpr
  | ⟨name, nullable, arguments⟩ => fold name nullable (normalizedAll arguments)

/-- `normalized`, item by item. -/
def normalizedAll : List TypeExpr → List TypeExpr
  | [] => []
  | t :: rest => normalized t :: normalizedAll rest

end

mutual

/-- Source text: `Option<Vec<u8>>`. -/
def source : TypeExpr → String
  | ⟨name, nullable, arguments⟩ =>
    let base := if name.isEmpty then "()" else name
    let applied :=
      match sources arguments with
      | [] => base
      | texts => base ++ "<" ++ ", ".intercalate texts ++ ">"
    if nullable then "Option<" ++ applied ++ ">" else applied

/-- `source`, item by item. -/
def sources : List TypeExpr → List String
  | [] => []
  | t :: rest => source t :: sources rest

end

/-! ## documents -/

mutual

/-- The record of a type; a flag that is off and an empty list are left out. -/
def toTree : TypeExpr → Tree
  | ⟨name, nullable, arguments⟩ =>
    .record (("name", .text name) ::
      ((if nullable then [("nullable", .bool true)] else []) ++
        (if arguments.isEmpty then [] else [("arguments", .list (toTrees arguments))])))

/-- `toTree`, item by item. -/
def toTrees : List TypeExpr → List Tree
  | [] => []
  | t :: rest => toTree t :: toTrees rest

end

/-- Names of the fields, in order. -/
def fieldNames : List String := ["name", "nullable", "arguments"]

mutual

/-- Reads the record of a type, by field or by position. -/
def ofTree? : Tree → Option TypeExpr
  | .mapping entries => do
    let values ← Tree.namedFields fieldNames entries
    let arguments ← argumentsOf? entries
    build (values.take 2) arguments
  | .list items =>
    match items with
    | [name] => build [some name, none] []
    | [name, nullable] => build [some name, some nullable] []
    | [name, nullable, .list arguments] => do
      build [some name, some nullable] (← ofTrees? arguments)
    | _ => none
  | _ => none
where
  /-- The type, from the values of its first two fields. -/
  build (values : List (Option Tree)) (arguments : List TypeExpr) : Option TypeExpr := do
    match values with
    | [name, nullable] =>
      some ⟨← Tree.required Tree.asText? name, ← Tree.defaulted Tree.asBool? false nullable,
        arguments⟩
    | _ => none

/-- Reads the field of the arguments, which may be left out. -/
def argumentsOf? : List (Key × Tree) → Option (List TypeExpr)
  | [] => some []
  | (key, value) :: rest =>
    if key.isField fieldNames 2 then
      match value with
      | .list items => ofTrees? items
      | _ => none
    else argumentsOf? rest

/-- `ofTree?`, item by item. -/
def ofTrees? : List Tree → Option (List TypeExpr)
  | [] => some []
  | item :: rest => do
    let t ← ofTree? item
    let ts ← ofTrees? rest
    some (t :: ts)

end

end TypeExpr

end DaoForge
