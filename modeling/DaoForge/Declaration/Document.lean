import DaoForge.Declaration.Basic

/-!
# DaoForge.Declaration.Document

The form of declarations in documents. Each record is read by field or by position
(`Tree.fields`): unknown fields are ignored, fields with a default may be left out, and a shape that
does not fit refuses the whole document. Writing leaves out what a default restores, so that reading
a written declaration gives it back.

A file holds a record with the field `declarations`, a list of declarations, or one declaration; the
first layout that fits is taken.
-/

namespace DaoForge

/-- A list field, left out when empty. -/
def listField {α : Type} (name : String) (write : α → Tree) (items : List α) :
    List (String × Tree) :=
  if items.isEmpty then [] else [(name, .list (items.map write))]

namespace Property

def toTree (p : Property) : Tree :=
  .record ([("name", .text p.name), ("type", p.type.toTree)] ++
    listField "annotations" Mark.toTree p.annotations)

def ofTree? (tree : Tree) : Option Property :=
  match tree.fields ["name", "type", "annotations"] with
  | some [name, type, annotations] => do
    some ⟨← Tree.required Tree.asText? name, ← Tree.required TypeExpr.ofTree? type,
      ← Tree.defaulted (Tree.asListOf? Mark.ofTree?) [] annotations⟩
  | _ => none

end Property

namespace Parameter

def toTree (p : Parameter) : Tree := .record [("name", .text p.name), ("type", p.type.toTree)]

def ofTree? (tree : Tree) : Option Parameter :=
  match tree.fields ["name", "type"] with
  | some [name, type] => do
    some ⟨← Tree.required Tree.asText? name, ← Tree.required TypeExpr.ofTree? type⟩
  | _ => none

end Parameter

namespace Function

def toTree (f : Function) : Tree :=
  .record ([("name", .text f.name)] ++ listField "parameters" Parameter.toTree f.parameters ++
    (match f.returnType with
      | some type => [("return_type", type.toTree)]
      | none => []) ++
    listField "annotations" Mark.toTree f.annotations ++
    [("is_abstract", .bool f.isAbstract)])

def ofTree? (tree : Tree) : Option Function :=
  match tree.fields ["name", "parameters", "return_type", "annotations", "is_abstract"] with
  | some [name, parameters, returnType, annotations, isAbstract] => do
    some
      { name := ← Tree.required Tree.asText? name
        parameters := ← Tree.defaulted (Tree.asListOf? Parameter.ofTree?) [] parameters
        returnType := ← Tree.optional TypeExpr.ofTree? returnType
        annotations := ← Tree.defaulted (Tree.asListOf? Mark.ofTree?) [] annotations
        isAbstract := ← Tree.defaulted Tree.asBool? true isAbstract }
  | _ => none

end Function

namespace Constructor

def toTree (c : Constructor) : Tree :=
  .record [("name", .text c.name), ("parameters", .list (c.parameters.map Parameter.toTree))]

def ofTree? (tree : Tree) : Option Constructor :=
  match tree.fields ["name", "parameters"] with
  | some [name, parameters] => do
    some ⟨← Tree.required Tree.asText? name,
      ← Tree.defaulted (Tree.asListOf? Parameter.ofTree?) [] parameters⟩
  | _ => none

end Constructor

namespace DeclarationKind

/-- The word for the kind. -/
def word : DeclarationKind → String
  | .struct => "struct"
  | .trait => "trait"

def ofWord? (word : String) : Option DeclarationKind :=
  if word = "struct" then some .struct else if word = "trait" then some .trait else none

/-- A word or the place of one. -/
def ofKey? (key : Key) : Option DeclarationKind :=
  if key.isField ["struct", "trait"] 0 then some .struct
  else if key.isField ["struct", "trait"] 1 then some .trait
  else none

/-- A word, or the mapping of a key with no value. -/
def ofTree? : Tree → Option DeclarationKind
  | .text word => ofWord? word
  | .mapping [(key, .null)] => ofKey? key
  | _ => none

theorem ofTree?_word (kind : DeclarationKind) : ofTree? (.text kind.word) = some kind := by
  cases kind <;> rfl

end DeclarationKind

namespace Declaration

def toTree (d : Declaration) : Tree :=
  .record ([("qualified_name", .text d.qualifiedName), ("kind", .text d.kind.word)] ++
    listField "annotations" Mark.toTree d.annotations ++
    listField "properties" Property.toTree d.properties ++
    listField "functions" Function.toTree d.functions ++
    (match d.constructor with
      | some c => [("constructor", c.toTree)]
      | none => []) ++
    listField "supertypes" TypeExpr.toTree d.supertypes)

def ofTree? (tree : Tree) : Option Declaration :=
  match tree.fields
      ["qualified_name", "kind", "annotations", "properties", "functions", "constructor",
        "supertypes"] with
  | some [qualifiedName, kind, annotations, properties, functions, constructor, supertypes] => do
    some
      { qualifiedName := ← Tree.required Tree.asText? qualifiedName
        kind := ← Tree.defaulted DeclarationKind.ofTree? .struct kind
        annotations := ← Tree.defaulted (Tree.asListOf? Mark.ofTree?) [] annotations
        properties := ← Tree.defaulted (Tree.asListOf? Property.ofTree?) [] properties
        functions := ← Tree.defaulted (Tree.asListOf? Function.ofTree?) [] functions
        constructor := ← Tree.optional Constructor.ofTree? constructor
        supertypes := ← Tree.defaulted (Tree.asListOf? TypeExpr.ofTree?) [] supertypes }
  | _ => none

/-- The list layout of a file. -/
def listOfTree? : Tree → Option (List Declaration) := Tree.asListOf? ofTree?

/-- The layout of a file with a field `declarations`. -/
def documentOfTree? : Tree → Option (List Declaration)
  | .mapping entries =>
    match Tree.namedFields ["declarations"] entries with
    | some [some value] => listOfTree? value
    | _ => none
  | _ => none

/-- The declarations of a file, in the first layout that fits. -/
def fileOfTree? (tree : Tree) : Option (List Declaration) :=
  documentOfTree? tree <|> listOfTree? tree <|> (ofTree? tree).map fun d => [d]

end Declaration

end DaoForge
