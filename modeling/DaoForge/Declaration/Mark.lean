import DaoForge.Declaration.TypeExpr

/-!
# DaoForge.Declaration.Mark

Annotations with their raw arguments. Arguments keep the order in which they were written.

The form of a value in a document has no tag of its own, so reading tries, in this order: boolean,
integer of 64 bits, double, text, array of values, type literal (a record with `class`), enum literal
(a record with `enum`), annotation. An annotation may also be written by position, so an array that
is no array of values can still be one.
-/

namespace DaoForge

/-- Value of an annotation's argument. -/
inductive MarkValue where
  | bool (value : Bool)
  | integer (value : Int64)
  | float (value : Double)
  | text (value : String)
  | array (items : List MarkValue)
  | type (value : TypeExpr)
  | constant (name : String)
  | nested (name : String) (arguments : List (String × MarkValue))
  deriving Repr, Inhabited

/-- An annotation: its name and its arguments, no argument name twice. -/
structure Mark where
  name : String
  arguments : List (String × MarkValue) := []
  deriving Repr, Inhabited

namespace MarkValue

mutual

/-- Equality of values is decided part by part. -/
def decEq : (v w : MarkValue) → Decidable (v = w)
  | .bool x, .bool y => decidable_of_iff (x = y) (by simp)
  | .integer x, .integer y => decidable_of_iff (x = y) (by simp)
  | .float x, .float y => decidable_of_iff (x = y) (by simp)
  | .text x, .text y => decidable_of_iff (x = y) (by simp)
  | .array xs, .array ys =>
    match decEqList xs ys with
    | isTrue h => isTrue (by rw [h])
    | isFalse h => isFalse fun e => h (MarkValue.array.inj e)
  | .type x, .type y => decidable_of_iff (x = y) (by simp)
  | .constant x, .constant y => decidable_of_iff (x = y) (by simp)
  | .nested x xs, .nested y ys =>
    if h : x = y then
      match decEqFields xs ys with
      | isTrue h' => isTrue (by rw [h, h'])
      | isFalse h' => isFalse fun e => h' (MarkValue.nested.inj e).2
    else isFalse fun e => h (MarkValue.nested.inj e).1
  | .bool _, .integer _ | .bool _, .float _ | .bool _, .text _ | .bool _, .array _
  | .bool _, .type _ | .bool _, .constant _ | .bool _, .nested _ _
  | .integer _, .bool _ | .integer _, .float _ | .integer _, .text _ | .integer _, .array _
  | .integer _, .type _ | .integer _, .constant _ | .integer _, .nested _ _
  | .float _, .bool _ | .float _, .integer _ | .float _, .text _ | .float _, .array _
  | .float _, .type _ | .float _, .constant _ | .float _, .nested _ _
  | .text _, .bool _ | .text _, .integer _ | .text _, .float _ | .text _, .array _
  | .text _, .type _ | .text _, .constant _ | .text _, .nested _ _
  | .array _, .bool _ | .array _, .integer _ | .array _, .float _ | .array _, .text _
  | .array _, .type _ | .array _, .constant _ | .array _, .nested _ _
  | .type _, .bool _ | .type _, .integer _ | .type _, .float _ | .type _, .text _
  | .type _, .array _ | .type _, .constant _ | .type _, .nested _ _
  | .constant _, .bool _ | .constant _, .integer _ | .constant _, .float _ | .constant _, .text _
  | .constant _, .array _ | .constant _, .type _ | .constant _, .nested _ _
  | .nested _ _, .bool _ | .nested _ _, .integer _ | .nested _ _, .float _
  | .nested _ _, .text _ | .nested _ _, .array _ | .nested _ _, .type _
  | .nested _ _, .constant _ => isFalse nofun

def decEqList : (vs ws : List MarkValue) → Decidable (vs = ws)
  | [], [] => isTrue rfl
  | [], _ :: _ => isFalse nofun
  | _ :: _, [] => isFalse nofun
  | v :: vs, w :: ws =>
    match decEq v w, decEqList vs ws with
    | isTrue h, isTrue h' => isTrue (by rw [h, h'])
    | isFalse h, _ => isFalse fun e => h (List.cons.inj e).1
    | _, isFalse h => isFalse fun e => h (List.cons.inj e).2

def decEqFields : (vs ws : List (String × MarkValue)) → Decidable (vs = ws)
  | [], [] => isTrue rfl
  | [], _ :: _ => isFalse nofun
  | _ :: _, [] => isFalse nofun
  | (x, v) :: vs, (y, w) :: ws =>
    if h : x = y then
      match decEq v w, decEqFields vs ws with
      | isTrue h', isTrue h'' => isTrue (by rw [h, h', h''])
      | isFalse h', _ => isFalse fun e => h' (Prod.mk.inj (List.cons.inj e).1).2
      | _, isFalse h' => isFalse fun e => h' (List.cons.inj e).2
    else isFalse fun e => h (Prod.mk.inj (List.cons.inj e).1).1

end

instance : DecidableEq MarkValue := decEq

/-- The name of a value's kind, as diagnostics write it. -/
def kind : MarkValue → String
  | .bool _ => "boolean"
  | .integer _ => "integer"
  | .float _ => "float"
  | .text _ => "string"
  | .array _ => "array"
  | .type _ => "class literal"
  | .constant _ => "enum constant"
  | .nested _ _ => "annotation"

end MarkValue

deriving instance DecidableEq for Mark

namespace Mark

/-- Last name of the annotation's path. -/
def simpleName (a : Mark) : String := DaoForge.simpleName a.name

/-- Annotations are recognised by the last name of their path. -/
def isNamed (a : Mark) (name : String) : Bool := a.simpleName == DaoForge.simpleName name

/-- The argument of the name. -/
def argument? (a : Mark) (name : String) : Option MarkValue :=
  (a.arguments.find? fun argument => argument.1 == name).map (·.2)

/-- First annotation of the name. -/
def first? (annotations : List Mark) (name : String) : Option Mark :=
  annotations.find? (·.isNamed name)

/-- Some annotation has the name. -/
def isPresent (annotations : List Mark) (name : String) : Bool :=
  annotations.any (·.isNamed name)

end Mark

/-! ## documents -/

namespace MarkValue

mutual

/-- The document form of a value. -/
def toTree : MarkValue → Tree
  | .bool value => .bool value
  | .integer value => .int value.toInt
  | .float value => .float value
  | .text value => .text value
  | .array items => .list (toTrees items)
  | .type value => .record [("class", value.toTree)]
  | .constant name => .record [("enum", .text name)]
  | .nested name arguments =>
    .record (("name", .text name) ::
      (if arguments.isEmpty then [] else [("arguments", .record (toFields arguments))]))

/-- `toTree`, item by item. -/
def toTrees : List MarkValue → List Tree
  | [] => []
  | value :: rest => toTree value :: toTrees rest

/-- `toTree`, argument by argument. -/
def toFields : List (String × MarkValue) → List (String × Tree)
  | [] => []
  | (name, value) :: rest => (name, toTree value) :: toFields rest

end

/-- Puts an argument in front of those written after it: of two arguments of one name the first
keeps its place and the last its value. -/
def consArgument (name : String) (value : MarkValue)
    (later : List (String × MarkValue)) : List (String × MarkValue) :=
  match later.find? fun argument => argument.1 == name with
  | some (_, last) => (name, last) :: later.filter fun argument => argument.1 != name
  | none => (name, value) :: later

/-- Names of an annotation's fields, in order. -/
def fieldNames : List String := ["name", "arguments"]

/-- A type or an enum literal, or else an annotation with the arguments that were read. -/
def ofEntries? (entries : List (Key × Tree))
    (arguments : Option (List (String × MarkValue))) : Option MarkValue :=
  let first (names : List String) : Option Tree :=
    (Tree.namedFields names entries).bind fun values => values.head?.join
  ((first ["class"]).bind TypeExpr.ofTree?).map .type <|>
    ((first ["enum"]).bind Tree.asText?).map .constant <|> do
      some (.nested (← (first fieldNames).bind Tree.asText?) (← arguments))

mutual

/-- Reads a value by the first form that fits. -/
def ofTree? : Tree → Option MarkValue
  | .null => none
  | .bool value => some (.bool value)
  | .int value =>
    match (Tree.int value).asInt64? with
    | some value => some (.integer value)
    | none => some (.float (Double.ofInt value))
  | .float value => some (.float value)
  | .text value => some (.text value)
  | .list items =>
    match ofTrees? items with
    | some values => some (.array values)
    | none => ofPlaces? items
  | .mapping entries => ofEntries? entries (argumentsOf? entries)
  | .tagged _ _ => none

/-- `ofTree?`, item by item. -/
def ofTrees? : List Tree → Option (List MarkValue)
  | [] => some []
  | item :: rest => do
    let value ← ofTree? item
    let values ← ofTrees? rest
    some (value :: values)

/-- Reads an annotation that is written by position. -/
def ofPlaces? : List Tree → Option MarkValue
  | [.text name, .mapping entries] => do some (.nested name (← ofArguments? entries))
  | _ => none

/-- Reads every entry as an argument, which must have a name. -/
def ofArguments? : List (Key × Tree) → Option (List (String × MarkValue))
  | [] => some []
  | (key, value) :: rest => do
    let name ← key.name?
    let value ← ofTree? value
    let later ← ofArguments? rest
    some (consArgument name value later)

/-- Reads the field of an annotation's arguments, which may be left out. -/
def argumentsOf? : List (Key × Tree) → Option (List (String × MarkValue))
  | [] => some []
  | (key, value) :: rest =>
    if key.isField fieldNames 1 then
      match value with
      | .mapping entries => ofArguments? entries
      | _ => none
    else argumentsOf? rest

end

end MarkValue

namespace Mark

/-- The record of an annotation. -/
def toTree (a : Mark) : Tree := (MarkValue.nested a.name a.arguments).toTree

/-- Reads the record of an annotation, by field or by position. -/
def ofTree? : Tree → Option Mark
  | .mapping entries => do
    let values ← Tree.namedFields MarkValue.fieldNames entries
    let name ← Tree.required Tree.asText? (values.head?.join)
    some ⟨name, ← MarkValue.argumentsOf? entries⟩
  | .list [.text name] => some ⟨name, []⟩
  | .list [.text name, .mapping entries] => do
    some ⟨name, ← MarkValue.ofArguments? entries⟩
  | _ => none

end Mark

end DaoForge
