import DaoForge.Mark.Constant
import DaoForge.Declaration.Mark
import DaoForge.Decimal.Shortest
import DaoForge.Diagnostic

/-!
# DaoForge.Mark.Reading

Reading the attributes of an annotation. A typed record says which attributes it reads and how
(`MarkRecord`). Reading keeps account of the attributes that it looked at, written or not
(`AttributeReader`); an argument that it did not look at is refused, the first one in the order in
which they were written.

Attributes that hold a list also take a single value for a list of one.
-/

namespace DaoForge

/-! ## values -/

namespace MarkValue

def asText? : MarkValue → Option String
  | .text value => some value
  | _ => none

/-- An SQL literal: a text as it is, a number as its decimal text, a boolean as 1 or 0. -/
def asLiteral? : MarkValue → Option String
  | .text value => some value
  | .integer value => some (toString value.toInt)
  | .float value => some value.text
  | .bool value => some (if value then "1" else "0")
  | _ => none

def asBool? : MarkValue → Option Bool
  | .bool value => some value
  | _ => none

def asInteger? : MarkValue → Option Int64
  | .integer value => some value
  | _ => none

/-- A type literal, normalized. A text that is not blank is the path of a type. -/
def asType? : MarkValue → Option TypeExpr
  | .type value => some value.normalized
  | .text path => if isBlankText path then none else some (TypeExpr.ofName (trimBlank path))
  | _ => none

end MarkValue

/-! ## attributes -/

/-- Reading attributes one after the other, with the names of those that were looked at so far. -/
abbrev AttributeReader : Type → Type := StateT (List String) (Except ValidationError)

/-- A typed annotation record. -/
class MarkRecord (R : Type) where
  /-- Simple name of the annotation. -/
  name : String
  /-- Reads the attributes. -/
  parse : Mark → AttributeReader R

namespace Mark

/-- The error for an attribute of the wrong kind. -/
def invalid (a : Mark) (key expected : String) (found : MarkValue) :
    ValidationError :=
  .invalidAttributeValue a.simpleName key expected found.kind

/-- Looks at an attribute, whose value is read by `read`. -/
def look {α : Type} (a : Mark) (key : String)
    (read : Option MarkValue → Except ValidationError α) : AttributeReader α := fun taken =>
  (read (a.argument? key)).map fun result => (result, taken ++ [key])

/-- A value read by `read`; `none` from it means that the kind is wrong. -/
def readValue {α : Type} (a : Mark) (key expected : String) (read : MarkValue → Option α)
    (value : MarkValue) : Except ValidationError α :=
  match read value with
  | some result => .ok result
  | none => .error (a.invalid key expected value)

/-- An attribute that may be left out. -/
def readArgument {α : Type} (a : Mark) (key : String)
    (read : MarkValue → Except ValidationError α) : AttributeReader (Option α) :=
  a.look key fun
    | none => .ok none
    | some value => (read value).map some

/-- Items of a list attribute, in order, up to the first that is refused. -/
def readItems {α : Type} (a : Mark) (key : String)
    (read : MarkValue → Except ValidationError α) : AttributeReader (List α) :=
  a.look key fun
    | none => .ok []
    | some (.array items) => items.mapM read
    | some value => do return [← read value]

/-- An attribute that must be there. -/
def require {α : Type} (a : Mark) (key : String) (value : Option α) : AttributeReader α :=
  match value with
  | some value => return value
  | none => throw (.missingAttribute a.simpleName key)

def textArgument (a : Mark) (key : String) : AttributeReader (Option String) :=
  a.readArgument key (a.readValue key "a string" MarkValue.asText?)

def literalArgument (a : Mark) (key : String) : AttributeReader (Option String) :=
  a.readArgument key (a.readValue key "a literal" MarkValue.asLiteral?)

def boolArgument (a : Mark) (key : String) : AttributeReader (Option Bool) :=
  a.readArgument key (a.readValue key "a boolean" MarkValue.asBool?)

def integerArgument (a : Mark) (key : String) : AttributeReader (Option Int64) :=
  a.readArgument key (a.readValue key "an integer" MarkValue.asInteger?)

def typeArgument (a : Mark) (key : String) : AttributeReader (Option TypeExpr) :=
  a.readArgument key (a.readValue key "a class literal" MarkValue.asType?)

def typesArgument (a : Mark) (key : String) : AttributeReader (List TypeExpr) :=
  a.readItems key (a.readValue key "an array of class literals" MarkValue.asType?)

def textsArgument (a : Mark) (key : String) : AttributeReader (List String) :=
  a.readItems key (a.readValue key "an array of strings" MarkValue.asText?)

/-- A constant, written as an enum literal or as a text. -/
def constantValue (α : Type) [Constant α] (a : Mark) (key : String) :
    MarkValue → Except ValidationError α
  | .constant text | .text text =>
    match Constant.ofText? α text with
    | some value => .ok value
    | none =>
      .error (.unknownConstant (Constant.kind α) text (", ".intercalate (Constant.names α)))
  | value => .error (a.invalid key "an enum constant" value)

/-- A constant; its type's default if it is not written. -/
def constantArgument (α : Type) [Constant α] (a : Mark) (key : String) : AttributeReader α := do
  return (← a.readArgument key (constantValue α a key)).getD Constant.default

def constantsArgument (α : Type) [Constant α] (a : Mark) (key : String) :
    AttributeReader (List α) :=
  a.readItems key (constantValue α a key)

/-- First argument, in the order written, that was not looked at. -/
def unread? (a : Mark) (taken : List String) : Option String :=
  (a.arguments.find? fun argument => !taken.contains argument.1).map (·.1)

/-- Reads an annotation as a record: the name must be the record's, the attributes must be well
formed, and no argument may be left over. -/
def read (R : Type) [MarkRecord R] (a : Mark) : Except ValidationError R :=
  if a.isNamed (MarkRecord.name R) then do
    let (record, taken) ← (MarkRecord.parse a).run []
    match a.unread? taken with
    | none => return record
    | some key => throw (.unknownAttribute a.simpleName key)
  else
    .error (.unexpectedMark (MarkRecord.name R) a.name)

/-- A nested annotation, read as a record. -/
def nestedValue (R : Type) [MarkRecord R] (a : Mark) (key : String) :
    MarkValue → Except ValidationError R
  | .nested name arguments => read R ⟨name, arguments⟩
  | value => .error (a.invalid key "a nested annotation" value)

def nestedArgument (R : Type) [MarkRecord R] (a : Mark) (key : String) :
    AttributeReader (Option R) :=
  a.readArgument key (nestedValue R a key)

def nestedListArgument (R : Type) [MarkRecord R] (a : Mark) (key : String) :
    AttributeReader (List R) :=
  a.readItems key (nestedValue R a key)

/-- The one annotation of a record's name, read; absent is fine, repeated is not. -/
def find (R : Type) [MarkRecord R] (annotations : List Mark) :
    Except ValidationError (Option R) :=
  match annotations.filter (·.isNamed (MarkRecord.name R)) with
  | [] => .ok none
  | [a] => (read R a).map some
  | _ => .error (.repeatedMark (MarkRecord.name R))

/-- An annotation of the record's name is present, well formed or not. -/
def has (R : Type) [MarkRecord R] (annotations : List Mark) : Bool :=
  isPresent annotations (MarkRecord.name R)

end Mark

end DaoForge
