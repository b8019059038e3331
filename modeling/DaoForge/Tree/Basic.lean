import DaoForge.Decimal.Double

/-!
# DaoForge.Tree.Basic

The data tree that JSON and YAML documents are read into and written from. A mapping keeps its entries
in the order in which they were written, repeats included, because the order of an annotation's
arguments decides which of two faults is reported. `Tree.record` is the mapping of named fields.

In YAML a key need not be a text. A whole number stands for the field of a record type at that place;
nothing else does.

`tagged` is a value under the name of a variant: JSON writes it as a record of one field, YAML as a
tag. Reading never produces it.

`Tree.fields` reads a record type with a fixed list of field names, in either of its two layouts.
-/

namespace DaoForge

/-- What an entry of a mapping is filed under. -/
inductive Key where
  | name (text : String)
  /-- The place of a field in its record type. -/
  | place (index : Nat)
  /-- Any other value. -/
  | other
  deriving DecidableEq, Repr

namespace Key

/-- The key's name, if it has one. -/
def name? : Key → Option String
  | .name text => some text
  | _ => none

/-- The key as a text. -/
def text : Key → String
  | .name text => text
  | .place index => toString index
  | .other => ""

/-- The key stands for the field at a place of a record type whose fields are `names`. -/
def isField (names : List String) (place : Nat) : Key → Bool
  | .name text => names[place]? == some text
  | .place index => index == place && place < names.length
  | .other => false

end Key

/-- A document's value. -/
inductive Tree where
  | null
  | bool (value : Bool)
  | int (value : Int)
  | float (value : Double)
  | text (value : String)
  | list (items : List Tree)
  | mapping (entries : List (Key × Tree))
  | tagged (tag : String) (value : Tree)
  deriving Inhabited, Repr

namespace Tree

/-- The mapping of named fields. -/
def record (fields : List (String × Tree)) : Tree :=
  .mapping (fields.map fun field => (.name field.1, field.2))

/-- A list of texts. -/
def texts (values : List String) : Tree := .list (values.map .text)

/-- The value if present, else `null`. -/
def ofOption {α : Type} (write : α → Tree) : Option α → Tree
  | some value => write value
  | none => .null

/-- First field of the name, if the value is a mapping that has it. -/
def field? (name : String) : Tree → Option Tree
  | .mapping entries => (entries.find? fun entry => entry.1 == .name name).map (·.2)
  | _ => none

def asBool? : Tree → Option Bool
  | .bool value => some value
  | _ => none

def asText? : Tree → Option String
  | .text value => some value
  | _ => none

def asList? : Tree → Option (List Tree)
  | .list items => some items
  | _ => none

def asInt? : Tree → Option Int
  | .int value => some value
  | _ => none

/-- An integer of 64 bits. -/
def asInt64? : Tree → Option Int64
  | .int value =>
    if Int64.minValue.toInt ≤ value ∧ value ≤ Int64.maxValue.toInt then some (Int64.ofInt value)
    else none
  | _ => none

/-- An integer that is not negative. -/
def asNat? : Tree → Option Nat
  | .int value => if 0 ≤ value then some value.toNat else none
  | _ => none

/-- All items read by `read`, or `none` if one of them is refused. -/
def asListOf? {α : Type} (read : Tree → Option α) : Tree → Option (List α)
  | .list items => items.mapM read
  | _ => none

def asTexts? : Tree → Option (List String) := asListOf? asText?

/-- The values of the field at a place of a record type whose fields are `names`. -/
def valuesOf (names : List String) (place : Nat) (entries : List (Key × Tree)) : List Tree :=
  entries.filterMap fun entry => if entry.1.isField names place then some entry.2 else none

/-- Values of a record type whose fields are `names`, absent ones as `none`, from a mapping in which
no field of the type repeats. Others are ignored, but they must be named or have a place. -/
def namedFields (names : List String) (entries : List (Key × Tree)) : Option (List (Option Tree)) :=
  if entries.any (·.1 == .other) then none
  else
    (List.range names.length).mapM fun place =>
      match valuesOf names place entries with
      | [] => some none
      | [value] => some (some value)
      | _ => none

/-- Values of a record type whose fields are `names`, absent ones as `none`. The value is a mapping
(`namedFields`), or the list of the fields' values in order, shortened at its end. -/
def fields (names : List String) : Tree → Option (List (Option Tree))
  | .mapping entries => namedFields names entries
  | .list items =>
    if items.length ≤ names.length then
      some (items.map some ++ List.replicate (names.length - items.length) none)
    else none
  | _ => none

/-- A field that must be there. -/
def required {α : Type} (read : Tree → Option α) (value : Option Tree) : Option α :=
  value.bind read

/-- A field that may be left out. -/
def defaulted {α : Type} (read : Tree → Option α) (default : α) : Option Tree → Option α
  | none => some default
  | some value => read value

/-- A field that may be left out or be `null`. -/
def optional {α : Type} (read : Tree → Option α) : Option Tree → Option (Option α)
  | none => some none
  | some .null => some none
  | some value => (read value).map some

end Tree

end DaoForge
