import DaoForge.Yaml.Reading

/-!
# DaoForge.Yaml.Fields

Reading a record type from a YAML document, straight from the nodes, so that a refusal can tell where
it was met. Names of fields and texts are scalars as they are written. Fields that the type does not
have are skipped, whatever they hold.
-/

namespace DaoForge.Yaml.Node

/-- Where a node is read. -/
structure Reader where
  /-- The refusal of a document that has a part missing. -/
  broken : Refusal
  /-- The path of the node. -/
  path : String

namespace Reader

/-- Refuses a node, where another kind of value was wanted. -/
def refuse {α : Type} (r : Reader) (wanted : String) : Node → Except Refusal α
  | .scalar text isPlain start => .error (.unexpected r.path (.ofScalar text isPlain) wanted start)
  | .sequence _ start => .error (.unexpected r.path .sequence wanted start)
  | .mapping _ start => .error (.unexpected r.path .mapping wanted start)
  | .missing => .error r.broken

/-- The text of a scalar, however it is written. -/
def text (r : Reader) : Node → Except Refusal String
  | .scalar text _ _ => .ok text
  | node => r.refuse "a string" node

/-- A boolean; in quotes there is none. -/
def bool (r : Reader) (node : Node) : Except Refusal Bool :=
  match node with
  | .scalar text true _ =>
    match readBool text with
    | some value => .ok value
    | none => r.refuse "a boolean" node
  | _ => r.refuse "a boolean" node

end Reader

/-! ## what is skipped -/

mutual

/-- No part of the node is missing. -/
def isWhole : Node → Bool
  | .scalar .. => true
  | .sequence items _ => areWhole items
  | .mapping entries _ => entriesAreWhole entries
  | .missing => false

/-- `isWhole`, item by item. -/
def areWhole : List Node → Bool
  | [] => true
  | node :: rest => isWhole node && areWhole rest

/-- `isWhole`, entry by entry. -/
def entriesAreWhole : List (Node × Node) → Bool
  | [] => true
  | (key, value) :: rest => isWhole key && isWhole value && entriesAreWhole rest

end

namespace Reader

/-- Skips a node. -/
def skip (r : Reader) (node : Node) : Except Refusal Unit :=
  if node.isWhole then .ok () else .error r.broken

/-! ## records -/

/-- A field of a record type: its name, and how the record takes its value. -/
structure Field (α : Type) where
  name : String
  set : Reader → Node → α → Except Refusal α

/-- Reads the entries of a record that starts at a position. `seen` are the fields before them. -/
def entries {α : Type} (r : Reader) (fields : List (Field α)) (start : Position)
    (seen : List String) (record : α) : List (Node × Node) → Except Refusal α
  | [] => .ok record
  | (key, value) :: rest => do
    let name ←
      match key with
      | .scalar text _ _ => .ok text
      | _ => r.refuse "field identifier" key
    let inner : Reader := { r with path := entryPath r.path key }
    match fields.find? (·.name == name) with
    | none =>
      inner.skip value
      entries r fields start seen record rest
    | some field =>
      if seen.contains name then .error (.repeatedField r.path name start)
      entries r fields start (name :: seen) (← field.set inner value record) rest

/-- Reads a record of which every field may be left out; `standard` has the values of those that are. An
empty plain scalar has no fields. -/
def record {α : Type} (r : Reader) (wanted : String) (fields : List (Field α)) (standard : α)
    (node : Node) : Except Refusal α :=
  match node with
  | .mapping list start => r.entries fields start [] standard list
  | .scalar "" true _ => .ok standard
  | _ => r.refuse wanted node

end Reader

end DaoForge.Yaml.Node
