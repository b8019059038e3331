import DaoForge.Yaml.Fault

/-!
# DaoForge.Yaml.Node

A YAML document as it is written: scalars keep their text, and each node knows where it starts. What a
scalar means depends on who reads it.

A document of which only a part can be read is a node all the same: where the form of the text stops
making sense a part of it is missing, and everything before is there. So who reads a document from the
front meets its own faults and that of the text in the order in which they are written.
-/

namespace DaoForge.Yaml

/-- A node of a document. -/
inductive Node where
  /-- A plain scalar is written without quotes. -/
  | scalar (text : String) (isPlain : Bool) (start : Position)
  | sequence (items : List Node) (start : Position)
  | mapping (entries : List (Node × Node)) (start : Position)
  /-- What cannot be read. It is the last node of the document. -/
  | missing
  deriving Repr

/-- The node of nothing, at a place where a node could be. -/
def Node.empty (start : Position) : Node := .scalar "" true start

/-- The first document of a text. -/
structure Document where
  /-- There is none in a text of only blanks and comments. -/
  root : Option Node
  /-- What is wrong with the text up to the end of the document. -/
  fault : Option TextFault
  /-- Nothing follows it but the end of the text. -/
  isLast : Bool
  deriving Repr

end DaoForge.Yaml
