import DaoForge.Decimal.Shortest
import DaoForge.Tree.Basic
import DaoForge.Text.Quoted
import DaoForge.Yaml.Node.Grammar
import DaoForge.Yaml.Plain

/-!
# DaoForge.Yaml.Reading

Reading a YAML document as a value. `Node.toTree` takes a document as it is; who wants a value of a
certain shape reads the node itself and refuses what does not fit with a `Refusal`, which names the place
by the keys on the way to it.

1. The document is read from the front, so the first fault counts, whether of shape or of form.
2. Collections are at most 128 deep.
3. A text holds one document.
-/

namespace DaoForge.Yaml

/-- What was found where something else was wanted. -/
inductive Found where
  | unit
  | bool (value : Bool)
  | integer (value : Int)
  /-- An integer of more than 64 bits. -/
  | longInteger (value : Int)
  | float (value : Double)
  | text (value : String)
  | sequence
  | mapping
  deriving DecidableEq, Repr

/-- Wording of what was found. -/
def Found.message : Found → String
  | .unit => "unit value"
  | .bool value => "boolean \x60" ++ toString value ++ "\x60"
  | .integer value => "integer \x60" ++ toString value ++ "\x60"
  | .longInteger value =>
    "integer \x60" ++ toString value ++ "\x60 as " ++ if value < 0 then "i128" else "u128"
  | .float value => "floating point \x60" ++ value.pointText ++ "\x60"
  | .text value => "string " ++ quotedText value
  | .sequence => "sequence"
  | .mapping => "map"

/-- Why a document is refused. -/
inductive Refusal where
  | text (fault : TextFault)
  | severalDocuments
  | tooDeep (start : Position)
  /-- Another kind of value was wanted. -/
  | unexpected (path : String) (found : Found) (wanted : String) (start : Position)
  | repeatedField (path : String) (name : String) (start : Position)
  deriving DecidableEq, Repr

/-- A message behind the path of its place, unless that is the whole document. -/
def behindPath (path message : String) : String :=
  if path = "." then message else path ++ ": " ++ message

/-- Wording of the refusal. -/
def Refusal.message : Refusal → String
  | .text fault => fault.message
  | .severalDocuments =>
    "deserializing from YAML containing more than one document is not supported"
  | .tooDeep start => "recursion limit exceeded" ++ start.clause
  | .unexpected path found wanted start =>
    behindPath path ("invalid type: " ++ found.message ++ ", expected " ++ wanted) ++ start.clause
  | .repeatedField path name start =>
    behindPath path ("duplicate field \x60" ++ name ++ "\x60") ++ start.clause

/-! ## places -/

/-- The path of the whole document. -/
def rootPath : String := "."

/-- The path of a mapping's value. Only scalars have a name. -/
def entryPath (path : String) (key : Node) : String :=
  let name := match key with | .scalar text _ _ => text | _ => "?"
  if path = rootPath then name else path ++ "." ++ name

/-- The path of a sequence's item. -/
def itemPath (path : String) (index : Nat) : String := path ++ "[" ++ toString index ++ "]"

/-! ## any value -/

/-- What a scalar is, where another kind of value was wanted. -/
def Found.ofScalar (text : String) (isPlain : Bool) : Found :=
  if isPlain then
    match PlainValue.ofText text with
    | .null => .unit
    | .bool value => .bool value
    | .integer value _ =>
      if -(Nat.pow 2 63 : Int) ≤ value ∧ value < (Nat.pow 2 64 : Int) then .integer value
      else .longInteger value
    | .float value => .float value
    | .text => .text text
  else .text text

/-- A scalar as a value, and as the key of an entry. -/
def scalarValue (path text : String) (isPlain : Bool) (start : Position) :
    Except Refusal (Tree × Key) :=
  match Found.ofScalar text isPlain with
  | .bool value => .ok (.bool value, .other)
  | .integer value =>
    let isPlace := 0 ≤ value && text.toList.head? != some '-'
    .ok (.int value, if isPlace then .place value.toNat else .other)
  | .longInteger value => .error (.unexpected path (.longInteger value) "any value" start)
  | .float value => .ok (.float value, .other)
  | .text value => .ok (.text value, .name value)
  | _ => .ok (.null, .other)

namespace Node

mutual

/-- A node as a value, and as the key of an entry; `broken` is the fault of the text. Collections may be
`depth` deep. -/
def value (broken : Refusal) (path : String) (depth : Nat) : Node → Except Refusal (Tree × Key)
  | .scalar text isPlain start => scalarValue path text isPlain start
  | .sequence items start =>
    match depth with
    | 0 => .error (.tooDeep start)
    | depth + 1 => do return (.list (← values broken path depth 0 items), .other)
  | .mapping entries start =>
    match depth with
    | 0 => .error (.tooDeep start)
    | depth + 1 => do return (.mapping (← entryValues broken path depth entries), .other)
  | .missing => .error broken

/-- The items of a sequence from an index on. -/
def values (broken : Refusal) (path : String) (depth index : Nat) :
    List Node → Except Refusal (List Tree)
  | [] => .ok []
  | item :: rest => do
    let (first, _) ← value broken (itemPath path index) depth item
    return first :: (← values broken path depth (index + 1) rest)

/-- The entries of a mapping. -/
def entryValues (broken : Refusal) (path : String) (depth : Nat) :
    List (Node × Node) → Except Refusal (List (Key × Tree))
  | [] => .ok []
  | (keyNode, valueNode) :: rest => do
    let (_, key) ← value broken path depth keyNode
    let (first, _) ← value broken (entryPath path keyNode) depth valueNode
    return (key, first) :: (← entryValues broken path depth rest)

end

end Node

namespace Document

/-- The fault of a document that has a part missing. -/
def broken (d : Document) : Refusal :=
  .text (d.fault.getD (.form ⟨.endOfText, {}, none⟩))

/-- Reads the node of the document. Then the text must go on without fault to its end. -/
def read {α : Type} (d : Document) (node : Option Node → Except Refusal α) : Except Refusal α := do
  let value ← node d.root
  match d.fault with
  | some fault => .error (.text fault)
  | none => if d.isLast then return value else .error .severalDocuments

/-- The value of the document; null if there is none. -/
def toTree (d : Document) : Except Refusal Tree :=
  d.read fun
    | none => .ok .null
    | some node => do return (← node.value d.broken rootPath 128).1

end Document

end DaoForge.Yaml
