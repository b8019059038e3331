import DaoForge.Decimal.Shortest
import DaoForge.Tree.Basic

/-!
# DaoForge.Tree.JsonPrinter

JSON text of a data tree, on one line or indented by two spaces a level. A string escapes the quote,
the backslash and the control characters below U+0020 and shows all else as it is. A double is
written as its decimal text, with a point also when it is whole, so that it is read as a double
again; one that is not finite has no counterpart in JSON and becomes `null`.
-/

namespace DaoForge.Tree

/-- A hexadecimal digit in lower case. -/
def hexDigit (n : Nat) : Char := "0123456789abcdef".toList.getD n '0'

/-- A character inside a JSON string. -/
def jsonChar (c : Char) : List Char :=
  if c = '"' then ['\\', '"']
  else if c = '\\' then ['\\', '\\']
  else if c = '\n' then ['\\', 'n']
  else if c = '\r' then ['\\', 'r']
  else if c = '\t' then ['\\', 't']
  else if c.toNat = 8 then ['\\', 'b']
  else if c.toNat = 12 then ['\\', 'f']
  else if c.toNat < 32 then ['\\', 'u', '0', '0', hexDigit (c.toNat / 16), hexDigit (c.toNat % 16)]
  else [c]

/-- A JSON string, quotes included. -/
def jsonString (text : String) : String :=
  "\"" ++ String.ofList (text.toList.flatMap jsonChar) ++ "\""

/-- A double as a JSON number. -/
def jsonNumber (value : Double) : String := if value.isFinite then value.pointText else "null"

mutual

/-- JSON on one line, without a blank. -/
def toJson : Tree → String
  | .null => "null"
  | .bool value => if value then "true" else "false"
  | .int value => toString value
  | .float value => jsonNumber value
  | .text value => jsonString value
  | .list items => "[" ++ ",".intercalate (toJsonItems items) ++ "]"
  | .mapping entries => "\x7b" ++ ",".intercalate (toJsonEntries entries) ++ "\x7d"
  | .tagged tag value => "\x7b" ++ jsonString tag ++ ":" ++ toJson value ++ "\x7d"

def toJsonItems : List Tree → List String
  | [] => []
  | item :: rest => toJson item :: toJsonItems rest

def toJsonEntries : List (Key × Tree) → List String
  | [] => []
  | (key, value) :: rest => (jsonString key.text ++ ":" ++ toJson value) :: toJsonEntries rest

end

/-- The line break that opens an indented line. -/
def indentedLine (depth : Nat) : String :=
  "\n" ++ String.ofList (List.replicate (2 * depth) ' ')

/-- Lines between two brackets, one level deeper than the brackets. -/
def block (opening closing : String) (depth : Nat) (lines : List String) : String :=
  if lines.isEmpty then opening ++ closing
  else
    opening ++ indentedLine (depth + 1) ++
      ("," ++ indentedLine (depth + 1)).intercalate lines ++ indentedLine depth ++ closing

mutual

/-- JSON with one field or item a line, indented by two spaces a level. -/
def toPrettyJson (depth : Nat) : Tree → String
  | .list items => block "[" "]" depth (toPrettyItems (depth + 1) items)
  | .mapping entries => block "\x7b" "\x7d" depth (toPrettyEntries (depth + 1) entries)
  | .tagged tag value =>
    block "\x7b" "\x7d" depth [jsonString tag ++ ": " ++ toPrettyJson (depth + 1) value]
  | .null => "null"
  | .bool value => if value then "true" else "false"
  | .int value => toString value
  | .float value => jsonNumber value
  | .text value => jsonString value

def toPrettyItems (depth : Nat) : List Tree → List String
  | [] => []
  | item :: rest => toPrettyJson depth item :: toPrettyItems depth rest

def toPrettyEntries (depth : Nat) : List (Key × Tree) → List String
  | [] => []
  | (key, value) :: rest =>
    (jsonString key.text ++ ": " ++ toPrettyJson depth value) :: toPrettyEntries depth rest

end

end DaoForge.Tree
