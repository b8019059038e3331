/-!
# DaoForge.Sql.Identifier

Quoted identifiers. Every name in generated SQL stands between backticks and a backtick inside it is
written twice, so that a name may be a keyword or hold any character.
-/

namespace DaoForge.Sql

/-- The characters of a name with its backticks doubled. -/
def escape : List Char → List Char
  | [] => []
  | c :: rest => if c = '\x60' then c :: c :: escape rest else c :: escape rest

/-- A name as a quoted identifier. -/
def quote (name : String) : String := "\x60" ++ String.ofList (escape name.toList) ++ "\x60"

/-- Items with commas between them. -/
def commaList (items : List String) : String := ", ".intercalate items

/-- Quoted names with commas between them. -/
def quoteAll (names : List String) : String := commaList (names.map quote)

end DaoForge.Sql
