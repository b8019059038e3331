import DaoForge.Code.Token
import DaoForge.Diagnostic

/-!
# DaoForge.Code.Ident

Identifiers of generated code. A name that is a keyword is written raw, as `r#type`; a few keywords
cannot be written that way and are refused, as is every name that is no identifier at all. What counts as
a letter or a numeral there is not quite what an identifier may consist of.
-/

namespace DaoForge

/-- The words that cannot be plain identifiers. -/
def keywords : List String :=
  ["abstract", "as", "async", "await", "become", "box", "break", "const", "continue", "crate", "do",
    "dyn", "else", "enum", "extern", "false", "final", "fn", "for", "if", "impl", "in", "let", "loop",
    "macro", "match", "mod", "move", "mut", "override", "priv", "pub", "ref", "return", "Self", "self",
    "static", "struct", "super", "trait", "true", "try", "type", "typeof", "unsafe", "unsized", "use",
    "virtual", "where", "while", "yield"]

def isKeyword (name : String) : Bool := keywords.contains name

/-- The keywords that have no raw form. -/
def isReserved (name : String) : Bool := ["self", "Self", "super", "crate"].contains name

/-- An identifier. -/
structure Ident where
  name : String
  isRaw : Bool
  deriving DecidableEq, Repr

namespace Ident

def text (i : Ident) : String := if i.isRaw then "r#" ++ i.name else i.name

def code (i : Ident) : Code := Code.word i.text

/-- A letter or underscore, then letters, numerals and underscores, and more than an underscore. -/
def isWellFormed (name : String) : Bool :=
  match name.toList with
  | [] => false
  | c :: rest =>
    (CharClass.isAlphabetic c || c == '_') &&
      rest.all (fun d => CharClass.isAlphanumeric d || d == '_') && name != "_"

/-- The characters are those of an identifier in code. -/
def isPlain (name : String) : Bool :=
  match name.toList with
  | [] => false
  | c :: rest => CharClass.isIdentifierStart c && rest.all CharClass.isIdentifierContinue

/-- The identifier of a name. Some numerals are accepted in a name that no identifier can have. -/
def of (name : String) : Except GenerationError Ident :=
  if !isWellFormed name || isReserved name then .error (.invalidIdentifier name)
  else if isPlain name then .ok ⟨name, isKeyword name⟩
  else .error (.unwritableIdentifier name)

end Ident

end DaoForge
