import DaoForge.Text.CharClass

/-!
# DaoForge.Text.Path

Paths are names joined by `::`. Declarations are looked up, annotations are recognised and generated
items are named by the last name of a path.

* `simpleName` is what follows the last `::`;
* `segments` cuts a path at every `::`, from the left;
* `trimBlank` removes white space at both ends, `trimBlankEnd` at the end only.
-/

namespace DaoForge

/-- The characters before the first `::`, or all of them. Read from the end of a path this is its
last name, reversed. -/
def beforeSeparator : List Char → List Char
  | [] => []
  | [c] => [c]
  | c :: d :: rest => if c = ':' ∧ d = ':' then [] else c :: beforeSeparator (d :: rest)

/-- Last name of a path: `User` for `crate::model::User`. -/
def simpleName (path : String) : String :=
  String.ofList (beforeSeparator path.toList.reverse).reverse

/-- Some `::` occurs among the characters. -/
def hasSeparator : List Char → Bool
  | [] => false
  | [_] => false
  | c :: d :: rest => (c == ':' && d == ':') || hasSeparator (d :: rest)

/-- The path has more than one name. -/
def isQualified (path : String) : Bool := hasSeparator path.toList

/-- Cuts at every `::`, reading from the left; `current` holds the open name, reversed. -/
def segmentsFrom (current : List Char) : List Char → List (List Char)
  | [] => [current.reverse]
  | [c] => [(c :: current).reverse]
  | c :: d :: rest =>
    if c = ':' ∧ d = ':' then current.reverse :: segmentsFrom [] rest
    else segmentsFrom (c :: current) (d :: rest)

/-- The names of a path, in order. -/
def segments (path : String) : List String :=
  (segmentsFrom [] path.toList).map String.ofList

/-- The path without one leading `::`. -/
def dropLeadingSeparator (path : String) : String :=
  match path.toList with
  | ':' :: ':' :: rest => String.ofList rest
  | _ => path

/-- Characters without white space at both ends. -/
def trimBlankChars (cs : List Char) : List Char :=
  ((cs.dropWhile CharClass.isBlank).reverse.dropWhile CharClass.isBlank).reverse

/-- Text without white space at both ends. -/
def trimBlank (text : String) : String := String.ofList (trimBlankChars text.toList)

/-- Text without white space at its end. -/
def trimBlankEnd (text : String) : String :=
  String.ofList (text.toList.reverse.dropWhile CharClass.isBlank).reverse

/-- The text consists of white space only, or is empty. -/
def isBlankText (text : String) : Bool := text.toList.all CharClass.isBlank

/-- A non-empty name of ASCII letters, digits and underscores that does not open with a digit. -/
def isAsciiName (text : String) : Bool :=
  match text.toList with
  | [] => false
  | c :: rest => CharClass.isNameStart c && rest.all CharClass.isNameContinue

end DaoForge
