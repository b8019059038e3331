import DaoForge.Text.Path

/-!
# DaoForge.Mark.Constant

Attributes whose value is one of a fixed list of constants. A constant may be written with a path in
front of it, joined by dots or colons (`OnConflict.REPLACE`); only what follows the last of them
counts.
-/

namespace DaoForge

/-- A type of named constants. -/
class Constant (α : Type) where
  /-- Name of the type, as diagnostics write it. -/
  kind : String
  /-- Every constant, in the order in which diagnostics list them. -/
  all : List α
  /-- Name of a constant. -/
  name : α → String
  /-- The constant of an attribute that is not written. -/
  default : α

namespace Constant

/-- The last name of a constant's path. -/
def lastName (text : String) : String :=
  String.ofList (text.toList.reverse.takeWhile fun c => c != '.' && c != ':').reverse

/-- The constant that a text names. -/
def ofText? (α : Type) [Constant α] (text : String) : Option α :=
  (all : List α).find? fun a => name a == lastName text

/-- The names of all constants. -/
def names (α : Type) [Constant α] : List String := (all : List α).map name

end Constant

/-- Storage class of a column; `undefined` leaves it to the property's type. -/
inductive Affinity where
  | undefined
  | text
  | integer
  | real
  | blob
  deriving DecidableEq, Repr, Inhabited

/-- Collating sequence of a column. -/
inductive Collation where
  | unspecified
  | binary
  | noCase
  | rTrim
  deriving DecidableEq, Repr, Inhabited

/-- What a write does when a constraint is violated. -/
inductive ConflictStrategy where
  | abort
  | replace
  | ignore
  | rollback
  | fail
  deriving DecidableEq, Repr, Inhabited

/-- What happens to child rows when a parent key changes. -/
inductive ForeignKeyAction where
  | noAction
  | cascade
  | setNull
  | setDefault
  | restrict
  deriving DecidableEq, Repr, Inhabited

/-- Order of an index column. -/
inductive IndexOrder where
  | asc
  | desc
  deriving DecidableEq, Repr, Inhabited

instance : Constant Affinity where
  kind := "TypeAffinity"
  all := [.undefined, .text, .integer, .real, .blob]
  name
    | .undefined => "UNDEFINED"
    | .text => "TEXT"
    | .integer => "INTEGER"
    | .real => "REAL"
    | .blob => "BLOB"
  default := .undefined

instance : Constant Collation where
  kind := "Collate"
  all := [.unspecified, .binary, .noCase, .rTrim]
  name
    | .unspecified => "UNSPECIFIED"
    | .binary => "BINARY"
    | .noCase => "NOCASE"
    | .rTrim => "RTRIM"
  default := .unspecified

instance : Constant ConflictStrategy where
  kind := "OnConflictStrategy"
  all := [.abort, .replace, .ignore, .rollback, .fail]
  name
    | .abort => "ABORT"
    | .replace => "REPLACE"
    | .ignore => "IGNORE"
    | .rollback => "ROLLBACK"
    | .fail => "FAIL"
  default := .abort

instance : Constant ForeignKeyAction where
  kind := "ForeignKeyAction"
  all := [.noAction, .cascade, .setNull, .setDefault, .restrict]
  name
    | .noAction => "NO_ACTION"
    | .cascade => "CASCADE"
    | .setNull => "SET_NULL"
    | .setDefault => "SET_DEFAULT"
    | .restrict => "RESTRICT"
  default := .noAction

instance : Constant IndexOrder where
  kind := "IndexOrder"
  all := [.asc, .desc]
  name
    | .asc => "ASC"
    | .desc => "DESC"
  default := .asc

/-! ## keywords in statements -/

/-- Type keyword of a column, none when it is left undefined. -/
def Affinity.keyword? : Affinity → Option String
  | .undefined => none
  | affinity => some (Constant.name affinity)

/-- Collation keyword, none when it is unspecified. -/
def Collation.keyword? : Collation → Option String
  | .unspecified => none
  | collation => some (Constant.name collation)

def ConflictStrategy.keyword (strategy : ConflictStrategy) : String := Constant.name strategy

/-- The strategy that a statement does not spell out. -/
def ConflictStrategy.isDefault (strategy : ConflictStrategy) : Bool := strategy == .abort

def ForeignKeyAction.keyword : ForeignKeyAction → String
  | .noAction => "NO ACTION"
  | .cascade => "CASCADE"
  | .setNull => "SET NULL"
  | .setDefault => "SET DEFAULT"
  | .restrict => "RESTRICT"

def IndexOrder.keyword (order : IndexOrder) : String := Constant.name order

end DaoForge
