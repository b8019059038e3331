import DaoForge.Decimal.Double

/-!
# DaoForge.Row.Value

Values as SQL stores them, and how generated code reads them back. A property is read as one of four
native types, or as an option of one, where NULL is an absent value. A value of another storage class
is refused, but an integer may be read as a real.
-/

namespace DaoForge

/-- A stored value. -/
inductive SqlValue where
  | null
  | integer (value : Int64)
  | real (value : Double)
  | text (value : String)
  | blob (bytes : List UInt8)
  deriving DecidableEq, Repr

namespace SqlValue

/-- Name of the storage class. -/
def kind : SqlValue → String
  | .null => "NULL"
  | .integer _ => "INTEGER"
  | .real _ => "REAL"
  | .text _ => "TEXT"
  | .blob _ => "BLOB"

def isNull : SqlValue → Bool
  | .null => true
  | _ => false

end SqlValue

/-- Errors of generated code at run time. -/
inductive RowError where
  | driver (text : String)
  | typeMismatch (column expected found : String)
  | unexpectedNull (column : String)
  | noRows (sql : String)
  | columnNotFound (name : String)
  | conversion (text : String)
  | migrationUnsupported (source target : Int64)
  deriving DecidableEq, Repr

/-- Wording of the error. -/
def RowError.message : RowError → String
  | .driver text => "driver error: " ++ text
  | .typeMismatch column expected found =>
    "column '" ++ column ++ "' holds " ++ found ++ ", expected " ++ expected
  | .unexpectedNull column => "column '" ++ column ++ "' is NULL but the property is not nullable"
  | .noRows sql => "query returned no rows: " ++ sql
  | .columnNotFound name => "column not found: " ++ name
  | .conversion text => "conversion error: " ++ text
  | .migrationUnsupported source target =>
    "migration from version " ++ toString source.toInt ++ " to " ++ toString target.toInt ++
      " is not supported"

/-! ## native types -/

/-- A type whose values are read from and bound to statements directly. -/
class Stored (α : Type) where
  /-- Storage class that is expected, for messages. -/
  expected : String
  ofValue? : SqlValue → Option α
  toValue : α → SqlValue

instance : Stored Int64 where
  expected := "INTEGER"
  ofValue?
    | .integer value => some value
    | _ => none
  toValue := .integer

instance : Stored Double where
  expected := "REAL"
  ofValue?
    | .real value => some value
    | .integer value => some (.ofInt value.toInt)
    | _ => none
  toValue := .real

instance : Stored String where
  expected := "TEXT"
  ofValue?
    | .text value => some value
    | _ => none
  toValue := .text

instance : Stored (List UInt8) where
  expected := "BLOB"
  ofValue?
    | .blob bytes => some bytes
    | _ => none
  toValue := .blob

instance {α : Type} [Stored α] : Stored (Option α) where
  expected := Stored.expected α
  ofValue?
    | .null => some none
    | value => (Stored.ofValue? value).map some
  toValue
    | none => .null
    | some value => Stored.toValue value

/-- Reads a value of a column. -/
def SqlValue.decode (α : Type) [Stored α] (column : String) (value : SqlValue) :
    Except RowError α :=
  match Stored.ofValue? value with
  | some decoded => .ok decoded
  | none =>
    if value.isNull then .error (.unexpectedNull column)
    else .error (.typeMismatch column (Stored.expected α) value.kind)

end DaoForge
