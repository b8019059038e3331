import DaoForge.Row.Value

/-!
# DaoForge.Row.Cursor

Reading the columns of one row, by name or by position.
-/

namespace DaoForge

/-- A row of a result. There may be more values than names, or fewer. -/
structure Row where
  columns : List String
  values : List SqlValue
  deriving DecidableEq, Repr

namespace Row

/-- Position of the first column of a name. -/
def index (r : Row) (name : String) : Except RowError Nat :=
  match r.columns.findIdx? fun column => column == name with
  | some i => .ok i
  | none => .error (.columnNotFound name)

/-- The value at a position. -/
def value (r : Row) (i : Nat) : Except RowError SqlValue :=
  match r.values[i]? with
  | some v => .ok v
  | none => .error (.driver ("no column " ++ toString i))

/-- Reads the column of a name. -/
def read (α : Type) [Stored α] (r : Row) (column : String) : Except RowError α := do
  (← r.value (← r.index column)).decode α column

/-- Reads the column at a position. -/
def readAt (α : Type) [Stored α] (r : Row) (i : Nat) : Except RowError α := do
  (← r.value i).decode α (r.columns[i]?.getD "?")

/-- The value of a column, as it is stored. -/
def readValue (r : Row) (column : String) : Except RowError SqlValue := do
  r.value (← r.index column)

def isNullAt (r : Row) (i : Nat) : Except RowError Bool := do return (← r.value i).isNull

/-- Every column is NULL. Columns after one that is not are not looked at. -/
def allNull (r : Row) : List String → Except RowError Bool
  | [] => .ok true
  | column :: rest => do
    if (← r.readValue column).isNull then r.allNull rest else return false

end Row

end DaoForge
