import DaoForge.Row.Value

/-!
# DaoForge.Row.Query

The functions that generated code reads rows with. A driver runs a statement and hands the rows of its
result to a callback.

* `queryList` maps every row;
* `queryOptional` maps the first row, if there is one, and passes over the others;
* `querySingle` needs a row.

A result that is known beforehand is a `Delivery`: its rows in order, and the failure of the driver that
follows them, if there is one.
-/

namespace DaoForge

/-- What runs statements. The rows of a statement are handed to a callback, which carries a state from row to
row and may have effects of its own. -/
structure Driver (ρ : Type) where
  query {m : Type → Type} [Monad m] {β : Type} (sql : String) (params : List SqlValue)
    (callback : β → ρ → ExceptT RowError m β) (start : β) : ExceptT RowError m β

/-- What a driver delivers for a statement. -/
structure Delivery (ρ : Type) where
  rows : List ρ
  /-- The driver's own error, after the rows. -/
  failure : Option RowError := none

variable {ρ α β : Type} {m : Type → Type} [Monad m]

/-- A row that must exist. -/
def requireRow (row : Option α) (sql : String) : Except RowError α :=
  match row with
  | some value => .ok value
  | none => .error (.noRows sql)

namespace Driver

/-- Adds what a row is mapped to. -/
def addRow (map : ρ → ExceptT RowError m α) (values : List α) (row : ρ) :
    ExceptT RowError m (List α) := do
  return values ++ [← map row]

/-- Maps a row, unless one was mapped before. -/
def keepFirst (map : ρ → ExceptT RowError m α) (first : Option α) (row : ρ) :
    ExceptT RowError m (Option α) :=
  match first with
  | some value => return some value
  | none => do return some (← map row)

/-- Maps every row. -/
def queryList (driver : Driver ρ) (sql : String) (params : List SqlValue)
    (map : ρ → ExceptT RowError m α) : ExceptT RowError m (List α) :=
  driver.query sql params (addRow map) []

/-- Maps the first row. -/
def queryOptional (driver : Driver ρ) (sql : String) (params : List SqlValue)
    (map : ρ → ExceptT RowError m α) : ExceptT RowError m (Option α) :=
  driver.query sql params (keepFirst map) none

/-- Maps the first row, which must exist. -/
def querySingle (driver : Driver ρ) (sql : String) (params : List SqlValue)
    (map : ρ → ExceptT RowError m α) : ExceptT RowError m α := do
  let row ← driver.queryOptional sql params map
  ExceptT.mk (pure (requireRow row sql))

end Driver

/-! ## results that are known -/

namespace Delivery

/-- Hands the rows to a callback that carries a state. -/
def fold (d : Delivery ρ) (callback : β → ρ → ExceptT RowError m β) (start : β) :
    ExceptT RowError m β := do
  let state ← d.rows.foldlM callback start
  match d.failure with
  | some error => throw error
  | none => return state

/-- The driver that delivers this for every statement. -/
def driver (d : Delivery ρ) : Driver ρ where
  query _ _ callback start := d.fold callback start

/-- Maps every row. -/
def queryList (d : Delivery ρ) (map : ρ → ExceptT RowError m α) : ExceptT RowError m (List α) :=
  d.driver.queryList "" [] map

/-- Maps the first row. -/
def queryOptional (d : Delivery ρ) (map : ρ → ExceptT RowError m α) :
    ExceptT RowError m (Option α) :=
  d.driver.queryOptional "" [] map

/-- Maps the first row, which must exist. -/
def querySingle (d : Delivery ρ) (sql : String) (map : ρ → ExceptT RowError m α) :
    ExceptT RowError m α :=
  d.driver.querySingle sql [] map

end Delivery

/-! ## statements that are put together -/

/-- Placeholders for the elements of a list. An empty list gives NULL, which nothing is equal to. -/
def placeholders (count : Nat) : String :=
  if count = 0 then "NULL" else ", ".intercalate (List.replicate count "?")

/-- What a function says when it stops the program because of an error. -/
def RowError.stopText (function : String) (e : RowError) : String :=
  function ++ " failed: " ++ e.message

end DaoForge
