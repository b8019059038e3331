import DaoForge.Row.Value

/-!
# DaoForge.Row.Adapter

The built-in adapters. Narrow integers are stored as integers of 64 bits, booleans as 0 and 1, floats
of single width as doubles.
-/

namespace DaoForge

/-- A type of integers of fixed width. -/
structure IntegerType where
  name : String
  isSigned : Bool
  bits : Nat
  deriving DecidableEq, Repr

namespace IntegerType

/-- The integer type of a name. -/
def ofName? (name : String) : Option IntegerType :=
  [⟨"i8", true, 8⟩, ⟨"i16", true, 16⟩, ⟨"i32", true, 32⟩, ⟨"i64", true, 64⟩, ⟨"u8", false, 8⟩,
    ⟨"u16", false, 16⟩, ⟨"u32", false, 32⟩, ⟨"u64", false, 64⟩, ⟨"usize", false, 64⟩].find?
      fun t => t.name == name

/-- A number that a value of the type can be. -/
def Holds (t : IntegerType) (n : Int) : Prop :=
  if t.isSigned then -(Nat.pow 2 (t.bits - 1) : Int) ≤ n ∧ n < (Nat.pow 2 (t.bits - 1) : Int)
  else 0 ≤ n ∧ n < (Nat.pow 2 t.bits : Int)

instance (t : IntegerType) (n : Int) : Decidable (t.Holds n) := by
  unfold Holds; split <;> infer_instance

/-- Reads a stored integer as a value of the type. -/
def decode (t : IntegerType) (stored : Int64) : Except RowError Int :=
  if t.Holds stored.toInt then .ok stored.toInt
  else .error (.conversion (toString stored.toInt ++ " does not fit in " ++ t.name))

/-- A number of changed rows as a value of the type. -/
def ofRowCount (t : IntegerType) (count : Nat) : Except RowError Int :=
  if t.Holds count then .ok count
  else .error (.conversion (toString count ++ " affected rows do not fit the return type"))

end IntegerType

/-- Reads a stored integer as a boolean: all but zero is true. -/
def decodeBoolean (stored : Int64) : Bool := stored != 0

def encodeBoolean (value : Bool) : Int64 := if value then 1 else 0

/-- Reads a stored double as a float of single width, which is given widened. -/
def decodeSingle (stored : Double) : Double := stored.toSingle

end DaoForge
