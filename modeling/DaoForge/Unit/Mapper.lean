import DaoForge.Unit.Construct

/-!
# DaoForge.Unit.Mapper

The unit that builds an entity from the current row. It is constructed with the adapters that the
entity's columns need.
-/

namespace DaoForge

/-- A mapper unit. -/
structure MapperUnit where
  name : Ident
  declaration : String
  entity : Code
  /-- Fields, in the order in which the constructor takes them. -/
  adapters : List AdapterField
  value : Build
  deriving Repr

/-- A field or parameter with its type. -/
def Code.typed (name : Ident) (type : Code) : Code := name.code ++ Code.word ":" ++ type

namespace MapperUnit

/-- The mapper of an entity. The names of all fields are looked at before the type of any. -/
def of (n : Naming) (e : Entity) : Except GenerationError MapperUnit := do
  let name ← Ident.of (n.mapper e)
  let entity ← Code.ofType e.type
  let _ ← e.adapters.mapM AdapterKey.field
  let adapters ← e.adapters.mapM AdapterField.of
  let value ← e.build
  return { name, declaration := e.declaration, entity, adapters, value }

def code (n : Naming) (u : MapperUnit) : Code :=
  let fields := u.adapters.map fun f => Code.typed f.name (n.adapterType f)
  Code.comment (" Reads [" ++ quoted u.declaration ++ "] rows.") ++
    Code.words "pub struct" ++ u.name.code ++ Code.braces (Code.commasAfter fields) ++
    Code.word "impl" ++ u.name.code ++ Code.braces (
      Code.words "pub fn new" ++ Code.parens (Code.commas fields) ++ Code.words "-> Self" ++
        Code.braces (Code.word "Self" ++
          Code.braces (Code.commas (u.adapters.map fun f => f.name.code)))) ++
    Code.word "impl" ++ n.runtimePath "EntityMapper <" ++ u.entity ++ Code.words "> for" ++
    u.name.code ++ Code.braces (
      Code.words "fn map" ++
        Code.parens (Code.words "& self , cursor : & dyn" ++ n.runtimePath "SqlCursor") ++
        Code.word "->" ++ n.resultType u.entity ++
        Code.braces (Code.word "Ok" ++ Code.parens (u.value.code n)))

end MapperUnit

end DaoForge
