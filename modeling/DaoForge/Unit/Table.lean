import DaoForge.Sql.Definition
import DaoForge.Unit.Naming

/-!
# DaoForge.Unit.Table

The unit of a table: its statements as constants, and functions that run them.
-/

namespace DaoForge

/-- A table unit. -/
structure TableUnit where
  name : Ident
  declaration : String
  tableName : String
  createStatement : String
  indexStatements : List String
  dropStatement : String
  deriving Repr

namespace TableUnit

def of (n : Naming) (e : Entity) : Except GenerationError TableUnit := do
  return {
    name := ← Ident.of (n.table e)
    declaration := e.declaration
    tableName := e.tableName
    createStatement := e.createTable
    indexStatements := e.createIndices
    dropStatement := e.dropTable }

/-- A constant text. -/
def constant (name value : String) : Code :=
  Code.words ("pub const " ++ name ++ " : & 'static str =") ++ Code.string value ++ Code.word ";"

/-- Runs a statement without arguments. -/
def execute (statement : String) : Code :=
  Code.words "driver . execute" ++ Code.parens (Code.words (statement ++ " , & []")) ++
    Code.words "? ;"

/-- A function that works on a driver. -/
def driverFunction (n : Naming) (name : String) (body : Code) : Code :=
  Code.words ("pub fn " ++ name) ++ Code.parens (Code.words "driver :" ++ n.driverType) ++
    Code.word "->" ++ n.resultType (Code.parens []) ++
    Code.braces (body ++ Code.word "Ok" ++ Code.parens (Code.parens []))

def code (n : Naming) (u : TableUnit) : Code :=
  let create :=
    execute "Self :: CREATE_STATEMENT" ++
      Code.words "for statement in Self :: INDEX_STATEMENTS" ++ Code.braces (execute "statement")
  Code.comment (" Table of [" ++ quoted u.declaration ++ "].") ++
    Code.words "pub struct" ++ u.name.code ++ Code.words "; impl" ++ u.name.code ++
    Code.braces (
      constant "TABLE_NAME" u.tableName ++
      constant "CREATE_STATEMENT" u.createStatement ++
      Code.words "pub const INDEX_STATEMENTS : & 'static" ++ Code.brackets (Code.words "& 'static str") ++
      Code.words "= &" ++ Code.brackets (Code.commas (u.indexStatements.map Code.string)) ++
      Code.word ";" ++
      constant "DROP_STATEMENT" u.dropStatement ++
      Code.fixedComment " Creates the table and its indices unless they exist." ++
      driverFunction n "create" create ++
      driverFunction n "drop_table" (execute "Self :: DROP_STATEMENT"))

end TableUnit

end DaoForge
