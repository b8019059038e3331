import DaoForge.Unit.Queries

/-!
# DaoForge.Unit.Dao

The unit that implements a DAO trait on top of its queries. The queries answer with the result type of
the library, which each function turns into the type that is declared.
-/

namespace DaoForge

/-- A function of the trait. -/
structure DaoFunction where
  function : Ident
  parameters : List (Ident × Code)
  /-- The declared type; none if nothing is returned. -/
  output : Option Code
  wrapping : ReturnWrapping
  /-- Names the function where an error stops the program. -/
  label : String
  deriving Repr

/-- A DAO unit. -/
structure DaoUnit where
  name : Ident
  /-- The queries unit behind it. -/
  queries : Ident
  declaration : String
  daoTrait : Code
  functions : List DaoFunction
  deriving Repr

/-- The function of an operation. -/
def Operation.daoFunction (d : Dao) (o : Operation) : Except GenerationError DaoFunction := do
  let function ← Ident.of o.function
  let parameters ← o.parameterCodes
  let output ←
    if o.returns.declared.isUnit then pure none else some <$> Code.ofType o.returns.declared
  return {
    function, parameters, output, wrapping := o.returns.wrapping
    label := d.simpleName ++ "::" ++ o.function }

namespace DaoUnit

def of (n : Naming) (d : Dao) : Except GenerationError DaoUnit := do
  let name ← Ident.of (n.dao d)
  let queries ← Ident.of (n.queries d)
  let daoTrait ← Code.ofPath d.declaration
  let functions ← d.operations.mapM (Operation.daoFunction d)
  return { name, queries, declaration := d.declaration, daoTrait, functions }

end DaoUnit

/-! ## code -/

def DaoFunction.code (n : Naming) (f : DaoFunction) : Code :=
  let call := Code.words "self . queries ." ++ f.function.code ++
    Code.parens (Code.commas (f.parameters.map fun parameter => parameter.1.code))
  let body :=
    match f.wrapping with
    | .plain =>
      n.runtimePath "unwrap_or_panic" ++ Code.parens (call ++ Code.word "," ++ Code.string f.label)
    | .result => call
    | .resultWith _ => call ++ Code.words ". map_err (:: core :: convert :: Into :: into)"
  Code.word "fn" ++ f.function.code ++ parameterList f.parameters ++
    ((f.output.map fun type => Code.word "->" ++ type).getD []) ++ Code.braces body

def DaoUnit.code (n : Naming) (u : DaoUnit) : Code :=
  let holder := Code.shared u.queries.sibling
  Code.comment (" Generated implementation of [" ++ quoted u.declaration ++ "].") ++
    Code.words "pub struct" ++ u.name.code ++ Code.braces (Code.words "queries :" ++ holder ++
      Code.word ",") ++
    Code.word "impl" ++ u.name.code ++ Code.braces (
      Code.words "pub fn new" ++ Code.parens (Code.words "queries :" ++ holder) ++
        Code.words "-> Self" ++
        Code.braces (Code.word "Self" ++ Code.braces (Code.word "queries"))) ++
    Code.word "impl" ++ u.daoTrait ++ Code.word "for" ++ u.name.code ++
    Code.braces (u.functions.flatMap (DaoFunction.code n))

end DaoForge
