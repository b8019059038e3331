import DaoForge.Text.Quoted

/-!
# DaoForge.Diagnostic

What can be wrong with a declaration, in four families:

* `ValidationError`: an annotation's attribute is malformed, missing or unknown, or the annotated
  thing has the wrong shape;
* `ResolutionError`: a type, column or reference does not resolve, or a key is not one;
* `BindingError`: parameters and placeholders of a query disagree;
* `GenerationError`: code cannot be composed.

A `Diagnostic` ties an error to the declaration, or to the member of one, for which it was raised.
Causes are constructors; their wording is in the `message` functions alone.
-/

namespace DaoForge

/-- Malformed annotations and misplaced declarations. -/
inductive ValidationError where
  | unknownAttribute (mark key : String)
  | missingAttribute (mark key : String)
  | invalidAttributeValue (mark key expected found : String)
  | unknownConstant (kind value expected : String)
  | repeatedMark (mark : String)
  | unexpectedMark (expected found : String)
  | missingMark (declaration mark : String)
  | notATrait (declaration : String)
  | notAStruct (declaration : String)
  | invalidDatabaseVersion (version : Int64)
  | emptyDatabaseEntities
  | foreignKeyColumnMismatch (entity : String)
  | emptyIndexColumns
  | indexOrderMismatch (index : String) (columns orders : Nat)
  | invalidAutoGenerate (columns : String)
  | unknownIgnoredColumn (property : String)
  | ignoredPrimaryKey (property : String)
  | missingQueryMark (function : String)
  | conflictingQueryMarks (function annotations : String)
  | emptyQuery (function : String)
  | entityParameterCount (function : String)
  | returnTypeMismatch (function expected found : String)
  | getterWithParameters (function : String)
  | invalidCompound (compound reason : String)
  | invalidRelationType (property found : String)
  | invalidProjection (property : String)
  deriving DecidableEq, Repr

/-- References that do not resolve and keys that are none. -/
inductive ResolutionError where
  | unresolvedType (type : String)
  | unresolvedAffinity (property type : String)
  | ambiguousOrMissingPrimaryKey (entity : String) (found : Nat)
  | unresolvedPrimaryKeyColumn (column : String)
  | duplicateColumn (column : String)
  | duplicateIndex (index : String)
  | cyclicEmbedding (chain : List String)
  | notAnEntity (declaration : String)
  | notADao (declaration : String)
  | unresolvedForeignKeyTarget (entity : String)
  | unresolvedColumn (table column : String)
  | unresolvedIndexColumn (index column : String)
  | unresolvedRelationColumn (entity column : String)
  | unresolvedJunctionForeignKey (junction entity column : String)
  | entityNotInDatabase (entity : String)
  | missingTypeConverter (sourceType affinity : String)
  | invalidTypeConverter (converter reason : String)
  | unsupportedParameterType (parameter type : String)
  | unsupportedReturnType (type : String)
  | dependencyFailed (declaration : String)
  deriving DecidableEq, Repr

/-- Parameters and placeholders that disagree. -/
inductive BindingError where
  | unboundQueryParameter (placeholder : String)
  | unusedQueryParameter (parameter : String)
  | anonymousPlaceholder (byte : Nat)
  | unsupportedPlaceholder (placeholder : String)
  | unterminated (what : String)
  | entityParameterMismatch (parameter expected found : String)
  deriving DecidableEq, Repr

/-- Code that cannot be composed. -/
inductive GenerationError where
  | unmatchedConstructorParameter (owner parameter : String)
  | uncoveredMember (owner member : String)
  | invalidIdentifier (name : String)
  /-- The name is made of letters and numerals, and is no identifier all the same. A run stops there. -/
  | unwritableIdentifier (name : String)
  | invalidTypePath (path : String)
  | missingMapper (entity : String)
  deriving DecidableEq, Repr

/-- An error of any family. -/
inductive SpecError where
  | validation (error : ValidationError)
  | resolution (error : ResolutionError)
  | binding (error : BindingError)
  | generation (error : GenerationError)
  deriving DecidableEq, Repr

/-! ## wording -/

/-- A name in backticks, as messages quote it. -/
def quoted (name : String) : String := "\x60" ++ name ++ "\x60"

def ValidationError.message : ValidationError → String
  | .unknownAttribute mark key =>
    "@" ++ mark ++ " has no attribute " ++ quoted key
  | .missingAttribute mark key =>
    "@" ++ mark ++ " requires attribute " ++ quoted key
  | .invalidAttributeValue mark key expected found =>
    "attribute " ++ quoted key ++ " of @" ++ mark ++ " expects " ++ expected ++
      ", found " ++ found
  | .unknownConstant kind value expected =>
    quoted value ++ " is not a " ++ kind ++ " constant (expected one of: " ++ expected ++ ")"
  | .repeatedMark mark => "@" ++ mark ++ " may only be declared once"
  | .unexpectedMark expected found => "expected @" ++ expected ++ ", found @" ++ found
  | .missingMark declaration mark =>
    declaration ++ " is missing the @" ++ mark ++ " annotation"
  | .notATrait declaration => quoted declaration ++ " must be a trait"
  | .notAStruct declaration => quoted declaration ++ " must be a struct"
  | .invalidDatabaseVersion version =>
    "database version must be at least 1, found " ++ toString version.toInt
  | .emptyDatabaseEntities => "@Database must list at least one entity"
  | .foreignKeyColumnMismatch entity =>
    "foreign key to " ++ quoted entity ++
      " needs the same non-empty number of parent and child columns"
  | .emptyIndexColumns => "@Index must list at least one column"
  | .indexOrderMismatch index columns orders =>
    "index " ++ quoted index ++ " lists " ++ toString orders ++ " orders for " ++
      toString columns ++ " columns"
  | .invalidAutoGenerate columns =>
    "auto-generated primary key " ++ quoted columns ++ " must be a single INTEGER column"
  | .unknownIgnoredColumn property =>
    quoted property ++ " is listed in ignoredColumns but is not a property"
  | .ignoredPrimaryKey property =>
    "property " ++ quoted property ++ " cannot be both a primary key and ignored"
  | .missingQueryMark function =>
    quoted function ++ " must carry exactly one of @Query, @Insert, @Update or @Delete"
  | .conflictingQueryMarks function annotations =>
    quoted function ++ " carries conflicting query annotations: " ++ annotations
  | .emptyQuery function => "@Query on " ++ quoted function ++ " has empty SQL"
  | .entityParameterCount function =>
    quoted function ++ " must take exactly one entity parameter"
  | .returnTypeMismatch function expected found =>
    quoted function ++ " returns " ++ quoted found ++ ", but " ++ expected
  | .getterWithParameters function =>
    "database getter " ++ quoted function ++ " must not take parameters"
  | .invalidCompound compound reason => "compound " ++ quoted compound ++ ": " ++ reason
  | .invalidRelationType property found =>
    "relation " ++ quoted property ++ " must be typed Option<_> or Vec<_>, found " ++ quoted found
  | .invalidProjection property =>
    "relation " ++ quoted property ++
      " must read the entity itself or project exactly one column into a scalar"

def ResolutionError.message : ResolutionError → String
  | .unresolvedType type => "type " ++ quoted type ++ " does not resolve to a known declaration"
  | .unresolvedAffinity property type =>
    "cannot infer a type affinity for " ++ quoted property ++ " of type " ++ quoted type ++
      "; declare typeAffinity"
  | .ambiguousOrMissingPrimaryKey entity found =>
    "entity " ++ quoted entity ++ " must declare exactly one primary key, found " ++ toString found
  | .unresolvedPrimaryKeyColumn column =>
    "primary key column " ++ quoted column ++ " is not a column of the entity"
  | .duplicateColumn column => "column name " ++ quoted column ++ " is declared more than once"
  | .duplicateIndex index =>
    "index " ++ quoted index ++ " is declared more than once with different definitions"
  | .cyclicEmbedding chain => "cyclic embedding: " ++ " -> ".intercalate chain
  | .notAnEntity declaration => quoted declaration ++ " is not an @Entity"
  | .notADao declaration => quoted declaration ++ " is not a @Dao"
  | .unresolvedForeignKeyTarget entity =>
    "foreign key target " ++ quoted entity ++ " is not an @Entity"
  | .unresolvedColumn table column =>
    "column " ++ quoted column ++ " does not exist in table " ++ quoted table
  | .unresolvedIndexColumn index column =>
    "index " ++ quoted index ++ " references unknown column " ++ quoted column
  | .unresolvedRelationColumn entity column =>
    "relation column " ++ quoted column ++ " does not exist on " ++ quoted entity
  | .unresolvedJunctionForeignKey junction entity column =>
    "junction " ++ quoted junction ++ " has no foreign key to " ++ quoted entity ++ " on column " ++
      quoted column
  | .entityNotInDatabase entity =>
    "entity " ++ quoted entity ++ " is used but not listed in @Database entities"
  | .missingTypeConverter sourceType affinity =>
    "no type converter maps " ++ quoted sourceType ++ " to " ++ affinity
  | .invalidTypeConverter converter reason =>
    "type converter " ++ quoted converter ++ " is invalid: " ++ reason
  | .unsupportedParameterType parameter type =>
    "parameter " ++ quoted parameter ++ " of type " ++ quoted type ++ " cannot be bound to SQL"
  | .unsupportedReturnType type =>
    "return type " ++ quoted type ++ " cannot be read from a row"
  | .dependencyFailed declaration => quoted declaration ++ " failed to resolve"

def BindingError.message : BindingError → String
  | .unboundQueryParameter placeholder =>
    "placeholder " ++ quoted (":" ++ placeholder) ++ " has no matching parameter"
  | .unusedQueryParameter parameter =>
    "parameter " ++ quoted parameter ++ " is not used by the query"
  | .anonymousPlaceholder byte =>
    "anonymous placeholder at byte " ++ toString byte ++ "; use " ++ quoted ":name" ++
      " placeholders"
  | .unsupportedPlaceholder placeholder =>
    "unsupported placeholder " ++ quoted placeholder ++ "; use " ++ quoted ":name" ++
      " placeholders"
  | .unterminated what => "unterminated " ++ what ++ " in query"
  | .entityParameterMismatch parameter expected found =>
    "parameter " ++ quoted parameter ++ " must be " ++ quoted expected ++ ", found " ++ quoted found

def GenerationError.message : GenerationError → String
  | .unmatchedConstructorParameter owner parameter =>
    "constructor parameter " ++ quoted parameter ++ " of " ++ quoted owner ++
      " does not match any stored member"
  | .uncoveredMember owner member =>
    "member " ++ quoted member ++ " of " ++ quoted owner ++ " is not covered by the constructor"
  | .invalidIdentifier name => quoted name ++ " is not a valid identifier"
  | .unwritableIdentifier name => quotedText name ++ " is not a valid Ident"
  | .invalidTypePath path => quoted path ++ " is not a valid type path"
  | .missingMapper entity => "no generated mapper for " ++ quoted entity

namespace SpecError

/-- The name that a run stops at. -/
def stop? : SpecError → Option String
  | .generation (.unwritableIdentifier name) => some name
  | _ => none

/-- Name of the error's family. -/
def family : SpecError → String
  | .validation _ => "validation"
  | .resolution _ => "resolution"
  | .binding _ => "binding"
  | .generation _ => "generation"

/-- Wording of the error, after its family. -/
def message (error : SpecError) : String :=
  error.family ++ " error: " ++
    match error with
    | .validation e => e.message
    | .resolution e => e.message
    | .binding e => e.message
    | .generation e => e.message

end SpecError

instance : Coe ValidationError SpecError := ⟨.validation⟩
instance : Coe ResolutionError SpecError := ⟨.resolution⟩
instance : Coe BindingError SpecError := ⟨.binding⟩
instance : Coe GenerationError SpecError := ⟨.generation⟩

/-- An error, and the qualified name of the declaration for which it was raised. Errors of a member
are anchored at `owner::member`. -/
structure Diagnostic where
  declaration : String
  error : SpecError
  deriving DecidableEq, Repr

namespace Diagnostic

/-- The anchor of a member. -/
def memberAnchor (owner member : String) : String := owner ++ "::" ++ member

/-- One line: anchor and wording. -/
def message (d : Diagnostic) : String := d.declaration ++ ": " ++ d.error.message

end Diagnostic

/-- A problem of a declaration that depends on one that failed. -/
def dependencyFailed (anchor declaration : String) : Diagnostic :=
  ⟨anchor, .resolution (.dependencyFailed declaration)⟩

end DaoForge
