import DaoForge.Declaration.Mark

/-!
# DaoForge.Declaration.Basic

A declaration describes one annotated type: an entity or compound struct, a DAO or database trait, or
a converter. It holds what the generator may know about the type: its qualified name, annotations,
fields, functions, constructor and supertypes.

`Declaration.normalized` folds every `Option` spelled as a generic in the types of its members. The
types inside annotations are left as they are; they are folded where an annotation is read.
-/

namespace DaoForge

/-- A field of a struct. -/
structure Property where
  name : String
  type : TypeExpr
  annotations : List Mark := []
  deriving DecidableEq, Repr, Inhabited

/-- A parameter of a function or constructor. -/
structure Parameter where
  name : String
  type : TypeExpr
  deriving DecidableEq, Repr, Inhabited

/-- A function of a trait. One without a body is abstract. -/
structure Function where
  name : String
  parameters : List Parameter := []
  returnType : Option TypeExpr := none
  annotations : List Mark := []
  isAbstract : Bool := true
  deriving DecidableEq, Repr, Inhabited

/-- An associated function that builds a struct. -/
structure Constructor where
  name : String
  parameters : List Parameter := []
  deriving DecidableEq, Repr, Inhabited

/-- What kind of type is declared. -/
inductive DeclarationKind where
  | struct
  | trait
  deriving DecidableEq, Repr, Inhabited

/-- A declared type. -/
structure Declaration where
  qualifiedName : String
  kind : DeclarationKind := .struct
  annotations : List Mark := []
  properties : List Property := []
  functions : List Function := []
  constructor : Option Constructor := none
  supertypes : List TypeExpr := []
  deriving DecidableEq, Repr, Inhabited

/-- The declared return type, or the type without a value. -/
def Function.returnTypeOrUnit (f : Function) : TypeExpr := f.returnType.getD TypeExpr.unit

def Property.normalized (p : Property) : Property := { p with type := p.type.normalized }

def Parameter.normalized (p : Parameter) : Parameter := { p with type := p.type.normalized }

def Function.normalized (f : Function) : Function :=
  { f with
    parameters := f.parameters.map Parameter.normalized
    returnType := f.returnType.map TypeExpr.normalized }

def Constructor.normalized (c : Constructor) : Constructor :=
  { c with parameters := c.parameters.map Parameter.normalized }

namespace Declaration

/-- Last name of the qualified name. -/
def simpleName (d : Declaration) : String := DaoForge.simpleName d.qualifiedName

/-- The declared type as a type expression. -/
def type (d : Declaration) : TypeExpr := TypeExpr.ofName d.qualifiedName

def isTrait (d : Declaration) : Bool := d.kind == .trait

/-- First property of the name. -/
def property? (d : Declaration) (name : String) : Option Property :=
  d.properties.find? fun p => p.name == name

/-- The declaration with every member type normalized. -/
def normalized (d : Declaration) : Declaration :=
  { d with
    properties := d.properties.map Property.normalized
    functions := d.functions.map Function.normalized
    constructor := d.constructor.map Constructor.normalized
    supertypes := d.supertypes.map TypeExpr.normalized }

@[simp]
theorem qualifiedName_normalized (d : Declaration) :
    d.normalized.qualifiedName = d.qualifiedName := rfl

/-! ## building a declaration member by member -/

def withMark (d : Declaration) (a : Mark) : Declaration :=
  { d with annotations := d.annotations ++ [a] }

def withProperty (d : Declaration) (p : Property) : Declaration :=
  { d with properties := d.properties ++ [p] }

def withFunction (d : Declaration) (f : Function) : Declaration :=
  { d with functions := d.functions ++ [f] }

def withSupertype (d : Declaration) (t : TypeExpr) : Declaration :=
  { d with supertypes := d.supertypes ++ [t] }

/-- Sets the constructor. A parameter has the type of the property of its name, or no value if there
is none. -/
def withConstructor (d : Declaration) (name : String) (parameters : List String) : Declaration :=
  { d with
    constructor := some
      { name
        parameters := parameters.map fun parameter =>
          ⟨parameter, ((d.property? parameter).map Property.type).getD TypeExpr.unit⟩ } }

end Declaration

end DaoForge
