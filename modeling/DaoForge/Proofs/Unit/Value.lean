import DaoForge.Proofs.Except
import DaoForge.Unit.Mapper

/-!
# DaoForge.Proofs.Unit.Value

The expressions that read values and that bind them, as they stand in the code.

1. `Read.Spelled`: the expression that takes a value out of the row and decodes it; `Build.Spelled`: the one
   that builds a struct of such values. The code of a mapper is spelled so (`Build.spelled_code`);
2. `Code.Reaches`: the expression that follows embedded properties from the entity to a struct. From the
   first optional property on it is an option;
3. `Column.BoundBy`: the argument for a column at the end of a path. The argument of a statement is that
   (`ColumnArgument.boundBy_of`).
-/

namespace DaoForge

/-! ## values of a row -/

/-- A value is taken out of the row as a type: by the name of its column, or as the first one. -/
def Code.taken (n : Naming) (type : Code) : RowSource → Code
  | .column name =>
    n.runtime ++ words ":: read :: <" ++ type ++ word ">" ++ parens (words "cursor ," ++ string name) ++
      word "?"
  | .first =>
    n.runtime ++ words ":: read_at :: <" ++ type ++ word ">" ++ parens (words "cursor , 0") ++ word "?"

/-- The expression that reads a value: it is taken as its own type, or as the storage type and decoded by an
adapter. If there may be none, an option is taken, and what is in it is decoded. -/
inductive Read.Spelled (n : Naming) : Read → Code → Prop
  | native {source : RowSource} {type : Code} : Spelled n (.native source type) (Code.taken n type source)
  | required {source : RowSource} {adapter : Ident} {storage : Code} :
      Spelled n (.adapted source adapter storage false)
        (Code.words "self ." ++ adapter.code ++ Code.words ". decode" ++
          Code.parens (Code.taken n storage source) ++ Code.word "?")
  | optional {source : RowSource} {adapter : Ident} {storage : Code} :
      Spelled n (.adapted source adapter storage true)
        (Code.taken n (Code.words "Option <" ++ storage ++ Code.word ">") source ++ Code.words ". map" ++
          Code.parens (Code.words "| value | self ." ++ adapter.code ++ Code.words ". decode" ++
            Code.parens (Code.word "value")) ++
          Code.words ". transpose () ?")

/-- The expression that builds a value. The test for an absent struct is the only place beside the reads
where columns are named. -/
inductive Build.Spelled (n : Naming) : Build → Code → Prop
  | read {read : Read} {code : Code} (h : read.Spelled n code) : Spelled n (.read read) code
  | variable {name : Ident} : Spelled n (.variable name) name.code
  | default : Spelled n .default (Code.words ":: core :: default :: Default :: default ()")
  | call {owner : Code} {function : Ident} {values : List Build} {codes : List Code}
      (h : List.Forall₂ (Spelled n) values codes) :
      Spelled n (.call owner function values)
        (owner ++ Code.word "::" ++ function.code ++ Code.parens (Code.commas codes))
  | literal {owner : Code} {fields : List (Ident × Build)} {codes : List Code}
      (h : List.Forall₂ (Spelled n) (fields.map Prod.snd) codes) :
      Spelled n (.literal owner fields)
        (owner ++ Code.braces (Code.commas
          (List.zipWith (fun field code => field.1.code ++ Code.word ":" ++ code) fields codes)))
  | unlessNull {columns : List String} {value : Build} {code : Code} (h : Spelled n value code) :
      Spelled n (.unlessNull columns value)
        (Code.word "if" ++ n.runtime ++ Code.words ":: all_null" ++
          Code.parens (Code.words "cursor , &" ++ Code.brackets (Code.commas (columns.map Code.string))) ++
          Code.word "?" ++ Code.braces (Code.word "None") ++ Code.word "else" ++
          Code.braces (Code.word "Some" ++ Code.parens code))

section Spelling

variable (n : Naming)

theorem Read.raw_eq_taken (type : Code) (source : RowSource) :
    Read.raw n type source = Code.taken n type source := by
  cases source with
  | column name | first =>
      simp only [Read.raw, Code.taken, Naming.runtimePath, List.append_assoc]
      rfl

theorem Read.spelled_code (read : Read) : read.Spelled n (read.code n) := by
  cases read with
  | native source type =>
      rw [Read.code, raw_eq_taken]
      exact .native
  | adapted source adapter storage isNullable =>
      cases isNullable with
      | false =>
          rw [Read.code, raw_eq_taken]
          exact .required
      | true =>
          rw [Read.code, raw_eq_taken]
          exact .optional

theorem Build.codes_eq_map (values : List Build) : Build.codes n values = values.map (Build.code n) := by
  induction values with
  | nil => rfl
  | cons value rest ih => rw [codes, ih, List.map_cons]

theorem Build.fieldCodes_eq_map (fields : List (Ident × Build)) :
    Build.fieldCodes n fields = fields.map fun field =>
      field.1.code ++ Code.word ":" ++ Build.code n field.2 := by
  induction fields with
  | nil => rfl
  | cons field rest ih => rw [fieldCodes, ih, List.map_cons]

theorem Build.spelled_code (b : Build) : b.Spelled n (b.code n) := by
  match b with
  | .read value => exact .read (value.spelled_code n)
  | .variable name => exact .variable
  | .default => exact .default
  | .call owner function values =>
      rw [code, codes_eq_map]
      refine .call ?_
      rw [List.forall₂_map_right_iff, List.forall₂_same]
      exact fun value hvalue => spelled_code value
  | .literal owner fields =>
      have hfields : Build.fieldCodes n fields = List.zipWith
          (fun field code => field.1.code ++ Code.word ":" ++ code) fields
            (fields.map fun field => Build.code n field.2) := by
        rw [fieldCodes_eq_map, List.zipWith_map_right, List.zipWith_self]
      rw [code, hfields]
      refine .literal ?_
      rw [List.forall₂_map_left_iff, List.forall₂_map_right_iff, List.forall₂_same]
      intro field hfield
      have hsmaller : sizeOf field.2 < sizeOf fields := by
        have hfield := List.sizeOf_lt_of_mem hfield
        rw [Prod.mk.sizeOf_spec] at hfield
        omega
      exact spelled_code field.2
  | .unlessNull columns value =>
      have hguard : (Build.unlessNull columns value).Spelled n _ := .unlessNull (spelled_code value)
      rwa [List.append_assoc (Code.word "if")] at hguard
termination_by sizeOf b

end Spelling

/-! ## values of an entity -/

/-- The expression that follows properties from the entity, each given with whether it is optional. Up to
the first optional one the expression is the property itself; from there on it is an option of a reference to
it, and what comes behind is taken inside the option. -/
inductive Code.Reaches : List (String × Bool) → Bool → Code → Prop
  | entity : Reaches [] false (word "entity")
  | required {path : List (String × Bool)} {code : Code} {property : String} {name : Ident}
      (h : Reaches path false code) (hname : Ident.of property = .ok name) :
      Reaches (path ++ [(property, false)]) false (code ++ word "." ++ name.code)
  | optional {path : List (String × Bool)} {code : Code} {property : String} {name : Ident}
      (h : Reaches path false code) (hname : Ident.of property = .ok name) :
      Reaches (path ++ [(property, true)]) true (code ++ word "." ++ name.code ++ words ". as_ref ()")
  | requiredWithin {path : List (String × Bool)} {code : Code} {property : String} {name : Ident}
      (h : Reaches path true code) (hname : Ident.of property = .ok name) :
      Reaches (path ++ [(property, false)]) true
        (code ++ words ". map" ++ parens (words "| value | & value ." ++ name.code))
  | optionalWithin {path : List (String × Bool)} {code : Code} {property : String} {name : Ident}
      (h : Reaches path true code) (hname : Ident.of property = .ok name) :
      Reaches (path ++ [(property, true)]) true
        (code ++ words ". and_then" ++ parens (words "| value | value ." ++ name.code ++ words ". as_ref ()"))

/-- The properties of a path, each with whether it is optional. -/
def Embedding.steps (path : List Embedding) : List (String × Bool) :=
  path.map fun e => (e.property, e.isNullable)

/-- The argument for a column at the end of a path, bound through an adapter if it needs one. A value of a
native type is bound behind a reference, be it optional or not; a value in an option is encoded there. -/
inductive Column.BoundBy (n : Naming) (path : List Embedding) (c : Column) : Option Ident → Code → Prop
  | native {place : Code} (h : Code.Reaches (Embedding.steps path ++ [(c.property, false)]) false place) :
      BoundBy n path c none
        (n.runtime ++ Code.words ":: ToSqlValue :: to_sql_value" ++ Code.parens (Code.word "&" ++ place))
  | nativeWithin {option : Code} (hpath : ∃ embedding ∈ path, embedding.isNullable = true)
      (h : Code.Reaches (Embedding.steps path ++ [(c.property, c.type.nullable)]) true option) :
      BoundBy n path c none
        (n.runtime ++ Code.words ":: ToSqlValue :: to_sql_value" ++ Code.parens (Code.word "&" ++ option))
  | encoded {adapter : Ident} {place : Code}
      (h : Code.Reaches (Embedding.steps path ++ [(c.property, c.type.nullable)]) false place) :
      BoundBy n path c (some adapter)
        (n.runtime ++ Code.words ":: SqlValue :: from" ++
          Code.parens (Code.words "self ." ++ adapter.code ++ Code.words ". encode" ++
            Code.parens (Code.word "&" ++ place)))
  | encodedWithin {adapter : Ident} {option : Code}
      (h : Code.Reaches (Embedding.steps path ++ [(c.property, c.type.nullable)]) true option) :
      BoundBy n path c (some adapter)
        (n.runtime ++ Code.words ":: SqlValue :: from" ++
          Code.parens (option ++ Code.words ". map" ++
            Code.parens (Code.words "| value | self ." ++ adapter.code ++ Code.words ". encode" ++
              Code.parens (Code.word "value"))))

/-- The code of a place, or of the option of one. -/
def Place.code : Place → Code
  | .direct code | .option code => code

/-- The place is an option. -/
def Place.isOption : Place → Bool
  | .direct _ => false
  | .option _ => true

section Places

variable {path : List (String × Bool)} {place : Place}

/-- The four cases of a property of a place. -/
theorem Code.Reaches.property (h : Reaches path place.isOption place.code) {property : String} {name : Ident}
    (hname : Ident.of property = .ok name) (isOptional : Bool) :
    Reaches (path ++ [(property, isOptional)]) (place.property name isOptional).isOption
      (place.property name isOptional).code := by
  cases place with
  | direct code =>
      cases isOptional with
      | false => exact .required h hname
      | true => exact .optional h hname
  | option code =>
      cases isOptional with
      | false => exact .requiredWithin h hname
      | true => exact .optionalWithin h hname

/-- Steps along embeddings lead from a place to the place at their end. -/
theorem Code.Reaches.foldl (h : Reaches path place.isOption place.code) {embeddings : List Embedding}
    {steps : List Step} (hsteps : List.Forall₂ (fun embedding step =>
      Ident.of embedding.property = .ok step.property ∧ step.isOptional = embedding.isNullable)
        embeddings steps) :
    Reaches (path ++ Embedding.steps embeddings)
      (steps.foldl (fun place step => place.property step.property step.isOptional) place).isOption
      (steps.foldl (fun place step => place.property step.property step.isOptional) place).code := by
  induction hsteps generalizing path place with
  | nil => simpa [Embedding.steps] using h
  | @cons embedding step embeddings steps hstep _ ih =>
      have hnext := ih (h.property hstep.1 step.isOptional)
      rw [hstep.2] at hnext
      simpa only [Embedding.steps, List.map_cons, List.append_assoc, List.singleton_append, List.foldl_cons,
        hstep.2] using hnext

/-- An expression becomes an option at the first optional property, and stays one. -/
theorem Code.Reaches.isOption_iff {isOption : Bool} {code : Code} (h : Reaches path isOption code) :
    isOption = true ↔ ∃ step ∈ path, step.2 = true := by
  induction h with
  | entity => simp
  | required h hname ih | requiredWithin h hname ih => simpa using ih
  | optional h hname ih | optionalWithin h hname ih => simp

theorem Code.Reaches.isOption_iff_of_steps {embeddings : List Embedding} {isOption : Bool} {code : Code}
    (h : Reaches (Embedding.steps embeddings) isOption code) :
    isOption = true ↔ ∃ embedding ∈ embeddings, embedding.isNullable = true := by
  rw [h.isOption_iff]
  simp [Embedding.steps]

end Places

section Arguments

variable {n : Naming} {path : List Embedding} {c : Column} {place : Code}

theorem Code.mapEncode_eq (adapter : Ident) : mapEncode adapter = words ". map" ++
    parens (words "| value | self ." ++ adapter.code ++ words ". encode" ++ parens (word "value")) := by
  have hclosure : words "| value | self ." = words "| value |" ++ words "self ." := rfl
  simp only [mapEncode, encodeValue, hclosure, List.append_assoc]

/-- The argument for a property of a struct that is there. -/
theorem boundBy_bindPlace (h : Code.Reaches (Embedding.steps path) false place) {name : Ident}
    (hname : Ident.of c.property = .ok name) (adapter : Option Ident) :
    c.BoundBy n path adapter
      (Code.bindPlace n (place ++ Code.word "." ++ name.code) c.type.nullable adapter) := by
  cases adapter with
  | none => exact .native (.required h hname)
  | some adapter =>
      cases hnullable : c.type.nullable with
      | false =>
          refine .encoded ?_
          rw [hnullable]
          exact .required h hname
      | true =>
          rw [Code.bindPlace, if_pos rfl, Code.mapEncode_eq, ← List.append_assoc (_ ++ Code.words _)]
          refine .encodedWithin ?_
          rw [hnullable]
          exact .optional h hname

/-- The argument for a property of a struct in an option. -/
theorem boundBy_bindOption (hpath : ∃ embedding ∈ path, embedding.isNullable = true) {option : Code}
    (h : Code.Reaches (Embedding.steps path ++ [(c.property, c.type.nullable)]) true option)
    (adapter : Option Ident) : c.BoundBy n path adapter (Code.bindOption n option adapter) := by
  cases adapter with
  | none => exact .nativeWithin hpath h
  | some adapter =>
      rw [Code.bindOption, Code.mapEncode_eq, ← List.append_assoc option]
      exact .encodedWithin h

/-- An argument whose owner is reached along the path is bound from there. -/
theorem ColumnArgument.boundBy_code {a : ColumnArgument}
    (howner : Code.Reaches (Embedding.steps path) a.owner.isOption a.owner.code)
    (hproperty : Ident.of c.property = .ok a.property) (hnullable : a.isNullable = c.type.nullable) :
    c.BoundBy n path a.adapter (a.code n) := by
  unfold ColumnArgument.code
  split
  · next place hplace =>
    rw [hplace] at howner
    rw [hnullable]
    exact boundBy_bindPlace howner hproperty _
  · next place hplace =>
    rw [hplace] at howner
    have hpath := howner.isOption_iff_of_steps.mp rfl
    have hvalue := howner.property hproperty a.isNullable
    rw [hnullable] at hvalue ⊢
    -- a property of an option is an option
    cases hoptional : c.type.nullable with
    | false | true =>
        refine boundBy_bindOption hpath ?_ a.adapter
        rw [hoptional] at hvalue ⊢
        exact hvalue

/-- **The argument for a column** follows the embeddings around the column to the struct that owns it, and
binds the column's property there. -/
theorem ColumnArgument.boundBy_of {e : Entity} {a : ColumnArgument} (h : ColumnArgument.of e c = .ok a)
    (hpath : Member.pathIn? c.name e.members = some path) :
    Code.Reaches (Embedding.steps path) a.owner.isOption a.owner.code ∧
      ∀ n, c.BoundBy n path a.adapter (a.code n) := by
  unfold ColumnArgument.of at h
  split at h
  · contradiction
  · next mapping hmapping =>
    obtain ⟨steps, hsteps, h⟩ := bind_eq_ok h
    obtain ⟨property, hproperty, h⟩ := bind_eq_ok h
    obtain ⟨adapter, hadapter, h⟩ := bind_eq_ok h
    cases h
    rw [hpath, Option.getD_some] at hsteps
    have hfollowed : List.Forall₂ (fun embedding (step : Step) =>
        Ident.of embedding.property = .ok step.property ∧ step.isOptional = embedding.isNullable)
        path steps := by
      refine (forall₂_of_mapM hsteps).imp fun embedding step hstep => ?_
      obtain ⟨name, hname, hstep⟩ := bind_eq_ok hstep
      cases hstep
      exact ⟨hname, rfl⟩
    have hentity : Code.Reaches [] (Place.direct (Code.word "entity")).isOption (Code.word "entity") := .entity
    have howner := hentity.foldl hfollowed
    rw [List.nil_append] at howner
    exact ⟨howner, fun n => boundBy_code howner hproperty rfl⟩

end Arguments

end DaoForge
