import DaoForge.Proofs.Resolve.Row

/-!
# DaoForge.Proofs.Resolve.Signature

What the functions of a DAO declare, and what their operations take and give.

1. `RowType.Of`, `ReturnShape.Of`: which rows and results a declared type resolves to. `TypeExpr.listElement?`
   does not look at an `Option` around the type, so that an optional list resolves to a list;
2. `Operation.Declares`: an operation has the parameters and the result that its function declares, a
   parameter being bound as a list iff its type has elements (`declares_of_operation`);
3. `Catalog.Spells`: a type is written out, with the qualified names of what it names. An operation
   honours its signature if what its method gives out is the declared result in this sense
   (`Operation.Honours`);
4. `Dao.signatures_honoured_iff`: it does iff no list of the signature is optional, and no row that names
   an entity or compound is optional inside a list or has arguments (`Function.IsPlain`).
-/

namespace DaoForge

/-! ## rows and results of a type -/

/-- The type names an entity or a compound. -/
def Catalog.namesRows (c : Catalog) (t : TypeExpr) : Bool :=
  (c.resolve? t).any fun d => Mark.has EntityMark d.annotations || c.isCompound d

/-- What a row of a type becomes: the entity or the compound that the type names, else a value. -/
inductive RowType.Of (c : Catalog) (t : TypeExpr) : RowType → Prop
  | entity {e : Entity} {d : Declaration} (hrows : c.namesRows t = true)
      (hd : c.resolve? t = some d) (hentity : c.entityOf d = .ok e) : Of c t (.entity e)
  | compound {rows : Compound} {d : Declaration} (hrows : c.namesRows t = true)
      (hd : c.resolve? t = some d) (hcompound : c.compoundOf d = .ok rows) : Of c t (.compound rows)
  | scalar {mapping : Mapping} (hvalue : c.namesRows t = false)
      (hmapping : c.valueMapping? t = some mapping) : Of c t (.scalar t mapping)

/-- What a result of a type becomes: a list if the type has elements, be it optional or not, else an
optional row or one row. -/
inductive ReturnShape.Of (c : Catalog) (t : TypeExpr) : ReturnShape → Prop
  | unit (h : t.isUnit = true) : Of c t .unit
  | affectedRows (hplain : t.nullable = false) (harguments : t.arguments = []) :
      Of c t (.affectedRows t)
  | list {element : TypeExpr} {row : RowType} (hlist : t.listElement? = some element)
      (hrow : row.Of c element) : Of c t (.list row)
  | optional {row : RowType} (hlist : t.listElement? = none) (hoptional : t.nullable = true)
      (hrow : row.Of c t.nonNull) : Of c t (.optional row)
  | single {row : RowType} (hlist : t.listElement? = none) (hplain : t.nullable = false)
      (hrow : row.Of c t) : Of c t (.single row)

section Rows

variable {c : Catalog} {t : TypeExpr} {anchor : String} {f : Function}

theorem compoundOf_of_compoundRow {d : Declaration} {rows : Compound}
    (h : (compoundRow (.known c.compoundOf) d anchor).run.run.Builds rows) :
    c.compoundOf d = .ok rows := by
  unfold compoundRow at h
  rw [Resolver.known_apply, pure_bind] at h
  cases hanswer : c.compoundOf d with
  | ok found =>
      rw [hanswer] at h
      exact congrArg Except.ok (Option.some.inj h.value)
  | error diagnostics =>
      rw [hanswer] at h
      exact absurd h Checked.not_builds_fail

theorem of_scalarRow {row : RowType} (hvalue : c.namesRows t = false)
    (h : (c.scalarRow t anchor).Builds row) : row.Of c t := by
  have hrow := h.value
  rw [Catalog.scalarRow, Checked.value?_ofOption, Option.map_eq_some_iff] at hrow
  obtain ⟨mapping, hmapping, rfl⟩ := hrow
  exact .scalar hvalue hmapping

theorem of_rowType {row : RowType}
    (h : (c.rowType (.known c.entityOf) (.known c.compoundOf) t anchor).run.run.Builds row) :
    row.Of c t := by
  unfold Catalog.rowType at h
  split at h
  · next hnone => exact of_scalarRow (by rw [Catalog.namesRows, hnone]; rfl) h
  next d hd =>
  split at h
  · next hmark =>
    obtain ⟨e, he, h⟩ := CheckedT.builds_bind h
    cases h.value
    obtain ⟨d', hd', -, hentity⟩ := resolved_of_dependentEntity he.value
    exact .entity (by simp [Catalog.namesRows, hd, hmark]) hd' hentity
  next hmark =>
  split at h
  · next hcompound =>
    obtain ⟨rows, hrows, h⟩ := CheckedT.builds_bind h
    cases h.value
    exact .compound (by simp [Catalog.namesRows, hd, hcompound]) hd (compoundOf_of_compoundRow hrows)
  · next hcompound =>
    exact of_scalarRow (by simp [Catalog.namesRows, hd, hmark, hcompound]) h

theorem of_readShape {shape : ReturnShape}
    (h : (c.readShape (.known c.entityOf) (.known c.compoundOf) f t anchor).run.run.Builds shape) :
    shape.Of c t := by
  unfold Catalog.readShape at h
  split at h
  · exact absurd h Checked.not_builds_fail
  split at h
  · next element hlist =>
    obtain ⟨row, hrow, h⟩ := CheckedT.builds_bind h
    cases h.value
    exact .list hlist (of_rowType hrow)
  next hlist =>
  split at h
  · next hoptional =>
    obtain ⟨row, hrow, h⟩ := CheckedT.builds_bind h
    cases h.value
    exact .optional hlist hoptional (of_rowType hrow)
  · next hplain =>
    obtain ⟨row, hrow, h⟩ := CheckedT.builds_bind h
    cases h.value
    exact .single hlist (Bool.eq_false_iff.mpr hplain) (of_rowType hrow)

theorem of_writeShape {shape : ReturnShape} (h : (writeShape f t anchor).Builds shape) :
    shape.Of c t := by
  unfold writeShape at h
  split at h
  · next hunit =>
    cases h.value
    exact .unit hunit
  split at h
  · next hcount =>
    cases h.value
    simp only [Bool.and_eq_true, Bool.not_eq_true', List.isEmpty_iff] at hcount
    exact .affectedRows hcount.1.1 hcount.1.2
  · exact absurd h Checked.not_builds_fail

end Rows

/-! ## what an operation declares -/

/-- The declared result of a function, without the `Result` around it. -/
def Function.result (f : Function) : TypeExpr := (splitResult f.returnTypeOrUnit).2

/-- Elements are bound, of a list of values or of entities. -/
def Binding.isOfList : Binding → Bool
  | .list _ | .entityList _ => true
  | .value _ | .entity _ => false

/-- The type that a method gives out. -/
def ReturnShape.outputType : ReturnShape → TypeExpr
  | .unit => TypeExpr.unit
  | .affectedRows t => t
  | .single row => row.type
  | .optional row => row.type.asNullable
  | .list row => { name := "Vec", arguments := [row.type] }

/-- The code of a type, in which `Option` or `Vec` may be written around the code of another one. -/
inductive Code.Writes : Code → TypeExpr → Prop
  | unit : Writes (Code.parens []) TypeExpr.unit
  | type {code : Code} {t : TypeExpr} (h : Code.ofType t = .ok code) : Writes code t
  | option {code : Code} {t : TypeExpr} (h : Writes code t) :
      Writes (Code.words "Option <" ++ code ++ Code.word ">") t.asNullable
  | vec {code : Code} {t : TypeExpr} (h : Writes code t) :
      Writes (Code.words "Vec <" ++ code ++ Code.word ">") { name := "Vec", arguments := [t] }

theorem ReturnShape.writes_output {shape : ReturnShape} {code : Code}
    (h : shape.output = .ok code) : Code.Writes code shape.outputType := by
  cases shape with
  | unit =>
      cases h
      exact .unit
  | affectedRows t => exact .type h
  | single row => exact .type h
  | optional row =>
      obtain ⟨inner, hinner, h⟩ := bind_eq_ok h
      cases h
      exact .option (.type hinner)
  | list row =>
      obtain ⟨inner, hinner, h⟩ := bind_eq_ok h
      cases h
      exact .vec (.type hinner)

/-- The parameter is one of the function, and bound as a list iff its type has elements. -/
structure BoundParameter.Declares (p : Parameter) (b : BoundParameter) : Prop where
  name : b.name = p.name
  type : b.type = p.type
  isOfList : b.binding.isOfList = true ↔ p.type.listElement?.isSome = true

/-- The operation takes and gives what its function declares. -/
structure Operation.Declares (c : Catalog) (f : Function) (o : Operation) : Prop where
  name : o.function = f.name
  parameters : List.Forall₂ BoundParameter.Declares f.parameters o.parameters
  declared : o.returns.declared = f.returnTypeOrUnit
  wrapping : o.returns.wrapping = (splitResult f.returnTypeOrUnit).1
  shape : o.returns.shape.Of c f.result
  output : ∀ code, o.returns.shape.output = .ok code → Code.Writes code o.returns.shape.outputType

section Operations

variable {c : Catalog} {f : Function} {anchor : String}

theorem declares_of_queryParameter {p : Parameter} {b : BoundParameter}
    (h : (c.queryParameter anchor p).Builds b) : b.Declares p := by
  unfold Catalog.queryParameter at h
  obtain ⟨binding, hbinding, h⟩ := Checked.builds_bind h
  cases h.value
  refine ⟨rfl, rfl, ?_⟩
  have hbound := hbinding.value
  rw [Checked.value?_ofOption, Catalog.bindingOf?] at hbound
  split at hbound
  · next element hlist =>
    obtain ⟨mapping, -, rfl⟩ := Option.map_eq_some_iff.mp hbound
    simp [Binding.isOfList, hlist]
  · next hlist =>
    obtain ⟨mapping, -, rfl⟩ := Option.map_eq_some_iff.mp hbound
    simp [Binding.isOfList, hlist]

theorem declares_of_queryParameters {bound : List BoundParameter}
    (h : (Checked.all (f.parameters.map (c.queryParameter anchor))).Builds bound) :
    List.Forall₂ BoundParameter.Declares f.parameters bound := by
  have hdecides : ∀ check ∈ f.parameters.map (c.queryParameter anchor), check.Decides := by
    refine List.forall_mem_map.mpr fun p _ => ?_
    exact Checked.decides_bind (Checked.decides_ofOption _ _) fun _ => Checked.decides_pure _
  have hbuilds := Checked.builds_all_forall₂ h hdecides
  rw [List.forall₂_map_left_iff] at hbuilds
  exact hbuilds.imp fun _ _ => declares_of_queryParameter

/-- The target of a write is a list iff the type of its parameter has elements. -/
theorem isList_of_targetType {p : Parameter} {expected : Option TypeExpr} {target : TypeExpr}
    {isList : Bool} (h : (c.targetType p expected anchor).Builds (target, isList)) :
    isList = true ↔ p.type.listElement?.isSome = true := by
  unfold Catalog.targetType at h
  split at h
  next type isList' hsplit =>
  extract_lets mismatch at h
  have hpair : (type, isList') = (target, isList) := by
    split at h
    · extract_lets agrees at h
      split at h
      · exact absurd h Checked.not_builds_fail
      · exact Option.some.inj h.value
    · split at h
      · exact absurd h Checked.not_builds_fail
      · exact Option.some.inj h.value
  rw [hpair] at hsplit
  cases hlist : p.type.listElement? with
  | none =>
      rw [hlist] at hsplit
      cases hsplit
      simp
  | some element =>
      rw [hlist] at hsplit
      cases hsplit
      simp

/-- What the body of an operation resolves to, against its function and the declared result. -/
structure OperationBody.Declares (c : Catalog) (f : Function) (returns : TypeExpr)
    (body : OperationBody) : Prop where
  parameters : List.Forall₂ BoundParameter.Declares f.parameters body.1
  shape : body.2.2.Of c returns

theorem declares_of_rawOperation {mark : QueryMark} {returns : TypeExpr} {body : OperationBody}
    (h : (c.rawOperation (.known c.entityOf) (.known c.compoundOf) f mark returns
      anchor).run.run.Builds body) : body.Declares c f returns := by
  unfold Catalog.rawOperation at h
  split at h
  · exact absurd h Checked.not_builds_fail
  split at h
  · exact absurd h Checked.not_builds_fail
  obtain ⟨bound, hbound, h⟩ := CheckedT.builds_bind h
  obtain ⟨_, -, h⟩ := CheckedT.builds_bind h
  obtain ⟨shape, hshape, h⟩ := CheckedT.builds_bind h
  cases h.value
  refine ⟨declares_of_queryParameters hbound, ?_⟩
  unfold Catalog.queryShape at hshape
  split at hshape
  · exact of_readShape hshape
  · exact of_writeShape hshape

theorem declares_of_entityOperation {expected : Option TypeExpr} {strategy : ConflictStrategy}
    {wrap : EntityOperation → OperationKind} {returns : TypeExpr} {body : OperationBody}
    (h : (c.entityOperation (.known c.entityOf) f expected strategy wrap returns
      anchor).run.run.Builds body) : body.Declares c f returns := by
  unfold Catalog.entityOperation at h
  split at h
  · next p hparameters =>
    obtain ⟨⟨target, isList⟩, htarget, h⟩ := CheckedT.builds_bind h
    obtain ⟨entity, -, h⟩ := CheckedT.builds_bind h
    obtain ⟨shape, hshape, h⟩ := CheckedT.builds_bind h
    cases h.value
    refine ⟨?_, of_writeShape hshape⟩
    rw [hparameters]
    refine .cons ⟨rfl, rfl, ?_⟩ .nil
    rw [← isList_of_targetType htarget]
    cases isList <;> simp [Binding.isOfList]
  · exact absurd h Checked.not_builds_fail

theorem declares_of_operation {owner : String} {o : Operation}
    (h : (c.operation (.known c.entityOf) (.known c.compoundOf) owner f).run.run.Builds o) :
    o.Declares c f := by
  unfold Catalog.operation at h
  obtain ⟨mark, -, h⟩ := CheckedT.builds_bind h
  obtain ⟨body, hbody, h⟩ := CheckedT.builds_bind h
  have hdeclares : body.Declares c f f.result := by
    cases mark with
    | query mark => exact declares_of_rawOperation hbody
    | insert mark => exact declares_of_entityOperation hbody
    | update mark => exact declares_of_entityOperation hbody
    | delete mark => exact declares_of_entityOperation hbody
  cases h.value
  exact {
    name := rfl
    parameters := hdeclares.parameters
    declared := rfl
    wrapping := rfl
    shape := hdeclares.shape
    output := fun _ => ReturnShape.writes_output }

end Operations

/-! ## types that are written out -/

/-- The second type is the first one, with the qualified names of the declarations that it names. A list
may be spelled by any path of `Vec`, and the type without a value may be left unnamed. -/
inductive Catalog.Spells (c : Catalog) : TypeExpr → TypeExpr → Prop
  | refl (t : TypeExpr) : Spells c t t
  | declared {t : TypeExpr} {d : Declaration} (hd : c.resolve? t = some d) :
      Spells c t { t with name := d.qualifiedName }
  | list {t element spelled : TypeExpr} (hlist : t.listElement? = some element)
      (h : Spells c element spelled) : Spells c t { t with name := "Vec", arguments := [spelled] }
  | unnamed {t : TypeExpr} (h : t.name = "") : Spells c t { t with name := "()" }

namespace TypeExpr

variable {t element : TypeExpr}

theorem arguments_of_listElement? (h : t.listElement? = some element) : t.arguments = [element] := by
  unfold listElement? at h
  split at h
  · next found harguments =>
    split at h
    · rw [harguments, Option.some.inj h]
    · contradiction
  · contradiction

theorem listElement?_of_arguments (h : t.arguments = []) : t.listElement? = none := by
  unfold listElement?
  rw [h]

theorem isUnit_iff : t.isUnit = true ↔
    t.nullable = false ∧ t.arguments = [] ∧ (t.name = "()" ∨ t.name = "") := by
  simp [isUnit, and_assoc]

theorem nonNull_of_plain (h : t.nullable = false) : t.nonNull = t := by
  obtain ⟨name, nullable, arguments⟩ := t
  obtain rfl : nullable = false := h
  rfl

end TypeExpr

namespace Catalog.Spells

variable {c : Catalog} {t u : TypeExpr}

theorem nullable_eq (h : c.Spells t u) : u.nullable = t.nullable := by
  cases h <;> rfl

theorem arguments_eq_nil (h : c.Spells t u) (hu : u.arguments = []) : t.arguments = [] := by
  cases h with
  | refl => exact hu
  | declared => exact hu
  | list => contradiction
  | unnamed => exact hu

theorem optional (h : c.Spells t.nonNull u) (ht : t.nullable = true) : c.Spells t u.asNullable := by
  obtain ⟨name, nullable, arguments⟩ := t
  subst ht
  cases h with
  | refl => exact .refl _
  | declared hd => exact .declared hd
  | list hlist hspells => exact .list hlist hspells
  | unnamed hname => exact .unnamed hname

/-- The element of a list that is written out. -/
theorem element {element spelled : TypeExpr} (h : c.Spells t u) (hlist : t.listElement? = some element)
    (hu : u.arguments = [spelled]) : c.Spells element spelled := by
  have harguments := TypeExpr.arguments_of_listElement? hlist
  cases h with
  | refl =>
      obtain rfl : element = spelled := by simpa [harguments] using hu
      exact .refl _
  | declared =>
      obtain rfl : element = spelled := by simpa [harguments] using hu
      exact .refl _
  | list hlist' hspells =>
      obtain rfl : _ = element := Option.some.inj (hlist'.symm.trans hlist)
      obtain rfl := List.singleton_inj.mp hu
      exact hspells
  | unnamed =>
      obtain rfl : element = spelled := by simpa [harguments] using hu
      exact .refl _

end Catalog.Spells

/-! ## signatures that are honoured -/

/-- The type of a row of a result: that of the elements of a list, or inside an `Option`. -/
def TypeExpr.ofRow (t : TypeExpr) : TypeExpr := t.listElement?.getD t.nonNull

/-- A list is not optional, nor is an entity or a compound in it, and neither has arguments. -/
structure TypeExpr.IsPlain (c : Catalog) (t : TypeExpr) : Prop where
  list : t.listElement?.isSome = true → t.nullable = false
  row : c.namesRows t.ofRow = true → t.ofRow.nullable = false ∧ t.ofRow.arguments = []

/-- The result has the shape of its type: a list for a list that is not optional and whose elements are
not, unless each becomes a value of their type; an optional row for another optional type; and one row
for any other type. -/
def ReturnShape.Fits (t : TypeExpr) : ReturnShape → Prop
  | .unit => t.isUnit = true
  | .affectedRows rows => rows = t
  | .list row => t.nullable = false ∧ ∃ element, t.listElement? = some element ∧
      (element.nullable = false ∨ ∃ mapping, row = .scalar element mapping)
  | .optional _ => t.nullable = true ∧ t.listElement? = none
  | .single _ => t.nullable = false ∧ t.listElement? = none

section Honours

variable {c : Catalog} {t : TypeExpr} {row : RowType} {shape : ReturnShape}

/-- The type of an entity or a compound is its name. -/
theorem RowType.Of.type_eq (h : row.Of c t) (hrows : c.namesRows t = true) :
    row.type.nullable = false ∧ row.type.arguments = [] := by
  cases h with
  | entity => exact ⟨rfl, rfl⟩
  | compound => exact ⟨rfl, rfl⟩
  | scalar hvalue =>
      rw [hvalue] at hrows
      contradiction

/-- What a row becomes is of its type iff an entity or a compound is neither optional nor has arguments. -/
theorem RowType.Of.spells_iff (h : row.Of c t) :
    c.Spells t row.type ↔ (c.namesRows t = true → t.nullable = false ∧ t.arguments = []) := by
  constructor
  · intro hspells hrows
    obtain ⟨hnullable, harguments⟩ := h.type_eq hrows
    exact ⟨hspells.nullable_eq.symm.trans hnullable, hspells.arguments_eq_nil harguments⟩
  · intro hplain
    have hdeclared {d : Declaration} (hrows : c.namesRows t = true) (hd : c.resolve? t = some d) :
        c.Spells t d.type := by
      obtain ⟨hnullable, harguments⟩ := hplain hrows
      have htype : d.type = { t with name := d.qualifiedName } := by
        rw [Declaration.type, TypeExpr.ofName, hnullable, harguments]
      rw [htype]
      exact .declared hd
    cases h with
    | entity hrows hd hentity =>
        rw [RowType.type, Entity.type, declaration_of_entityOf hentity]
        exact hdeclared hrows hd
    | compound hrows hd hcompound =>
        rw [RowType.type, declaration_of_compoundOf hcompound]
        exact hdeclared hrows hd
    | scalar => exact .refl t

theorem TypeExpr.isPlain_iff_of_list {element : TypeExpr} (hlist : t.listElement? = some element) :
    t.IsPlain c ↔ t.nullable = false ∧
      (c.namesRows element = true → element.nullable = false ∧ element.arguments = []) := by
  have hrow : t.ofRow = element := by rw [ofRow, hlist, Option.getD_some]
  constructor
  · intro h
    have hrows := h.row
    rw [hrow] at hrows
    exact ⟨h.list (by rw [hlist]; rfl), hrows⟩
  · rintro ⟨hplain, hrows⟩
    refine ⟨fun _ => hplain, ?_⟩
    rw [hrow]
    exact hrows

theorem TypeExpr.isPlain_iff_of_none (hlist : t.listElement? = none) :
    t.IsPlain c ↔ (c.namesRows t.nonNull = true →
      t.nonNull.nullable = false ∧ t.nonNull.arguments = []) := by
  have hrow : t.ofRow = t.nonNull := by rw [ofRow, hlist, Option.getD_none]
  rw [← hrow]
  refine ⟨IsPlain.row, fun hrows => ⟨fun hsome => ?_, hrows⟩⟩
  rw [hlist] at hsome
  contradiction

theorem TypeExpr.isPlain_of_arguments (hplain : t.nullable = false) (harguments : t.arguments = []) :
    t.IsPlain c := by
  rw [isPlain_iff_of_none (listElement?_of_arguments harguments), nonNull_of_plain hplain]
  exact fun _ => ⟨hplain, harguments⟩

/-- What a result gives out is of its type iff the type is plain. -/
theorem ReturnShape.Of.honours_iff (h : shape.Of c t) :
    (shape.Fits t ∧ c.Spells t shape.outputType) ↔ t.IsPlain c := by
  cases h with
  | unit hunit =>
      obtain ⟨hplain, harguments, hname⟩ := TypeExpr.isUnit_iff.mp hunit
      refine iff_of_true ⟨hunit, ?_⟩ (TypeExpr.isPlain_of_arguments hplain harguments)
      obtain ⟨name, nullable, arguments⟩ := t
      obtain rfl : nullable = false := hplain
      obtain rfl : arguments = [] := harguments
      rcases hname with hname | hname
      · obtain rfl : name = "()" := hname
        exact .refl _
      · exact .unnamed hname
  | affectedRows hplain harguments =>
      exact iff_of_true ⟨rfl, .refl t⟩ (TypeExpr.isPlain_of_arguments hplain harguments)
  | list hlist hrow =>
      rw [TypeExpr.isPlain_iff_of_list hlist, ← hrow.spells_iff]
      constructor
      · rintro ⟨⟨hplain, -⟩, hspells⟩
        exact ⟨hplain, hspells.element hlist rfl⟩
      · rintro ⟨hplain, hspells⟩
        have hlisted := Catalog.Spells.list hlist hspells
        rw [hplain] at hlisted
        refine ⟨⟨hplain, _, hlist, ?_⟩, hlisted⟩
        cases hrow with
        | entity => exact .inl hspells.nullable_eq.symm
        | compound => exact .inl hspells.nullable_eq.symm
        | scalar => exact .inr ⟨_, rfl⟩
  | optional hlist hoptional hrow =>
      rw [TypeExpr.isPlain_iff_of_none hlist, ← hrow.spells_iff]
      constructor
      · rintro ⟨-, hspells⟩
        refine hrow.spells_iff.mpr fun hrows => ⟨rfl, ?_⟩
        have harguments : t.arguments = [] := hspells.arguments_eq_nil (hrow.type_eq hrows).2
        exact harguments
      · exact fun hspells => ⟨⟨hoptional, hlist⟩, hspells.optional hoptional⟩
  | single hlist hnullable hrow =>
      rw [TypeExpr.isPlain_iff_of_none hlist, TypeExpr.nonNull_of_plain hnullable, ← hrow.spells_iff]
      exact ⟨fun hgiven => hgiven.2, fun hspells => ⟨⟨hnullable, hlist⟩, hspells⟩⟩

end Honours

/-- The operation honours the signature of its function: its result has the shape of the declared one and
is given out as that type, and what is bound as a list is a list that is not optional. -/
structure Operation.Honours (c : Catalog) (f : Function) (o : Operation) : Prop where
  shape : o.returns.shape.Fits f.result
  output : c.Spells f.result o.returns.shape.outputType
  lists : ∀ b ∈ o.parameters, b.binding.isOfList = true →
    b.type.nullable = false ∧ b.type.listElement?.isSome = true

/-- No list of the signature is optional, and the rows of its result are plain. -/
structure Function.IsPlain (c : Catalog) (f : Function) : Prop where
  result : f.result.IsPlain c
  parameters : ∀ p ∈ f.parameters, p.type.listElement?.isSome = true → p.type.nullable = false

theorem Operation.Declares.honours_iff {c : Catalog} {f : Function} {o : Operation}
    (h : o.Declares c f) : o.Honours c f ↔ f.IsPlain c := by
  have hshape := h.shape.honours_iff
  constructor
  · intro hhonours
    refine ⟨hshape.mp ⟨hhonours.shape, hhonours.output⟩, fun p hp hlist => ?_⟩
    obtain ⟨b, hb, hdeclares⟩ := exists_of_forall₂ h.parameters.flip hp
    rw [← hdeclares.type]
    exact (hhonours.lists b hb (hdeclares.isOfList.mpr hlist)).1
  · intro hplain
    obtain ⟨hfits, hspells⟩ := hshape.mpr hplain.result
    refine ⟨hfits, hspells, fun b hb hlist => ?_⟩
    obtain ⟨p, hp, hdeclares⟩ := exists_of_forall₂ h.parameters hb
    have helements := hdeclares.isOfList.mp hlist
    rw [hdeclares.type]
    exact ⟨hplain.parameters p hp helements, helements⟩

/-- **Signatures**: every operation of a DAO that resolves takes and gives what its function declares, but
whether a list is optional is not looked at. So the signature is honoured iff it has no optional list,
and no entity or compound in it is optional inside a list or has arguments. -/
theorem Dao.signatures_honoured_iff {c : Catalog} {d : Declaration} {dao : Dao}
    (h : c.daoFindings d = .ok dao) :
    List.Forall₂ (fun f o => Operation.Declares c f o ∧ (o.Honours c f ↔ f.IsPlain c))
      (d.functions.filter Function.isAbstract) dao.operations :=
  (builds_of_daoFindings h).imp fun _ _ hbuilds =>
    have hdeclares := declares_of_operation hbuilds
    ⟨hdeclares, hdeclares.honours_iff⟩

/-- Users with a numeric key. -/
def userCatalog : Catalog where
  declarations :=
    [{ qualifiedName := "app::User"
       annotations := [{ name := "Entity" }]
       properties :=
         [{ name := "id", type := .ofName "i64", annotations := [{ name := "PrimaryKey" }] }] }]
  nodup := by decide

/-- A DAO that reads users: those of some keys as a list, and all as a list that is optional. -/
def userDao : Declaration where
  qualifiedName := "app::UserDao"
  kind := .trait
  annotations := [{ name := "Dao" }]
  functions :=
    [{ name := "among"
       parameters := [{ name := "ids", type := { name := "Vec", arguments := [.ofName "i64"] } }]
       returnType := some { name := "Vec", arguments := [.ofName "User"] }
       annotations :=
         [{ name := "Query"
            arguments := [("value", .text "SELECT * FROM User WHERE id IN (:ids)")] }] },
      { name := "all"
        returnType := some { name := "Vec", nullable := true, arguments := [.ofName "User"] }
        annotations := [{ name := "Query", arguments := [("value", .text "SELECT * FROM User")] }] }]

/-- It resolves. The first function honours its signature, and the second does not. -/
theorem Dao.signatures_honoured_user :
    ∃ dao among all, userCatalog.daoFindings userDao = .ok dao ∧ dao.operations = [among, all] ∧
      among.Honours userCatalog userDao.functions[0] ∧
      ¬ all.Honours userCatalog userDao.functions[1] := by
  have hrun : (userCatalog.daoFindings userDao).toOption.map (fun dao => dao.operations.length) =
      some 2 := by
    decide +kernel
  obtain ⟨dao, hdao, hlength⟩ := Option.map_eq_some_iff.mp hrun
  have hresolved := eq_ok_of_toOption hdao
  obtain ⟨among, all, hoperations⟩ := List.length_eq_two.mp hlength
  have hsignatures : List.Forall₂ _ [userDao.functions[0], userDao.functions[1]] dao.operations :=
    Dao.signatures_honoured_iff hresolved
  rw [hoperations, List.forall₂_cons, List.forall₂_cons] at hsignatures
  obtain ⟨⟨-, hamong⟩, ⟨-, hall⟩, -⟩ := hsignatures
  refine ⟨dao, among, all, hresolved, hoperations, hamong.mpr ⟨⟨fun _ => rfl, ?_⟩, ?_⟩, ?_⟩
  · exact fun _ => ⟨rfl, rfl⟩
  · exact List.forall_mem_singleton.mpr fun _ => rfl
  · intro hhonours
    have hplain := (hall.mp hhonours).result.list rfl
    contradiction

end DaoForge
