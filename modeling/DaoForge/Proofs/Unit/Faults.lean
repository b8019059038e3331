import DaoForge.Proofs.Resolve.Entity
import DaoForge.Proofs.Unit.Composing

/-!
# DaoForge.Proofs.Unit.Faults

How composing a unit can fail.

1. Names and types are refused for what they are (`GenerationError.IsNaming`), and so fails all that is
   composed of them alone;
2. a construction also needs a value for each of its parameters. `Member.Buildable` says that it has
   them, at every depth of embedding, and the way from a row to a member then fails by a name only
   (`onlyNaming_argument`);
3. so do the units of entities, DAOs and databases that can be built (`onlyNaming_mapperUnit`,
   `onlyNaming_queriesUnit`, `failsWithin_databaseUnit`).
-/

namespace DaoForge

/-- The error is that a name is no identifier, or that a text is no type or path. -/
inductive GenerationError.IsNaming : GenerationError → Prop
  | identifier (name : String) : IsNaming (.invalidIdentifier name)
  | unwritable (name : String) : IsNaming (.unwritableIdentifier name)
  | typePath (path : String) : IsNaming (.invalidTypePath path)

/-- Nothing but a name can keep the code from being composed. -/
def OnlyNaming {α : Type} (x : Except GenerationError α) : Prop :=
  FailsWithin GenerationError.IsNaming x

/-! ## names and types -/

section Names

theorem onlyNaming_ident (name : String) : OnlyNaming (Ident.of name) := by
  unfold Ident.of
  split
  · exact failsWithin_error (.identifier name)
  split
  · exact failsWithin_ok _
  · exact failsWithin_error (.unwritable name)

theorem onlyNaming_readAll (reader : Code.Inner → Code.Reader Code) (text : String) :
    OnlyNaming (Code.readAll reader text) := by
  simp only [Code.readAll]
  split
  · exact failsWithin_ok _
  · exact failsWithin_error (.typePath text)

theorem onlyNaming_type (t : TypeExpr) : OnlyNaming (Code.ofType t) := onlyNaming_readAll _ _

theorem onlyNaming_path (text : String) : OnlyNaming (Code.ofPath text) := onlyNaming_readAll _ _

theorem onlyNaming_adapterField (key : AdapterKey) : OnlyNaming (AdapterField.of key) := by
  unfold AdapterField.of
  refine (onlyNaming_ident _).bind fun name _ => ?_
  refine (onlyNaming_type _).bind fun source _ => ?_
  exact (onlyNaming_type _).bind_ok

theorem onlyNaming_field? (mapping : Mapping) : OnlyNaming mapping.field? := by
  cases mapping with
  | native affinity => exact failsWithin_ok _
  | adapted key => exact (onlyNaming_ident _).bind_ok

theorem onlyNaming_read (source : RowSource) (type : TypeExpr) (mapping : Mapping) :
    OnlyNaming (Read.of source type mapping) := by
  cases mapping with
  | native affinity => exact (onlyNaming_type type).bind_ok
  | adapted key =>
      refine (onlyNaming_ident _).bind fun field _ => ?_
      exact (onlyNaming_type _).bind_ok

end Names

/-! ## constructions -/

/-- A construction takes members of these only, and a function those that are stored. -/
def Construction.Covers (c : Construction) (members : List Member) : Prop :=
  ∀ parameter ∈ c.parameters, ∃ m, members.find? (fun m => m.property == parameter) = some m ∧
    (c.function.isSome = true → m.isStored = true)

/-- Nothing that the value of a member is made of is missing. -/
inductive Member.Buildable : Member → Prop
  | column {c : Column} (mapped : c.isStored = true → c.mapping.isSome = true) :
      Buildable (.column c)
  | embedded {e : Embedding} {members : List Member} (covers : e.construction.Covers members)
      (inner : ∀ m ∈ members, Buildable m) : Buildable (.embedded e members)

/-- Nothing that a row becomes an entity of is missing. -/
structure Entity.Buildable (e : Entity) : Prop where
  covers : e.construction.Covers e.members
  members : ∀ m ∈ e.members, m.Buildable

theorem onlyNaming_build {owner : String} {c : Construction}
    {argument : String → Except GenerationError (Option Build)}
    (harguments : ∀ parameter ∈ c.parameters, OnlyNaming (argument parameter))
    (hsome : c.function.isSome = true → ∀ parameter ∈ c.parameters, argument parameter ≠ .ok none) :
    OnlyNaming (c.build owner argument) := by
  unfold Construction.build
  refine (onlyNaming_path owner).bind fun path _ => ?_
  split
  · next function hfunction =>
    refine (onlyNaming_ident function).bind fun name _ => ?_
    refine FailsWithin.bind_ok (failsWithin_mapM fun parameter hparameter => ?_)
    refine (harguments parameter hparameter).bind fun value hvalue => ?_
    cases value with
    | some value => exact failsWithin_ok value
    | none => exact absurd hvalue (hsome (hfunction ▸ rfl) parameter hparameter)
  · refine FailsWithin.bind_ok (failsWithin_mapM fun parameter hparameter => ?_)
    refine (onlyNaming_ident parameter).bind fun field _ => ?_
    exact (harguments parameter hparameter).bind_ok

namespace Member

/-- A member that is stored has a value. -/
theorem argument_ne_none {m : Member} (h : m.Buildable) (hstored : m.isStored = true) :
    m.argument ≠ .ok none := by
  intro hnone
  cases h with
  | @column c mapped =>
      obtain ⟨mapping, hmapping⟩ := Option.isSome_iff_exists.mp (mapped hstored)
      rw [isStored] at hstored
      rw [argument, hmapping] at hnone
      simp only [hstored, if_true] at hnone
      cases hread : Read.of (.column c.name) c.type mapping with
      | ok read =>
          rw [hread] at hnone
          cases hnone
      | error error =>
          rw [hread] at hnone
          cases hnone
  | @embedded e members covers hmembers =>
      rw [argument] at hnone
      obtain ⟨value, -, hnone⟩ := bind_eq_ok hnone
      split at hnone
      · cases hnone
      · cases hnone

end Member

/-- The arguments of a construction that covers its members. -/
theorem onlyNaming_build_of_covers {owner : String} {c : Construction} {members : List Member}
    (hcovers : c.Covers members) (hbuildable : ∀ m ∈ members, m.Buildable)
    (harguments : ∀ m ∈ members, OnlyNaming m.argument) :
    OnlyNaming (c.build owner (argumentNamed owner (Member.arguments members))) := by
  refine onlyNaming_build (fun parameter hparameter => ?_) fun hfunction parameter hparameter => ?_
  · obtain ⟨m, hfind, -⟩ := hcovers parameter hparameter
    rw [Member.argumentNamed_arguments hfind]
    exact harguments m (List.mem_of_find?_eq_some hfind)
  · obtain ⟨m, hfind, hstored⟩ := hcovers parameter hparameter
    rw [Member.argumentNamed_arguments hfind]
    exact Member.argument_ne_none (hbuildable m (List.mem_of_find?_eq_some hfind))
      (hstored hfunction)

/-- However deep a member is embedded, its value fails by a name only. -/
theorem onlyNaming_argument {m : Member} (h : m.Buildable) : OnlyNaming m.argument := by
  induction h with
  | @column c mapped =>
      rw [Member.argument]
      split
      · split
        · exact (onlyNaming_read _ _ _).map _
        · exact failsWithin_ok _
      · exact failsWithin_ok _
  | @embedded e members covers hmembers ih =>
      rw [Member.argument]
      refine (onlyNaming_build_of_covers covers hmembers ih).bind fun value _ => ?_
      split
      · exact failsWithin_ok _
      · exact failsWithin_ok _

theorem onlyNaming_entity {e : Entity} (h : e.Buildable) : OnlyNaming e.build :=
  onlyNaming_build_of_covers h.covers h.members fun m hm => onlyNaming_argument (h.members m hm)

/-! ## units of an entity -/

section Entities

variable (n : Naming)

theorem onlyNaming_tableUnit (e : Entity) : OnlyNaming (TableUnit.of n e) :=
  (onlyNaming_ident _).bind_ok

theorem onlyNaming_mapperUnit {e : Entity} (h : e.Buildable) : OnlyNaming (MapperUnit.of n e) := by
  unfold MapperUnit.of
  refine (onlyNaming_ident _).bind fun name _ => ?_
  refine (onlyNaming_type _).bind fun entity _ => ?_
  refine FailsWithin.bind (failsWithin_mapM fun key _ => onlyNaming_ident _) fun fields _ => ?_
  refine FailsWithin.bind (failsWithin_mapM fun key _ => onlyNaming_adapterField key)
    fun adapters _ => ?_
  exact (onlyNaming_entity h).bind_ok

end Entities

/-! ## units of a DAO -/

/-- Nothing that the units of a DAO are made of is missing: the columns that it writes have a mapping,
and a constructor of a compound takes the embedded entity and relations only. -/
structure Dao.Buildable (d : Dao) : Prop where
  writes : ∀ o ∈ d.operations, ∀ e, o.kind.target? = some e →
    ∀ column ∈ e.storedColumns, column.mapping.isSome = true
  loads : ∀ c ∈ d.compounds, c.construction.function.isSome = true →
    ∀ parameter ∈ c.construction.parameters,
      parameter = c.mainProperty ∨ ∃ r ∈ c.relations, r.property = parameter

section Daos

theorem onlyNaming_columnArgument {e : Entity} {column : Column}
    (h : column.mapping.isSome = true) : OnlyNaming (ColumnArgument.of e column) := by
  obtain ⟨mapping, hmapping⟩ := Option.isSome_iff_exists.mp h
  simp only [ColumnArgument.of, hmapping]
  refine FailsWithin.bind (failsWithin_mapM fun embedding _ => ?_) fun embeddings _ => ?_
  · exact (onlyNaming_ident _).bind_ok
  · refine (onlyNaming_ident _).bind fun property _ => ?_
    exact (onlyNaming_field? mapping).bind_ok

theorem onlyNaming_writeBody {o : Operation} {operation : EntityOperation}
    {statement : Sql.WriteStatement} {columns : List Column}
    (h : ∀ column ∈ columns, column.mapping.isSome = true) :
    OnlyNaming (o.writeBody operation statement columns) := by
  unfold Operation.writeBody
  refine (onlyNaming_ident _).bind fun parameter _ => ?_
  refine FailsWithin.bind_ok (failsWithin_mapM fun column hcolumn => ?_)
  exact onlyNaming_columnArgument (h column hcolumn)

theorem onlyNaming_statementText (o : Operation) (query : RawQuery) :
    OnlyNaming (o.statementText query) := by
  unfold Operation.statementText
  split
  · refine FailsWithin.bind_ok (failsWithin_mapM fun segment _ => ?_)
    split
    · exact failsWithin_ok _
    · split
      · exact (onlyNaming_ident _).bind_ok
      · exact failsWithin_ok _
  · exact failsWithin_ok _

theorem onlyNaming_push? (p : BoundParameter) : OnlyNaming p.push? := by
  unfold BoundParameter.push?
  refine (onlyNaming_ident _).bind fun name _ => ?_
  split
  · exact (onlyNaming_field? _).bind_ok
  · exact (onlyNaming_field? _).bind_ok
  · exact failsWithin_ok _
  · exact failsWithin_ok _

theorem onlyNaming_pushes (o : Operation) (query : RawQuery) : OnlyNaming (o.pushes query) := by
  unfold Operation.pushes
  refine FailsWithin.bind_ok (failsWithin_mapM fun name _ => ?_)
  split
  · exact onlyNaming_push? _
  · exact failsWithin_ok _

theorem onlyNaming_readFirst (type : TypeExpr) (mapping : Mapping) :
    OnlyNaming (readFirst type mapping) :=
  (onlyNaming_read _ type mapping).map _

theorem onlyNaming_rowExecution (multiplicity : Multiplicity) (row : RowType) :
    OnlyNaming (row.execution multiplicity) := by
  cases row with
  | entity e => exact (onlyNaming_ident _).bind_ok
  | scalar type mapping =>
      exact (onlyNaming_readFirst type mapping).bind_ok
  | compound c =>
      refine (onlyNaming_ident _).bind fun mapper _ => ?_
      exact (onlyNaming_ident _).bind_ok

theorem onlyNaming_execution (shape : ReturnShape) : OnlyNaming shape.execution := by
  cases shape with
  | unit => exact failsWithin_ok _
  | affectedRows type => exact failsWithin_ok _
  | single row => exact onlyNaming_rowExecution _ row
  | optional row => exact onlyNaming_rowExecution _ row
  | list row => exact onlyNaming_rowExecution _ row

theorem onlyNaming_output (shape : ReturnShape) : OnlyNaming shape.output := by
  cases shape with
  | unit => exact failsWithin_ok _
  | affectedRows type => exact onlyNaming_type type
  | single row => exact onlyNaming_type _
  | optional row => exact (onlyNaming_type _).bind_ok
  | list row => exact (onlyNaming_type _).bind_ok

theorem onlyNaming_body {o : Operation} (h : ∀ e, o.kind.target? = some e →
    ∀ column ∈ e.storedColumns, column.mapping.isSome = true) : OnlyNaming o.body := by
  unfold Operation.body
  split
  · refine (onlyNaming_statementText o _).bind fun statement _ => ?_
    refine (onlyNaming_pushes o _).bind fun pushes _ => ?_
    exact (onlyNaming_execution _).bind_ok
  · next operation hkind =>
    exact onlyNaming_writeBody (h _ (congrArg OperationKind.target? hkind))
  · next operation hkind =>
    have hmapped := h _ (congrArg OperationKind.target? hkind)
    refine onlyNaming_writeBody (List.forall_mem_append.mpr ⟨fun column hcolumn => ?_, ?_⟩)
    · exact hmapped column (List.mem_filter.mp hcolumn).1
    · exact fun column hcolumn => hmapped column (Entity.mem_storedColumns_of_mem_keyColumns hcolumn)
  · next operation hkind =>
    have hmapped := h _ (congrArg OperationKind.target? hkind)
    refine onlyNaming_writeBody fun column hcolumn => ?_
    exact hmapped column (Entity.mem_storedColumns_of_mem_keyColumns hcolumn)

theorem onlyNaming_parameterCodes (o : Operation) : OnlyNaming o.parameterCodes := by
  refine failsWithin_mapM fun p _ => ?_
  refine (onlyNaming_ident _).bind fun name _ => ?_
  exact (onlyNaming_type _).bind_ok

theorem onlyNaming_method {o : Operation} (h : ∀ e, o.kind.target? = some e →
    ∀ column ∈ e.storedColumns, column.mapping.isSome = true) : OnlyNaming o.method := by
  unfold Operation.method
  refine (onlyNaming_ident _).bind fun function _ => ?_
  refine (onlyNaming_parameterCodes o).bind fun parameters _ => ?_
  refine (onlyNaming_output _).bind fun output _ => ?_
  exact (onlyNaming_body h).bind_ok

theorem onlyNaming_load (r : Relation) : OnlyNaming r.load := by
  unfold Relation.load
  refine (onlyNaming_ident _).bind fun property _ => ?_
  split
  · exact FailsWithin.bind (onlyNaming_ident _) fun field _ => failsWithin_ok _
  · exact (onlyNaming_readFirst _ _).bind_ok

/-- A property of a compound has a value if it is the embedded entity's or a relation's. -/
theorem Compound.argument_ne_none {c : Compound} {parameter : String}
    (h : parameter = c.mainProperty ∨ ∃ r ∈ c.relations, r.property = parameter) :
    c.argument parameter ≠ .ok none := by
  unfold Compound.argument
  split
  · exact fun hnone => nomatch hnone
  next hother =>
  split
  · next r _ =>
    intro hnone
    obtain ⟨name, -, hnone⟩ := bind_eq_ok hnone
    cases hnone
  · next hmissing =>
    obtain hmain | ⟨r, hr, hproperty⟩ := h
    · exact absurd (beq_iff_eq.mpr hmain) hother
    · exact absurd (beq_iff_eq.mpr hproperty) (List.find?_eq_none.mp hmissing r hr)

theorem onlyNaming_loader {c : Compound} (h : c.construction.function.isSome = true →
    ∀ parameter ∈ c.construction.parameters,
      parameter = c.mainProperty ∨ ∃ r ∈ c.relations, r.property = parameter) :
    OnlyNaming c.loader := by
  unfold Compound.loader
  refine (onlyNaming_ident _).bind fun name _ => ?_
  refine (onlyNaming_type _).bind fun main _ => ?_
  refine (onlyNaming_path _).bind fun compound _ => ?_
  refine FailsWithin.bind (failsWithin_mapM fun r _ => onlyNaming_load r) fun loads _ => ?_
  refine FailsWithin.bind_ok (onlyNaming_build (fun parameter _ => ?_) fun hfunction parameter hp => ?_)
  · unfold Compound.argument
    split
    · exact failsWithin_ok _
    · split
      · exact (onlyNaming_ident _).bind_ok
      · exact failsWithin_ok _
  · exact Compound.argument_ne_none (h hfunction parameter hp)

variable (n : Naming)

theorem onlyNaming_queriesUnit {d : Dao} (h : d.Buildable) : OnlyNaming (QueriesUnit.of n d) := by
  unfold QueriesUnit.of
  refine (onlyNaming_ident _).bind fun name _ => ?_
  refine FailsWithin.bind (failsWithin_mapM fun key _ => onlyNaming_adapterField key)
    fun adapters _ => ?_
  refine FailsWithin.bind (failsWithin_mapM fun e _ => ?_) fun mappers _ => ?_
  · refine (onlyNaming_ident _).bind fun mapper _ => ?_
    exact (onlyNaming_ident _).bind_ok
  refine FailsWithin.bind (failsWithin_mapM fun o ho => onlyNaming_method (h.writes o ho))
    fun methods _ => ?_
  exact FailsWithin.bind_ok (failsWithin_mapM fun c hc => onlyNaming_loader (h.loads c hc))

theorem onlyNaming_daoUnit (d : Dao) : OnlyNaming (DaoUnit.of n d) := by
  unfold DaoUnit.of
  refine (onlyNaming_ident _).bind fun name _ => ?_
  refine (onlyNaming_ident _).bind fun queries _ => ?_
  refine (onlyNaming_path _).bind fun daoTrait _ => ?_
  refine FailsWithin.bind_ok (failsWithin_mapM fun o _ => ?_)
  unfold Operation.daoFunction
  refine (onlyNaming_ident _).bind fun function _ => ?_
  refine (onlyNaming_parameterCodes o).bind fun parameters _ => ?_
  split
  · exact failsWithin_ok _
  · exact FailsWithin.bind_ok ((onlyNaming_type _).map some)

end Daos

/-! ## units of a database -/

/-- An error that is about a name, or that only says that what the declaration needs has failed. -/
inductive SpecError.OfNaming : SpecError → Prop
  | name {e : GenerationError} (h : e.IsNaming) : OfNaming (.generation e)
  | dependency (declaration : String) : OfNaming (.resolution (.dependencyFailed declaration))

section Databases

variable (n : Naming) (d : Database)

theorem onlyNaming_schemaUnit : OnlyNaming (SchemaUnit.of n d) := by
  unfold SchemaUnit.of
  refine (onlyNaming_ident _).bind fun name _ => ?_
  exact FailsWithin.bind_ok (failsWithin_mapM fun e _ => onlyNaming_ident _)

theorem failsWithin_composing {α : Type} {x : Except GenerationError α} (h : OnlyNaming x) :
    FailsWithin SpecError.OfNaming (composing x) :=
  h.mapError fun _ => .name

variable {d}

/-- An adapter that is built in or has a converter can be created. -/
theorem failsWithin_adapterInstance {key : AdapterKey}
    (h : key.builtin?.isSome = true ∨ (d.converterFor? key).isSome = true) :
    FailsWithin SpecError.OfNaming (d.adapterInstance key) := by
  unfold Database.adapterInstance
  split
  · split
    · exact failsWithin_ok _
    · next error herror => exact failsWithin_error (.name (onlyNaming_type _ error herror))
  next hconverter =>
  split
  · split
    · exact failsWithin_ok _
    · next error herror => exact failsWithin_error (.name (onlyNaming_type _ error herror))
  · exact failsWithin_ok _
  · exact failsWithin_ok _
  · next hbuiltin =>
    rw [hconverter, hbuiltin] at h
    simp at h

/-- A mapper that is created is passed on. -/
theorem onlyNaming_create {w : QueriesWiring} {mappers : List MapperWiring}
    (h : ∀ e ∈ w.mappers, ∃ m ∈ mappers, m.entity = e) : OnlyNaming (w.create n mappers) := by
  unfold QueriesWiring.create
  refine (onlyNaming_ident _).bind fun unit _ => ?_
  refine (onlyNaming_ident _).bind fun field _ => ?_
  refine FailsWithin.bind (failsWithin_mapM fun key _ => onlyNaming_ident _) fun adapters _ => ?_
  refine FailsWithin.bind_ok (failsWithin_mapM fun e he => ?_)
  obtain ⟨m, hm, rfl⟩ := h e he
  have hany : (mappers.any fun m' => m'.entity.declaration == m.entity.declaration) = true :=
    List.any_eq_true.mpr ⟨m, hm, beq_self_eq_true m.entity.declaration⟩
  rw [if_pos hany]
  exact onlyNaming_ident _

/-- The implementation of a database lacks nothing but names, if its adapters can be created and all
mappers that its queries take are created. -/
theorem failsWithin_databaseUnit {mappers : List MapperWiring} {queries : List QueriesWiring}
    (hadapters : ∀ key ∈ wiredAdapters mappers queries,
      key.builtin?.isSome = true ∨ (d.converterFor? key).isSome = true)
    (hmappers : ∀ w ∈ queries, ∀ e ∈ w.mappers, ∃ m ∈ mappers, m.entity = e) :
    FailsWithin SpecError.OfNaming (DatabaseUnit.of n d mappers queries) := by
  unfold DatabaseUnit.of
  refine (failsWithin_composing (onlyNaming_ident _)).bind fun name _ => ?_
  refine (failsWithin_composing (onlyNaming_ident _)).bind fun schema _ => ?_
  refine (failsWithin_composing (onlyNaming_path _)).bind fun databaseTrait _ => ?_
  refine FailsWithin.bind (failsWithin_mapM fun key hkey => ?_) fun adapters _ => ?_
  · refine (failsWithin_composing (onlyNaming_adapterField key)).bind fun field _ => ?_
    exact (failsWithin_adapterInstance (hadapters key hkey)).bind_ok
  refine (failsWithin_composing (failsWithin_mapM fun w _ => ?_)).bind fun ofMappers _ => ?_
  · refine (onlyNaming_ident _).bind fun unit _ => ?_
    refine (onlyNaming_ident _).bind fun field _ => ?_
    exact FailsWithin.bind_ok (failsWithin_mapM fun key _ => onlyNaming_ident _)
  refine (failsWithin_composing (failsWithin_mapM fun w hw => ?_)).bind fun ofQueries _ => ?_
  · exact onlyNaming_create n (hmappers w hw)
  refine (failsWithin_composing (failsWithin_mapM fun g _ => ?_)).bind_ok
  refine (onlyNaming_ident _).bind fun function _ => ?_
  refine (onlyNaming_ident _).bind fun implementation _ => ?_
  refine (onlyNaming_ident _).bind fun holder _ => ?_
  exact (onlyNaming_path _).bind_ok

end Databases

end DaoForge
