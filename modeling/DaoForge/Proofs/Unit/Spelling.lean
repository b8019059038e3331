import DaoForge.Proofs.Unit.Composing
import DaoForge.Proofs.Unit.Surroundings
import DaoForge.Proofs.Unit.Value

/-!
# DaoForge.Proofs.Unit.Spelling

What the units of a declaration spell as the declaration does, and the code of values.

1. `Spelling`: types and paths. `Entity.spelling`, `Dao.spelling` and `Database.spelling` list those of a
   declaration, beside the path of the run-time library;
2. `AdapterKey.HeldIn`: the surroundings have what an adapter needs;
3. values are closed, whatever they are read from or bound to: `closed_read`, `closed_columnArgument`;
   and so is a struct that is built of closed values (`closed_construction`).
-/

namespace DaoForge

/-! ## what is spelled -/

/-- Types and paths that are spelled. -/
structure Spelling where
  types : List TypeExpr
  paths : List String

/-- The code is that of one of the types or paths, or of the path of the run-time library. -/
inductive Spelling.Has (spelling : Spelling) (n : Naming) : Code → Prop
  | runtime {code : Code} (h : n.runtime = Code.word "::" ++ code) : Has spelling n code
  | type {t : TypeExpr} {code : Code} (ht : t ∈ spelling.types) (h : Code.ofType t = .ok code) :
      Has spelling n code
  | path {path : String} {code : Code} (hpath : path ∈ spelling.paths) (h : Code.ofPath path = .ok code) :
      Has spelling n code

/-- The two types of an adapter. -/
def AdapterKey.types (key : AdapterKey) : List TypeExpr := [key.sourceType, key.storageType]

namespace Member

mutual

/-- The structs that are embedded in a member, at any depth. -/
def owners : Member → List String
  | .column _ => []
  | .embedded e members => e.type.name :: ownersOf members

def ownersOf : List Member → List String
  | [] => []
  | m :: rest => owners m ++ ownersOf rest

end

end Member

/-- What the units of an entity spell. -/
def Entity.spelling (e : Entity) : Spelling where
  types := e.type :: e.storedColumns.map Column.type ++ e.adapters.flatMap AdapterKey.types
  paths := e.declaration :: Member.ownersOf e.members

/-- What the loader of a compound spells of a relation. -/
def Relation.types (r : Relation) : List TypeExpr :=
  match r.element with
  | .scalar _ type _ => [type]
  | .entity => []

def Compound.types (compound : Compound) : List TypeExpr :=
  compound.main.type :: compound.relations.flatMap Relation.types

def ReturnShape.types : ReturnShape → List TypeExpr
  | .unit => []
  | .affectedRows type => [type]
  | .single row | .optional row | .list row => [row.type]

/-- What the functions of an operation spell. -/
def Operation.types (o : Operation) : List TypeExpr :=
  o.returns.declared :: o.returns.shape.types ++ o.parameters.map BoundParameter.type

/-- What the units of a DAO spell. -/
def Dao.spelling (d : Dao) : Spelling where
  types := d.operations.flatMap Operation.types ++ d.compounds.flatMap Compound.types ++
    d.statementAdapters.flatMap AdapterKey.types
  paths := d.declaration :: d.compounds.map Compound.declaration

/-- What the units of a database spell. -/
def Database.spelling (d : Database) : Spelling where
  types := d.converters.map Converter.converter ++ d.adapters.flatMap AdapterKey.types
  paths := d.declaration :: d.getters.map fun g => g.dao.declaration

/-! ## what surroundings have -/

/-- The code of the type is spelled. -/
def Surroundings.SpellsType (s : Surroundings) (t : TypeExpr) : Prop :=
  ∀ code, Code.ofType t = .ok code → s.spelled code

/-- The code of the path is spelled. -/
def Surroundings.SpellsPath (s : Surroundings) (path : String) : Prop :=
  ∀ code, Code.ofPath path = .ok code → s.spelled code

/-- The path of the run-time library is spelled. -/
def Naming.SpelledIn (n : Naming) (s : Surroundings) : Prop :=
  ∃ path, n.runtime = Code.word "::" ++ path ∧ s.spelled path

/-- The adapter has a field, and its types are spelled. -/
structure AdapterKey.HeldIn (key : AdapterKey) (s : Surroundings) : Prop where
  field : ∀ name, key.field = .ok name → name ∈ s.names .self
  source : s.SpellsType key.sourceType
  storage : s.SpellsType key.storageType

/-- An adapter is held whose field the surroundings have. -/
theorem AdapterKey.heldIn_of {key : AdapterKey} {s : Surroundings} {field : Ident}
    (hfield : key.field = .ok field) (hmem : field ∈ s.names .self)
    (htypes : ∀ t ∈ key.types, s.SpellsType t) : key.HeldIn s where
  field name hname := by
    rw [Except.ok.inj (hname.symm.trans hfield)]
    exact hmem
  source := htypes _ List.mem_cons_self
  storage := htypes _ (List.mem_cons_of_mem _ List.mem_cons_self)

/-- Fields of adapters have names. -/
theorem AdapterKey.named_fields {keys : List AdapterKey} {fields : List Ident}
    (h : keys.mapM AdapterKey.field = .ok fields) : ∀ i ∈ fields, ∃ name, Ident.of name = .ok i := by
  intro i hi
  obtain ⟨key, -, hkey⟩ := exists_of_forall₂ (forall₂_of_mapM h) hi
  exact ⟨_, hkey⟩

/-- The column can be read and bound. -/
structure Column.HeldIn (column : Column) (s : Surroundings) : Prop where
  type : s.SpellsType column.type
  adapter : ∀ key, column.adapter? = some key → key.HeldIn s

/-- Surroundings that spell what a spelling lists. -/
structure Surroundings.Spells (s : Surroundings) (n : Naming) (spelling : Spelling) : Prop where
  runtime : n.SpelledIn s
  types : ∀ t ∈ spelling.types, s.SpellsType t
  paths : ∀ path ∈ spelling.paths, s.SpellsPath path

theorem Naming.runtime_of {options : Options} {n : Naming} (h : Naming.ofOptions options = .ok n) :
    ∃ path, n.runtime = Code.word "::" ++ path := by
  unfold ofOptions at h
  obtain ⟨_, -, h⟩ := bind_eq_ok h
  split at h
  · next path hpath =>
    cases h
    exact ⟨path, rfl⟩
  · contradiction

theorem Surroundings.spells_of {options : Options} {n : Naming} (hn : Naming.ofOptions options = .ok n)
    {s : Surroundings} {spelling : Spelling} (h : s.spelled = spelling.Has n) : s.Spells n spelling where
  runtime := by
    obtain ⟨path, hpath⟩ := Naming.runtime_of hn
    exact ⟨path, hpath, h ▸ .runtime hpath⟩
  types _ ht _ hcode := h ▸ .type ht hcode
  paths _ hpath _ hcode := h ▸ .path hpath hcode

/-! ## values -/

open Code.ClosedIn

section Values

variable {b : Base} {s : Surroundings} {n : Naming} (hn : n.SpelledIn s)

theorem closed_field? {mapping : Mapping} (h : ∀ key, mapping.adapter? = some key → key.HeldIn s)
    {adapter : Option Ident} (hfield : mapping.field? = .ok adapter) :
    ∀ a ∈ adapter, a ∈ s.names .self := by
  cases mapping with
  | native affinity =>
      cases hfield
      exact nofun
  | adapted key =>
      obtain ⟨name, hname, hfield⟩ := bind_eq_ok hfield
      cases hfield
      rintro a ⟨⟩
      exact (h key rfl).field name hname

theorem closed_encodeValue {adapter : Ident} (ha : adapter ∈ s.names .self) {value : Code}
    (hvalue : Code.ClosedIn b s value) : Code.ClosedIn b s (Code.encodeValue adapter value) :=
  append (append (field ha) (words rfl)) hvalue.parens

theorem closed_mapEncode {adapter : Ident} (ha : adapter ∈ s.names .self) :
    Code.ClosedIn b s (Code.mapEncode adapter) :=
  append (words rfl) (append (words rfl) (closed_encodeValue ha (word rfl))).parens

include hn

theorem closed_runtimePath {chars : List Char} (h : (Code.wordsFrom [] chars).all isFree = true) :
    Code.ClosedIn b s (n.runtimePath (String.ofList chars)) := by
  obtain ⟨path, hruntime, hpath⟩ := hn
  have hseparator : Code.words (":: " ++ String.ofList chars) =
      Code.word "::" ++ Code.words (String.ofList chars) := by
    simp only [Code.words, String.toList_append, String.toList_ofList]
    rfl
  rw [Naming.runtimePath, hruntime, hseparator]
  exact between (word rfl) (.inr hpath) (append (word rfl) (words h)) rfl

theorem closed_fromStored {value : Code} (hvalue : Code.ClosedIn b s value) :
    Code.ClosedIn b s (Code.fromStored n value) :=
  (closed_runtimePath hn rfl).append hvalue.parens

theorem closed_bindNative {value : Code} (hvalue : Code.ClosedIn b s value) :
    Code.ClosedIn b s (Code.bindNative n value) :=
  (closed_runtimePath hn rfl).append (append (word rfl) hvalue).parens

theorem closed_bindPlace {place : Code} (hplace : Code.ClosedIn b s place) (isNullable : Bool)
    {adapter : Option Ident} (ha : ∀ a ∈ adapter, a ∈ s.names .self) :
    Code.ClosedIn b s (Code.bindPlace n place isNullable adapter) := by
  cases adapter with
  | none => exact closed_bindNative hn hplace
  | some adapter =>
      have ha := ha adapter rfl
      cases isNullable with
      | false => exact closed_fromStored hn (closed_encodeValue ha (append (word rfl) hplace))
      | true => exact closed_fromStored hn ((hplace.append (words rfl)).append (closed_mapEncode ha))

theorem closed_bindOption {option : Code} (hoption : Code.ClosedIn b s option) {adapter : Option Ident}
    (ha : ∀ a ∈ adapter, a ∈ s.names .self) : Code.ClosedIn b s (Code.bindOption n option adapter) := by
  cases adapter with
  | none => exact closed_bindNative hn hoption
  | some adapter => exact closed_fromStored hn (hoption.append (closed_mapEncode (ha adapter rfl)))

theorem closed_raw {type : Code} (htype : Code.ClosedOrSpelled b s type) (source : RowSource) :
    Code.ClosedIn b s (Read.raw n type source) := by
  have hend : Code.ClosedIn b s (Code.word ">") := word rfl
  cases source with
  | column name =>
      have harguments : Code.ClosedIn b s (Code.parens (Code.words "cursor ," ++ Code.string name)) :=
        (append (words rfl) (string name)).parens
      exact append (append (between (closed_runtimePath hn rfl) htype hend rfl) harguments) (word rfl)
  | first =>
      have harguments : Code.ClosedIn b s (Code.parens (Code.words "cursor , 0")) := parens (words rfl)
      exact append (append (between (closed_runtimePath hn rfl) htype hend rfl) harguments) (word rfl)

theorem closed_read {source : RowSource} {type : TypeExpr} {mapping : Mapping} {read : Read}
    (h : Read.of source type mapping = .ok read)
    (htype : s.SpellsType type) (hadapters : ∀ key, mapping.adapter? = some key → key.HeldIn s) :
    Code.ClosedIn b s (read.code n) := by
  cases mapping with
  | native affinity =>
      obtain ⟨code, hcode, h⟩ := bind_eq_ok h
      cases h
      exact closed_raw hn (.inr (htype code hcode)) source
  | adapted key =>
      obtain ⟨name, hname, h⟩ := bind_eq_ok h
      obtain ⟨storage, hstorage, h⟩ := bind_eq_ok h
      cases h
      have hheld := hadapters key rfl
      have hfield := hheld.field name hname
      have hstored : Code.ClosedOrSpelled b s storage := .inr (hheld.storage storage hstorage)
      cases type.nullable with
      | false =>
          have hvalue := (closed_raw hn hstored source).parens
          exact append (append (append (field hfield) (words rfl)) hvalue) (word rfl)
      | true =>
          have hoption : Code.ClosedIn b s (Code.words "Option <" ++ storage ++ Code.word ">") :=
            between (words rfl) hstored (word rfl) rfl
          have hbound : Code.ClosedIn b s (Code.words "| value |") := words rfl
          have hdecode : Code.ClosedIn b s (Code.words "| value | self ." ++ name.code) :=
            fieldBehind hfield hbound rfl
          exact append (append (append (closed_raw hn (.inl hoption) source) (words rfl))
            (parens (append (append hdecode (words rfl)) (parens (word rfl))))) (words rfl)

omit hn in
/-- What stands at a place is closed. -/
theorem closed_property {place : Place} (hplace : Code.ClosedIn b s place.code) {name : Ident}
    (hname : Code.ClosedIn b s name.code) (isOptional : Bool) :
    Code.ClosedIn b s (place.property name isOptional).code := by
  cases place with
  | direct code =>
      cases isOptional with
      | false => exact append (append hplace (word rfl)) hname
      | true => exact append (append (append hplace (word rfl)) hname) (words rfl)
  | option code =>
      cases isOptional with
      | false => exact append (append hplace (words rfl)) (parens (append (words rfl) hname))
      | true =>
          exact append (append hplace (words rfl))
            (parens (append (append (words rfl) hname) (words rfl)))

omit hn in
/-- The place that steps lead to is closed. -/
theorem closed_owner {a : ColumnArgument}
    (hsteps : ∀ step ∈ a.embeddings, Code.ClosedIn b s step.property.code) :
    Code.ClosedIn b s a.owner.code := by
  refine List.foldlRecOn (motive := fun place : Place => Code.ClosedIn b s place.code) _ _ (word rfl) ?_
  exact fun place hplace step hstep => closed_property hplace (hsteps step hstep) step.isOptional

/-- An argument is closed whose steps, property and adapter are. -/
theorem closed_argument {a : ColumnArgument}
    (hsteps : ∀ step ∈ a.embeddings, Code.ClosedIn b s step.property.code)
    (hproperty : Code.ClosedIn b s a.property.code) (hadapter : ∀ name ∈ a.adapter, name ∈ s.names .self) :
    Code.ClosedIn b s (a.code n) := by
  have howner := closed_owner hsteps
  unfold ColumnArgument.code
  split
  · next place hplace =>
    rw [hplace] at howner
    exact closed_bindPlace hn (append (append howner (word rfl)) hproperty) _ hadapter
  · next place hplace =>
    rw [hplace] at howner
    have hvalue := closed_property howner hproperty a.isNullable
    split
    all_goals
      next code hcode =>
        rw [hcode] at hvalue
        exact closed_bindOption hn hvalue hadapter

theorem closed_columnArgument {e : Entity} {column : Column} {a : ColumnArgument}
    (h : ColumnArgument.of e column = .ok a)
    (hadapter : ∀ key, column.adapter? = some key → key.HeldIn s) : Code.ClosedIn b s (a.code n) := by
  unfold ColumnArgument.of at h
  split at h
  · contradiction
  · next mapping hmapping =>
    obtain ⟨embeddings, hembeddings, h⟩ := bind_eq_ok h
    obtain ⟨property, hproperty, h⟩ := bind_eq_ok h
    obtain ⟨adapter, hfield, h⟩ := bind_eq_ok h
    cases h
    rw [Column.adapter?, hmapping] at hadapter
    refine closed_argument hn (fun step hstep => ?_) (ident hproperty) (closed_field? hadapter hfield)
    obtain ⟨embedding, -, hstep⟩ := exists_of_forall₂ (forall₂_of_mapM hembeddings) hstep
    obtain ⟨name, hname, hstep⟩ := bind_eq_ok hstep
    cases hstep
    exact ident hname

end Values

/-! ## structs -/

theorem Member.mem_ownersOf {path : String} {members : List Member} {m : Member} (hm : m ∈ members)
    (hpath : path ∈ m.owners) : path ∈ Member.ownersOf members := by
  induction members with
  | nil => contradiction
  | cons first rest ih =>
      rw [ownersOf, List.mem_append]
      obtain rfl | hm := List.mem_cons.mp hm
      · exact .inl hpath
      · exact .inr (ih hm)

section Structs

variable {b : Base} {s : Surroundings} {n : Naming}

/-- A struct that is built of closed values is closed. -/
theorem closed_construction {owner : String} (howner : s.SpellsPath owner) {construction : Construction}
    {argument : String → Except GenerationError (Option Build)} {value : Build}
    (h : construction.build owner argument = .ok value)
    (hargument : ∀ parameter found, argument parameter = .ok (some found) →
      Code.ClosedIn b s (found.code n)) :
    Code.ClosedIn b s (value.code n) := by
  obtain ⟨path, hpath, h⟩ := bind_eq_ok h
  split at h
  · obtain ⟨function, hfunction, h⟩ := bind_eq_ok h
    obtain ⟨arguments, harguments, h⟩ := bind_eq_ok h
    cases h
    rw [Build.code, Build.codes_eq_map]
    have hcallee : Code.ClosedIn b s (path ++ Code.word "::") :=
      spelledBefore (howner path hpath) (word rfl) rfl
    refine append (append hcallee (ident hfunction)) (parens (commas_map fun value hvalue => ?_))
    obtain ⟨parameter, -, hvalue⟩ := exists_of_forall₂ (forall₂_of_mapM harguments) hvalue
    obtain ⟨found, hfound, hvalue⟩ := bind_eq_ok hvalue
    cases found with
    | none => contradiction
    | some value =>
        cases hvalue
        exact hargument parameter value hfound
  · obtain ⟨fields, hfields, h⟩ := bind_eq_ok h
    cases h
    rw [Build.code, Build.fieldCodes_eq_map]
    refine spelledBefore (howner path hpath) (braces (commas_map fun field hfield => ?_)) trivial
    obtain ⟨parameter, -, hfield⟩ := exists_of_forall₂ (forall₂_of_mapM hfields) hfield
    obtain ⟨name, hname, hfield⟩ := bind_eq_ok hfield
    obtain ⟨found, hfound, hfield⟩ := bind_eq_ok hfield
    cases hfield
    refine append (append (ident hname) (word rfl)) ?_
    cases found with
    | none => exact words rfl
    | some value => exact hargument parameter value hfound

variable (hn : n.SpelledIn s)

include hn

/-- A column that is stored is read with what holds it. -/
theorem closed_stored {column : Column} {value : Build}
    (h : (Member.column column).argument = .ok (some value))
    (hheld : column.isStored = true → column.HeldIn s) : Code.ClosedIn b s (value.code n) := by
  rw [Member.argument] at h
  split at h
  · next mapping hmapping =>
    split at h
    · next hstored =>
      obtain ⟨htype, hadapter⟩ := hheld hstored
      cases hread : Read.of (.column column.name) column.type mapping with
      | error e =>
          rw [hread] at h
          contradiction
      | ok read =>
          rw [hread] at h
          cases h
          refine closed_read hn hread htype fun key hkey => hadapter key ?_
          rw [Column.adapter?, hmapping]
          exact hkey
    · cases h
  · cases h

/-- A value is closed behind a test of its columns. -/
theorem closed_unlessNull (columns : List String) {value : Build} (h : Code.ClosedIn b s (value.code n)) :
    Code.ClosedIn b s ((Build.unlessNull columns value).code n) := by
  have hnames : Code.ClosedIn b s (Code.brackets (Code.commas (columns.map Code.string))) :=
    brackets (commas_map fun name _ => string name)
  exact append (append (append (append (append (append (word rfl) (closed_runtimePath hn rfl))
    (parens (append (words rfl) hnames))) (word rfl)) (braces (word rfl))) (word rfl))
    (braces (append (word rfl) h.parens))

/-- However deep a member is embedded, its value is closed if its columns can be read. -/
theorem closed_member {m : Member} {value : Build} (h : m.argument = .ok (some value))
    (hcolumns : ∀ column ∈ m.columns, column.isStored = true → column.HeldIn s)
    (howners : ∀ path ∈ m.owners, s.SpellsPath path) : Code.ClosedIn b s (value.code n) := by
  match m with
  | .column column => exact closed_stored hn h (hcolumns column (List.mem_singleton_self column))
  | .embedded e members =>
      rw [Member.argument] at h
      obtain ⟨struct, hstruct, h⟩ := bind_eq_ok h
      have hclosed : Code.ClosedIn b s (struct.code n) := by
        refine closed_construction (howners _ List.mem_cons_self) hstruct fun parameter found hfound => ?_
        obtain ⟨m, hm, -, hargument⟩ := Member.exists_of_argumentNamed hfound
        refine closed_member hargument (fun column hcolumn => hcolumns column ?_) fun path hpath => ?_
        · rw [Member.columns, Member.columnsOf_eq_flatMap]
          exact List.mem_flatMap.mpr ⟨m, hm, hcolumn⟩
        · exact howners path (List.mem_cons_of_mem _ (Member.mem_ownersOf hm hpath))
      split at h
      · cases h
        exact closed_unlessNull hn _ hclosed
      · cases h
        exact hclosed
termination_by sizeOf m

theorem closed_entity {e : Entity} {value : Build} (h : e.build = .ok value)
    (hcolumns : ∀ column ∈ e.storedColumns, column.HeldIn s)
    (howners : ∀ path ∈ e.spelling.paths, s.SpellsPath path) : Code.ClosedIn b s (value.code n) := by
  refine closed_construction (howners _ List.mem_cons_self) h fun parameter found hfound => ?_
  obtain ⟨m, hm, -, hargument⟩ := Member.exists_of_argumentNamed hfound
  refine closed_member hn hargument (fun column hcolumn hstored => hcolumns column ?_) fun path hpath => ?_
  · refine List.mem_filter.mpr ⟨?_, hstored⟩
    rw [Entity.columns, Member.columnsOf_eq_flatMap]
    exact List.mem_flatMap.mpr ⟨m, hm, hcolumn⟩
  · exact howners path (List.mem_cons_of_mem _ (Member.mem_ownersOf hm hpath))

end Structs

/-! ## results and parameters -/

section Functions

variable {b : Base} {s : Surroundings} {n : Naming}

theorem closed_okOf {value : Code} (hvalue : Code.ClosedIn b s value) : Code.ClosedIn b s (okOf value) :=
  append (word rfl) hvalue.parens

theorem closed_resultType (hn : n.SpelledIn s) {inner : Code} (h : Code.ClosedOrSpelled b s inner) :
    Code.ClosedIn b s (n.resultType inner) := between (closed_runtimePath hn rfl) h (word rfl) rfl

theorem ReturnShape.mem_types_of_row {shape : ReturnShape} {row : RowType} (h : shape.rowType? = some row) :
    row.type ∈ shape.types := by
  cases shape with
  | unit | affectedRows => contradiction
  | single | optional | list =>
      cases h
      exact List.mem_singleton_self _

theorem Operation.mem_types_of_shape {o : Operation} {t : TypeExpr} (h : t ∈ o.returns.shape.types) :
    t ∈ o.types :=
  List.mem_append_left _ (List.mem_cons_of_mem _ h)

theorem closed_parameters {o : Operation} (htypes : ∀ t ∈ o.types, s.SpellsType t)
    {parameters : List (Ident × Code)} (h : o.parameterCodes = .ok parameters) :
    ∀ p ∈ parameters, Code.ClosedIn b s p.1.code ∧ s.spelled p.2 := by
  intro found hfound
  obtain ⟨p, hmem, hp⟩ := exists_of_forall₂ (forall₂_of_mapM h) hfound
  obtain ⟨name, hname, hp⟩ := bind_eq_ok hp
  obtain ⟨type, htype, hp⟩ := bind_eq_ok hp
  cases hp
  exact ⟨ident hname, htypes _ (List.mem_append_right _ (List.mem_map_of_mem hmem)) type htype⟩

theorem closed_parameterList {o : Operation} (htypes : ∀ t ∈ o.types, s.SpellsType t)
    {parameters : List (Ident × Code)} (h : o.parameterCodes = .ok parameters) :
    Code.ClosedIn b s (parameterList parameters) :=
  .parameters receiver (closed_parameters htypes h) _

/-- The type of an adapter's field. -/
theorem closed_adapterType (hn : n.SpelledIn s) {key : AdapterKey} (hkey : key.HeldIn s)
    {f : AdapterField} (h : AdapterField.of key = .ok f) :
    Code.ClosedIn b s (Code.typed f.name (n.adapterType f)) := by
  obtain ⟨name, hname, h⟩ := bind_eq_ok h
  obtain ⟨source, hsource, h⟩ := bind_eq_ok h
  obtain ⟨storage, hstorage, h⟩ := bind_eq_ok h
  cases h
  have hcomma : Code.ClosedIn b s (Code.word ",") := word rfl
  have hend : Code.ClosedIn b s (Code.word ">>") := word rfl
  have hdyn : Code.ClosedIn b s
      (Code.words ":: std :: sync :: Arc < dyn" ++ n.runtimePath "ColumnAdapter <") :=
    append (words rfl) (closed_runtimePath hn rfl)
  exact typed (ident hname) (between (between hdyn (.inr (hkey.source source hsource)) hcomma rfl)
    (.inr (hkey.storage storage hstorage)) hend rfl)

theorem closed_sharedDriver (hn : n.SpelledIn s) : Code.ClosedIn b s n.sharedDriverType :=
  shared (append (word rfl) (closed_runtimePath hn rfl))

end Functions

end DaoForge
