import DaoForge.Proofs.Unit.Reference

/-!
# DaoForge.Proofs.Unit.Database

The constructor of a database's implementation, as it stands in the code.

1. `Code.shareLine`, `Code.sharing`: a line that keeps an instance, and an instance that is made from what
   other lines keep;
2. `Database.AdapterLine`, `MapperWiring.Line`, `QueriesWiring.Line`, `DaoGetter.Line`: the line for an
   adapter, for a mapper, for the queries of a DAO, and for a DAO;
3. `DatabaseUnit.constructed`: the body of the constructor has one line for each of them, in this order, and
   then a struct of what they keep. There is nothing else in it.
-/

namespace DaoForge

/-! ## lines -/

namespace Code

/-- A line that keeps a value behind a shared pointer. -/
def shareLine (target value : Code) : Code :=
  word "let" ++ target ++ words "= :: std :: sync :: Arc :: new" ++ parens value ++ word ";"

/-- An instance of a unit beside this one, which shares what is kept under the names. -/
def sharing (unit : Ident) (names : List Ident) : Code :=
  words "super ::" ++ unit.code ++ words ":: new" ++ parens (commas (names.map fun name =>
    words ":: std :: sync :: Arc :: clone" ++ parens (word "&" ++ name.code)))

theorem newUnit_cloneShared (unit : Ident) (names : List Ident) :
    newUnit unit (names.map cloneShared) = sharing unit names := by
  simp only [newUnit, sharing, Ident.sibling, List.append_assoc]
  rfl

theorem letBe_newShared (target value : Code) :
    letBe target (newShared value) = shareLine target value := by
  have hwords : words "= :: std :: sync :: Arc :: new" =
      word "=" ++ words ":: std :: sync :: Arc :: new" := rfl
  simp only [letBe, newShared, shareLine, hwords, List.append_assoc]

end Code

/-- The instance that a database makes of an adapter: the default of a converter that it lists for it, or
else the built-in adapter. -/
inductive Database.Instantiates (d : Database) (n : Naming) (key : AdapterKey) : Code → Prop
  | converter {converter : Converter} {type : Code} (hlisted : converter ∈ d.converters)
      (hkey : converter.reference = key) (htype : Code.ofType converter.converter = .ok type) :
      Instantiates d n key
        (Code.word "<" ++ type ++ Code.words "as :: core :: default :: Default > :: default ()")
  | integer {type : Code} (hnone : ∀ converter ∈ d.converters, converter.reference ≠ key)
      (hbuiltin : key.builtin? = some .integer) (htype : Code.ofType key.sourceType = .ok type) :
      Instantiates d n key
        (n.runtime ++ Code.words ":: IntegerAdapter :: <" ++ type ++ Code.words "> :: new ()")
  | boolean (hnone : ∀ converter ∈ d.converters, converter.reference ≠ key)
      (hbuiltin : key.builtin? = some .boolean) :
      Instantiates d n key (n.runtime ++ Code.words ":: BooleanAdapter")
  | float (hnone : ∀ converter ∈ d.converters, converter.reference ≠ key)
      (hbuiltin : key.builtin? = some .float) :
      Instantiates d n key (n.runtime ++ Code.words ":: FloatAdapter")

/-- The line that makes an instance of an adapter, and keeps it as an adapter between the two types. -/
def Database.AdapterLine (d : Database) (n : Naming) (key : AdapterKey) (line : Code) : Prop :=
  ∃ name source storage made, Ident.of key.fieldName = .ok name ∧
    Code.ofType key.sourceType = .ok source ∧ Code.ofType key.storageType = .ok storage ∧
    d.Instantiates n key made ∧
    line = Code.shareLine (name.code ++ Code.words ": :: std :: sync :: Arc < dyn" ++ n.runtime ++
      Code.words ":: ColumnAdapter <" ++ source ++ Code.word "," ++ storage ++ Code.word ">>") made

/-- The line that makes a mapper from adapters. -/
def MapperWiring.Line (n : Naming) (w : MapperWiring) (line : Code) : Prop :=
  ∃ name unit adapters, w.entity.mapperField = .ok name ∧ Ident.of (n.mapper w.entity) = .ok unit ∧
    w.adapters.mapM AdapterKey.field = .ok adapters ∧
    line = Code.shareLine name.code (Code.sharing unit adapters)

/-- The line that makes the queries of a DAO from the driver, adapters and mappers. -/
def QueriesWiring.Line (n : Naming) (w : QueriesWiring) (line : Code) : Prop :=
  ∃ name unit adapters mappers, w.dao.queriesField = .ok name ∧ Ident.of (n.queries w.dao) = .ok unit ∧
    w.adapters.mapM AdapterKey.field = .ok adapters ∧ w.mappers.mapM Entity.mapperField = .ok mappers ∧
    line = Code.shareLine name.code (Code.sharing unit (⟨"driver", false⟩ :: (adapters ++ mappers)))

/-- The line that makes a DAO from its queries. -/
def DaoGetter.Line (n : Naming) (g : DaoGetter) (line : Code) : Prop :=
  ∃ name unit queries, Ident.of g.function = .ok name ∧ Ident.of (n.dao g.dao) = .ok unit ∧
    g.dao.queriesField = .ok queries ∧
    line = Code.word "let" ++ name.code ++ Code.word "=" ++ Code.sharing unit [queries] ++ Code.word ";"

/-! ## what the lines of a unit are -/

section Lines

variable {n : Naming}

theorem AdapterInstance.instantiates {d : Database} {key : AdapterKey} {made : AdapterInstance}
    (h : d.adapterInstance key = .ok made) : d.Instantiates n key (made.code n) := by
  have hfind : d.converterFor? key = none → ∀ converter ∈ d.converters, converter.reference ≠ key := by
    intro hnone converter hlisted
    simpa using List.find?_eq_none.mp hnone converter hlisted
  unfold Database.adapterInstance at h
  split at h
  · next converter hconverter =>
    have hlisted := List.mem_of_find?_eq_some hconverter
    have hkey : converter.reference = key := by simpa using List.find?_some hconverter
    split at h
    · next type htype =>
      cases h
      exact .converter hlisted hkey htype
    · contradiction
  · next hnone =>
    split at h
    · next hbuiltin =>
      split at h
      · next type htype =>
        cases h
        exact .integer (hfind hnone) hbuiltin htype
      · contradiction
    · next hbuiltin =>
      cases h
      exact .boolean (hfind hnone) hbuiltin
    · next hbuiltin =>
      cases h
      exact .float (hfind hnone) hbuiltin
    · contradiction

theorem AdapterField.line_of {d : Database} {key : AdapterKey} {field : AdapterField}
    {made : AdapterInstance} (hfield : AdapterField.of key = .ok field)
    (hmade : d.adapterInstance key = .ok made) :
    d.AdapterLine n key (Code.letBe (Code.typed field.name (n.adapterType field))
      (Code.newShared (made.code n))) := by
  obtain ⟨name, hname, hfield⟩ := bind_eq_ok hfield
  obtain ⟨source, hsource, hfield⟩ := bind_eq_ok hfield
  obtain ⟨storage, hstorage, hfield⟩ := bind_eq_ok hfield
  cases hfield
  refine ⟨name, source, storage, _, hname, hsource, hstorage, AdapterInstance.instantiates hmade, ?_⟩
  have htype : Code.words ": :: std :: sync :: Arc < dyn" =
      Code.word ":" ++ Code.words ":: std :: sync :: Arc < dyn" := rfl
  rw [Code.letBe_newShared, Code.typed, Naming.adapterType, Naming.runtimePath, htype]
  simp only [List.append_assoc]
  rfl

theorem MapperWiring.line_of {w : MapperWiring} {m : Creation} (h : w.create n = .ok m) :
    w.Line n (m.setup []) := by
  obtain ⟨unit, hunit, h⟩ := bind_eq_ok h
  obtain ⟨name, hname, h⟩ := bind_eq_ok h
  obtain ⟨adapters, hadapters, h⟩ := bind_eq_ok h
  cases h
  refine ⟨name, unit, adapters, hname, hunit, hadapters, ?_⟩
  rw [Creation.setup, List.nil_append, Code.letBe_newShared, Code.newUnit_cloneShared]

theorem QueriesWiring.line_of {w : QueriesWiring} {mappers : List MapperWiring} {m : Creation}
    (h : w.create n mappers = .ok m) : w.Line n (m.setup [Code.cloneShared ⟨"driver", false⟩]) := by
  obtain ⟨unit, hunit, h⟩ := bind_eq_ok h
  obtain ⟨name, hname, h⟩ := bind_eq_ok h
  obtain ⟨adapters, hadapters, h⟩ := bind_eq_ok h
  obtain ⟨passed, hpassed, h⟩ := bind_eq_ok h
  cases h
  have hmappers : w.mappers.mapM Entity.mapperField = .ok passed := by
    rw [mapM_eq_ok_iff]
    exact (forall₂_of_mapM hpassed).imp fun _ _ => ok_of_guarded
  refine ⟨name, unit, adapters, passed, hname, hunit, hadapters, hmappers, ?_⟩
  rw [Creation.setup, Code.letBe_newShared, List.singleton_append, ← List.map_cons,
    Code.newUnit_cloneShared]

theorem DaoGetter.line_of {g : DaoGetter} {u : GetterUnit} (h : g.unit n = .ok u) :
    g.Line n (Code.letBe u.function.code (Code.newUnit u.implementation [Code.cloneShared u.holder])) := by
  obtain ⟨function, hfunction, h⟩ := bind_eq_ok h
  obtain ⟨implementation, himplementation, h⟩ := bind_eq_ok h
  obtain ⟨holder, hholder, h⟩ := bind_eq_ok h
  obtain ⟨daoTrait, -, h⟩ := bind_eq_ok h
  cases h
  refine ⟨function, implementation, holder, hfunction, himplementation, hholder, ?_⟩
  rw [Code.letBe, ← List.map_singleton, Code.newUnit_cloneShared]

end Lines

/-! ## the constructor -/

/-- The constructor of an implementation: the lines, and then a struct of the driver, the schema, and what
is kept under the names. -/
def DatabaseUnit.constructor (n : Naming) (schema : Ident) (lines : List Code) (names : List Ident) : Code :=
  Code.words "pub fn new" ++ Code.parens (Code.words "driver : :: std :: sync :: Arc < dyn" ++ n.runtime ++
      Code.words ":: SqlDriver >") ++ Code.words "-> Self" ++
    Code.braces (lines.flatten ++ Code.word "Self" ++ Code.braces (Code.words "driver , schema : super ::" ++
      schema.code ++ Code.word "," ++ Code.commasAfter (names.map Ident.code)))

theorem DatabaseUnit.occurs_line {n : Naming} {schema : Ident} {lines : List Code} {names : List Ident}
    {line piece : Code} (hline : line ∈ lines) (h : piece.Occurs line) :
    piece.Occurs (constructor n schema lines names) := by
  have hlines : piece.Occurs lines.flatten := by
    rw [← List.flatMap_id]
    exact .flatMap hline h
  exact (hlines.before _ |>.before _).braces.after _

section Constructor

variable {n : Naming} {d : Database} {mappers : List MapperWiring} {queries : List QueriesWiring}
  {u : DatabaseUnit}

/-- The lines of a unit, in their order. -/
def DatabaseUnit.lines (n : Naming) (u : DatabaseUnit) : List Code :=
  u.adapters.map (fun a =>
      Code.letBe (Code.typed a.1.name (n.adapterType a.1)) (Code.newShared (a.2.code n))) ++
    u.mappers.map (Creation.setup []) ++
    u.queries.map (Creation.setup [Code.cloneShared ⟨"driver", false⟩]) ++
    u.getters.map fun g =>
      Code.letBe g.function.code (Code.newUnit g.implementation [Code.cloneShared g.holder])

theorem DatabaseUnit.occurs_constructor (n : Naming) (u : DatabaseUnit) :
    (constructor n u.schema (u.lines n) u.fieldNames).Occurs (u.code n) := by
  have hsetup : u.setup n = (u.lines n).flatten := by
    simp only [setup, lines, List.flatten_append, List.flatMap_def]
  have hdriver : Code.words "driver :" ++ n.sharedDriverType =
      Code.words "driver : :: std :: sync :: Arc < dyn" ++ n.runtime ++ Code.words ":: SqlDriver >" := by
    simp only [Naming.sharedDriverType, Code.shared, Naming.runtimePath, List.append_assoc]
    rfl
  have hschema : Code.words "driver , schema :" ++ u.schema.sibling =
      Code.words "driver , schema : super ::" ++ u.schema.code := by
    simp only [Ident.sibling]
    rfl
  rw [constructor, ← hdriver, ← hsetup, ← hschema]
  unfold DatabaseUnit.code
  extract_lets schema getters
  exact Code.Occurs.here.braces.after _ |>.before _ |>.before _ |>.before _ |>.before _ |>.before _ |>.before _
    |>.before _ |>.before _ |>.before _

/-- **The constructor of an implementation** has one line for each adapter, mapper, queries holder and DAO
that the implementation owns, in this order, and there is nothing else in it. -/
theorem DatabaseUnit.constructed (h : DatabaseUnit.of n d mappers queries = .ok u) :
    ∃ ofAdapters ofMappers ofQueries ofDaos schema names,
      List.Forall₂ (d.AdapterLine n) (wiredAdapters mappers queries) ofAdapters ∧
      List.Forall₂ (MapperWiring.Line n) mappers ofMappers ∧
      List.Forall₂ (QueriesWiring.Line n) queries ofQueries ∧
      List.Forall₂ (DaoGetter.Line n) d.getters ofDaos ∧
      (constructor n schema (ofAdapters ++ ofMappers ++ ofQueries ++ ofDaos) names).Occurs (u.code n) := by
  have hparts := parts_of h
  refine ⟨_, _, _, _, _, _, ?_, ?_, ?_, ?_, occurs_constructor n u⟩
  · rw [List.forall₂_map_right_iff]
    exact hparts.adapters.imp fun _ _ ⟨hfield, hmade⟩ => AdapterField.line_of hfield hmade
  · rw [List.forall₂_map_right_iff]
    exact hparts.mappers.imp fun _ _ => MapperWiring.line_of
  · rw [List.forall₂_map_right_iff]
    exact hparts.queries.imp fun _ _ => QueriesWiring.line_of
  · rw [List.forall₂_map_right_iff]
    exact hparts.getters.imp fun _ _ => DaoGetter.line_of

end Constructor

end DaoForge
