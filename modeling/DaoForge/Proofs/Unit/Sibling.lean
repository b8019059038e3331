import DaoForge.Proofs.Unit.Holder

/-!
# DaoForge.Proofs.Unit.Sibling

What the code of a unit refers to beside it.

1. `UnitContent.KeepsTo`: the code is put together from references to the units that the unit lists, and from
   what its declaration spells;
2. so is the code of each kind of unit: `TableUnit.keepsTo`, `MapperUnit.keepsTo`, `QueriesUnit.keepsTo`,
   `DaoUnit.keepsTo`, `SchemaUnit.keepsTo`, `DatabaseUnit.keepsTo`;
3. `UnitContent.KeepsTo.named`: then a name beside the unit is listed, unless it comes from what is spelled.
-/

namespace DaoForge

open Code.ClosedIn

/-- Beside the unit its code refers to the units that the unit lists. Otherwise it spells what the
declaration does. -/
def UnitContent.KeepsTo (n : Naming) (spelling : Spelling) (u : UnitContent) : Prop :=
  ∃ s : Surroundings, s.names .super = u.references ∧ s.spelled = spelling.Has n ∧
    Code.ClosedIn .super s (u.code n)

theorem UnitContent.KeepsTo.named {n : Naming} {spelling : Spelling} {u : UnitContent}
    (h : u.KeepsTo n spelling) {name : String} {x : Ident} (hx : Ident.of name = .ok x)
    (hoccurs : x.sibling.Occurs (u.code n)) :
    x ∈ u.references ∨ ∃ spelled, spelling.Has n spelled ∧ spelled.Occurs (u.code n) ∧
      (x.sibling.Occurs spelled ∨ [.word "super"] <:+ spelled) := by
  obtain ⟨s, hnames, hspelled, hclosed⟩ := h
  rw [← hnames, ← hspelled]
  obtain hname | ⟨spelled, hspelled, hstands, hinner⟩ := hclosed.named hx hoccurs
  · exact .inl hname
  · exact .inr ⟨spelled, hspelled, hstands, hinner.imp_right And.right⟩

/-! ## pieces -/

section Pieces

variable {s : Surroundings} {n : Naming}

/-- Words that are put together from two texts. -/
theorem closed_words {text : String} (h : (Code.wordsFrom [] text.toList).contains "super" = false) :
    Code.ClosedIn .super s (Code.words text) := by
  have hwords := wordsBeside (s := s) h
  rwa [String.ofList_toList] at hwords

theorem closed_constant (name value : String)
    (h : (Code.wordsFrom [] ("pub const " ++ name ++ " : & 'static str =").toList).contains "super" = false) :
    Code.ClosedIn .super s (TableUnit.constant name value) :=
  append (append (closed_words h) (string value)) (word rfl)

theorem closed_execute (statement : String)
    (h : (Code.wordsFrom [] (statement ++ " , & []").toList).contains "super" = false) :
    Code.ClosedIn .super s (TableUnit.execute statement) :=
  append (append (words rfl) (closed_words h).parens) (words rfl)

theorem closed_fixedComment (text : String) : Code.ClosedIn .super s (Code.fixedComment text) := by
  have hraw : Code.ClosedIn .super s (Code.word ("r\"" ++ text ++ "\"")) :=
    of_head ⟨'r', by simp, by decide⟩
  exact append (word rfl) (append (words rfl) hraw).brackets

/-- A constant of 64 bits ends in its type. -/
theorem closed_int64 (k : Int64) : Code.ClosedIn .super s (Code.int64 k) := by
  refine plain fun h => ?_
  have hlast := congrArg (fun text : String => text.toList.getLast?) h
  simp [Base.word] at hlast

theorem closed_cloneShared {name : Ident} (h : Code.ClosedIn .super s name.code) :
    Code.ClosedIn .super s (Code.cloneShared name) :=
  append (words rfl) (append (word rfl) h).parens

theorem closed_newUnit {unit : Ident} (h : unit ∈ s.names .super) {arguments : List Code}
    (harguments : ∀ argument ∈ arguments, Code.ClosedIn .super s argument) :
    Code.ClosedIn .super s (Code.newUnit unit arguments) :=
  append (append (sibling h) (words rfl)) (commas harguments).parens

theorem closed_letBe {target value : Code} (htarget : Code.ClosedIn .super s target)
    (hvalue : Code.ClosedIn .super s value) : Code.ClosedIn .super s (Code.letBe target value) :=
  append (append (append (append (word rfl) htarget) (word rfl)) hvalue) (word rfl)

variable (hn : n.SpelledIn s)

include hn

theorem closed_driverType : Code.ClosedIn .super s n.driverType :=
  append (words rfl) (closed_runtimePath hn rfl)

theorem closed_unitResult : Code.ClosedIn .super s (n.resultType (Code.parens [])) :=
  closed_resultType hn (.inl (parens nil))

theorem closed_driverFunction (name : String) {body : Code}
    (h : (Code.wordsFrom [] ("pub fn " ++ name).toList).contains "super" = false)
    (hbody : Code.ClosedIn .super s body) :
    Code.ClosedIn .super s (TableUnit.driverFunction n name body) := by
  have hparameters : Code.ClosedIn .super s (Code.words "driver :" ++ n.driverType) :=
    append (words rfl) (closed_driverType hn)
  have hdone : Code.ClosedIn .super s (body ++ Code.word "Ok" ++ Code.parens (Code.parens [])) :=
    append (append hbody (word rfl)) (parens (parens nil))
  exact append (append (append (append (closed_words h) hparameters.parens) (word rfl))
    (closed_unitResult hn)) hdone.braces

end Pieces

/-! ## units -/

section Units

variable {options : Options} {n : Naming} (hn : Naming.ofOptions options = .ok n)

include hn

/-- A unit keeps to a spelling if its code is closed wherever this is spelled and there are fields of these
names, and the units that it lists. -/
theorem UnitContent.keepsTo_of {u : UnitContent} {spelling : Spelling} (fields : List Ident)
    (hfields : ∀ i ∈ fields, ∃ name, Ident.of name = .ok i)
    (hreferences : ∀ i ∈ u.references, ∃ name, Ident.of name = .ok i)
    (h : ∀ s : Surroundings, s.names .self = fields → s.names .super = u.references →
      s.Spells n spelling → Code.ClosedIn .super s (u.code n)) : u.KeepsTo n spelling := by
  have hnamed : ∀ b, ∀ i ∈ Base.choose fields u.references b, ∃ name, Ident.of name = .ok i := by
    intro b
    cases b with
    | self => exact hfields
    | super => exact hreferences
  let s : Surroundings := ⟨Base.choose fields u.references, hnamed, spelling.Has n⟩
  exact ⟨s, rfl, rfl, h s rfl rfl (Surroundings.spells_of hn rfl)⟩

theorem TableUnit.keepsTo {e : Entity} {u : TableUnit} (h : TableUnit.of n e = .ok u) :
    (UnitContent.table u).KeepsTo n e.spelling := by
  obtain ⟨name, hname, h⟩ := bind_eq_ok h
  cases h
  refine UnitContent.keepsTo_of hn [] (by simp) (by simp [UnitContent.references]) ?_
  intro s _ _ hspells
  have hindices : Code.ClosedIn .super s
      (Code.brackets (Code.commas (e.createIndices.map Code.string))) :=
    brackets (commas_map fun text _ => string text)
  have hcreate : Code.ClosedIn .super s (execute "Self :: CREATE_STATEMENT" ++
      Code.words "for statement in Self :: INDEX_STATEMENTS" ++ Code.braces (execute "statement")) :=
    append (append (closed_execute _ rfl) (words rfl)) (closed_execute _ rfl).braces
  change Code.ClosedIn .super s (code n _)
  unfold code
  refine append (append (append (append (append (comment _) (words rfl)) (ident hname)) (words rfl))
    (ident hname)) (braces ?_)
  -- the statements, then the functions that run them
  refine append (append (append (append (append (append (append (append (append (append ?_ ?_) (words rfl))
    (words rfl).brackets) (words rfl)) hindices) (word rfl)) ?_) (closed_fixedComment _)) ?_) ?_
  · exact closed_constant _ _ rfl
  · exact closed_constant _ _ rfl
  · exact closed_constant _ _ rfl
  · exact closed_driverFunction hspells.runtime _ rfl hcreate
  · exact closed_driverFunction hspells.runtime _ rfl (closed_execute _ rfl)

omit hn in
/-- A mapper is closed if its fields and the value that it builds are. -/
theorem MapperUnit.closed_code {s : Surroundings} (hruntime : n.SpelledIn s) {u : MapperUnit}
    (hname : Code.ClosedIn .super s u.name.code) (hentity : s.spelled u.entity)
    (hfields : ∀ f ∈ u.adapters, Code.ClosedIn .super s (Code.typed f.name (n.adapterType f)))
    (hnames : ∀ f ∈ u.adapters, Code.ClosedIn .super s f.name.code)
    (hvalue : Code.ClosedIn .super s (u.value.code n)) : Code.ClosedIn .super s (u.code n) := by
  unfold code
  extract_lets fields
  have hstruct : ∀ field ∈ fields, Code.ClosedIn .super s field := List.forall_mem_map.mpr hfields
  have hconstructor : Code.ClosedIn .super s (Code.words "pub fn new" ++ Code.parens (Code.commas fields) ++
      Code.words "-> Self" ++ Code.braces (Code.word "Self" ++
        Code.braces (Code.commas (u.adapters.map fun f => f.name.code)))) :=
    append (append (append (words rfl) (commas hstruct).parens) (words rfl))
      (append (word rfl) (commas_map hnames).braces).braces
  have hcursor : Code.ClosedIn .super s
      (Code.words "& self , cursor : & dyn" ++ n.runtimePath "SqlCursor") :=
    append (wordsBeside rfl) (closed_runtimePath hruntime rfl)
  have hmap : Code.ClosedIn .super s (Code.words "fn map" ++
      Code.parens (Code.words "& self , cursor : & dyn" ++ n.runtimePath "SqlCursor") ++ Code.word "->" ++
      n.resultType u.entity ++ Code.braces (Code.word "Ok" ++ Code.parens (u.value.code n))) :=
    append (append (append (append (words rfl) hcursor.parens) (word rfl))
      (closed_resultType hruntime (.inr hentity))) (closed_okOf hvalue).braces
  have htarget : Code.ClosedIn .super s (n.runtimePath "EntityMapper <") := closed_runtimePath hruntime rfl
  have hend : Code.ClosedIn .super s (Code.words "> for") := words rfl
  refine append (append (between (append ?_ htarget) (.inr hentity) hend rfl) hname) hmap.braces
  exact append (append (append (append (append (append (append (comment _) (words rfl)) hname)
    (commasAfter hstruct).braces) (word rfl)) hname) hconstructor.braces) (word rfl)

theorem MapperUnit.keepsTo {e : Entity} {u : MapperUnit} (h : MapperUnit.of n e = .ok u) :
    (UnitContent.mapper u).KeepsTo n e.spelling := by
  obtain ⟨-, -, -, hnames⟩ := adapters_of h
  obtain ⟨name, hname, h⟩ := bind_eq_ok h
  obtain ⟨entity, hentity, h⟩ := bind_eq_ok h
  obtain ⟨fields, -, h⟩ := bind_eq_ok h
  obtain ⟨adapters, hadapters, h⟩ := bind_eq_ok h
  obtain ⟨value, hvalue, h⟩ := bind_eq_ok h
  cases h
  have hfields := AdapterKey.named_fields hnames
  refine UnitContent.keepsTo_of hn _ hfields (by simp [UnitContent.references]) fun s hself _ hspells => ?_
  have hheld : ∀ key ∈ e.adapters, key.HeldIn s := by
    intro key hkey
    obtain ⟨field, hmem, hfield⟩ := exists_of_forall₂ (forall₂_of_mapM hnames).flip hkey
    refine AdapterKey.heldIn_of hfield (hself ▸ hmem) fun t ht => hspells.types t ?_
    exact List.mem_append_right _ (List.mem_flatMap.mpr ⟨key, hkey, ht⟩)
  have hcolumns : ∀ column ∈ e.storedColumns, column.HeldIn s := by
    refine fun column hcolumn => ⟨hspells.types _ ?_, fun key hkey => hheld key ?_⟩
    · exact List.mem_append_left _ (List.mem_cons_of_mem _ (List.mem_map_of_mem hcolumn))
    · exact mem_distinct.mpr (List.mem_filterMap.mpr ⟨column, hcolumn, hkey⟩)
  have hspelled : s.spelled entity := hspells.types _ List.mem_cons_self entity hentity
  refine closed_code hspells.runtime (ident hname) hspelled (fun f hf => ?_) (fun f hf => ?_)
    (closed_entity hspells.runtime hvalue hcolumns hspells.paths)
  · obtain ⟨key, hkey, hfield⟩ := exists_of_forall₂ (forall₂_of_mapM hadapters) hf
    exact closed_adapterType hspells.runtime (hheld key hkey) hfield
  · obtain ⟨source, hsource⟩ := hfields f.name (List.mem_map_of_mem hf)
    exact ident hsource

theorem QueriesUnit.keepsTo {d : Dao} {u : QueriesUnit} (h : QueriesUnit.of n d = .ok u) :
    (UnitContent.queries u).KeepsTo n d.spelling :=
  ⟨surroundings h, rfl, rfl, closed_code h hn .super⟩

omit hn in
/-- A function of a DAO is closed if its parts are. -/
theorem DaoFunction.closed_code {s : Surroundings} (hruntime : n.SpelledIn s) {f : DaoFunction}
    (hfunction : Code.ClosedIn .super s f.function.code)
    (hlist : Code.ClosedIn .super s (parameterList f.parameters))
    (hnames : ∀ parameter ∈ f.parameters, Code.ClosedIn .super s parameter.1.code)
    (houtput : ∀ type ∈ f.output, s.spelled type) : Code.ClosedIn .super s (f.code n) := by
  unfold code
  extract_lets call body
  have hcall : Code.ClosedIn .super s call :=
    append (append (wordsBeside rfl) hfunction) (commas_map hnames).parens
  have hbody : Code.ClosedIn .super s body := by
    cases hwrapping : f.wrapping with
    | plain =>
      have hlabelled : Code.ClosedIn .super s (call ++ Code.word "," ++ Code.string f.label) :=
        append (append hcall (word rfl)) (string f.label)
      simpa only [body, hwrapping] using append (closed_runtimePath hruntime rfl) hlabelled.parens
    | result => simpa only [body, hwrapping] using hcall
    | resultWith => simpa only [body, hwrapping] using append hcall (words rfl)
  have hhead : Code.ClosedIn .super s (Code.word "fn" ++ f.function.code ++ parameterList f.parameters) :=
    append (append (word rfl) hfunction) hlist
  cases ho : f.output with
  | none => exact append (append hhead nil) hbody.braces
  | some type =>
    have harrow : Code.ClosedIn .super s (Code.word "->") := word rfl
    have hspelled : Code.ClosedOrSpelled .super s type := .inr (houtput type ho)
    have hall := between (append hhead harrow) hspelled hbody.braces trivial
    simpa only [Option.map_some, Option.getD_some, List.append_assoc] using hall

omit hn in
theorem Operation.closed_daoFunction {s : Surroundings} (hruntime : n.SpelledIn s) {d : Dao} {o : Operation}
    (htypes : ∀ t ∈ o.types, s.SpellsType t) {f : DaoFunction} (h : o.daoFunction d = .ok f) :
    Code.ClosedIn .super s (f.code n) := by
  obtain ⟨function, hfunction, h⟩ := bind_eq_ok h
  obtain ⟨parameters, hparameters, h⟩ := bind_eq_ok h
  have hnames : ∀ parameter ∈ parameters, Code.ClosedIn .super s parameter.1.code :=
    fun parameter hmem => (closed_parameters htypes hparameters parameter hmem).1
  have hlist : Code.ClosedIn .super s (parameterList parameters) := closed_parameterList htypes hparameters
  have hclosed {output : Option Code} (houtput : ∀ type ∈ output, s.spelled type)
      {wrapping : ReturnWrapping} {label : String} :
      Code.ClosedIn .super s (DaoFunction.code n ⟨function, parameters, output, wrapping, label⟩) :=
    DaoFunction.closed_code hruntime (ident hfunction) hlist hnames houtput
  split at h
  · cases h
    exact hclosed (by simp)
  · cases htype : Code.ofType o.returns.declared with
    | error e =>
      rw [htype] at h
      contradiction
    | ok code =>
      rw [htype] at h
      cases h
      refine hclosed fun type hmem => htypes _ List.mem_cons_self type ?_
      rw [htype, Option.mem_some.mp hmem]

theorem DaoUnit.keepsTo {d : Dao} {u : DaoUnit} (h : DaoUnit.of n d = .ok u) :
    (UnitContent.dao u).KeepsTo n d.spelling := by
  have hqueries := queries_of h
  obtain ⟨name, hname, h⟩ := bind_eq_ok h
  obtain ⟨queries, -, h⟩ := bind_eq_ok h
  obtain ⟨daoTrait, htrait, h⟩ := bind_eq_ok h
  obtain ⟨functions, hfunctions, h⟩ := bind_eq_ok h
  cases h
  have hreferences : ∀ i ∈ [queries], ∃ name, Ident.of name = .ok i :=
    List.forall_mem_singleton.mpr ⟨_, hqueries⟩
  refine UnitContent.keepsTo_of hn [] (by simp) hreferences fun s _ hbeside hspells => ?_
  have hruntime := hspells.runtime
  have hqueriesUnit : queries ∈ s.names .super := hbeside ▸ List.mem_singleton_self _
  have himplemented : Code.ClosedIn .super s (functions.flatMap (DaoFunction.code n)) := by
    refine flatMap fun f hf => ?_
    obtain ⟨o, ho, hfunction⟩ := exists_of_forall₂ (forall₂_of_mapM hfunctions) hf
    refine Operation.closed_daoFunction hruntime (fun t ht => hspells.types t ?_) hfunction
    exact List.mem_append_left _ (List.mem_append_left _ (List.mem_flatMap.mpr ⟨o, ho, ht⟩))
  change Code.ClosedIn .super s (code n _)
  unfold code
  extract_lets holder
  have hholder : Code.ClosedIn .super s holder := shared (sibling hqueriesUnit)
  have hfield : Code.ClosedIn .super s (Code.words "queries :" ++ holder ++ Code.word ",") :=
    append (append (words rfl) hholder) (word rfl)
  have hconstructor : Code.ClosedIn .super s (Code.words "pub fn new" ++
      Code.parens (Code.words "queries :" ++ holder) ++ Code.words "-> Self" ++
      Code.braces (Code.word "Self" ++ Code.braces (Code.word "queries"))) :=
    append (append (append (words rfl) (append (words rfl) hholder).parens) (words rfl))
      (append (word rfl) (word rfl).braces).braces
  have hspelled : Code.ClosedOrSpelled .super s daoTrait :=
    .inr (hspells.paths _ List.mem_cons_self daoTrait htrait)
  have hfor : Code.ClosedIn .super s (Code.word "for") := word rfl
  refine append (append (between ?_ hspelled hfor rfl) (ident hname)) himplemented.braces
  exact append (append (append (append (append (append (append (comment _) (words rfl)) (ident hname))
    hfield.braces) (word rfl)) (ident hname)) hconstructor.braces) (word rfl)

omit hn in
/-- A schema is closed that creates tables beside it. -/
theorem SchemaUnit.closed_code {s : Surroundings} (hruntime : n.SpelledIn s) {u : SchemaUnit}
    (hname : Code.ClosedIn .super s u.name.code) (htables : ∀ table ∈ u.tables, table ∈ s.names .super) :
    Code.ClosedIn .super s (u.code n) := by
  unfold code
  extract_lets creations
  have hcreations : Code.ClosedIn .super s creations :=
    flatMap fun table htable => append (sibling (htables table htable)) (words rfl)
  have hbody : Code.ClosedIn .super s (Code.words "& mut ||" ++ Code.braces (creations ++ okUnit)) :=
    append (words rfl) (append hcreations (closed_okOf (parens nil))).braces
  have hcreate : Code.ClosedIn .super s (Code.words "& self , driver :" ++ n.driverType) :=
    append (wordsBeside rfl) (closed_driverType hruntime)
  have hmigrate : Code.ClosedIn .super s (Code.words "& self , _driver :" ++ n.driverType ++
      Code.words ", old_version : i64 , new_version : i64 ,") :=
    append (append (wordsBeside rfl) (closed_driverType hruntime)) (words rfl)
  have hunsupported : Code.ClosedIn .super s (n.runtimePath "KabinError :: MigrationUnsupported" ++
      Code.braces (Code.words "from : old_version , to : new_version ,")) :=
    append (closed_runtimePath hruntime rfl) (words rfl).braces
  have hresult := closed_unitResult hruntime
  have hversion : Code.ClosedIn .super s
      (Code.words "pub const VERSION : i64 =" ++ Code.int64 u.version ++ Code.word ";") :=
    append (append (words rfl) (closed_int64 _)) (word rfl)
  refine append (append (append (append (append (append (append (append (append (append (append (comment _)
    (word rfl)) (words rfl).brackets) (words rfl)) hname) (words rfl)) hname) hversion.braces) (word rfl))
    (closed_runtimePath hruntime rfl)) hname) (braces ?_)
  -- the version, then the two functions that work on a driver
  refine append (append (append (append (append (append (append (append (append (append (append (words rfl)
    (words rfl).braces) (words rfl)) hcreate.parens) (word rfl)) hresult) ?_) (words rfl))
    hmigrate.parens) (word rfl)) hresult) ?_
  · exact (append (words rfl) hbody.parens).braces
  · exact (append (word rfl) hunsupported.parens).braces

theorem SchemaUnit.keepsTo {d : Database} {u : SchemaUnit} (h : SchemaUnit.of n d = .ok u) :
    (UnitContent.schema u).KeepsTo n d.spelling := by
  have hreferences : ∀ i ∈ u.tables, ∃ name, Ident.of name = .ok i := by
    intro i hi
    obtain ⟨e, -, he⟩ := tables_of h i hi
    exact ⟨_, he⟩
  obtain ⟨name, hname, h⟩ := bind_eq_ok h
  obtain ⟨tables, -, h⟩ := bind_eq_ok h
  cases h
  refine UnitContent.keepsTo_of hn [] (by simp) hreferences fun s _ hbeside hspells => ?_
  refine closed_code hspells.runtime (ident hname) fun table htable => ?_
  rw [hbeside]
  exact htable

omit hn in
/-- A database spells the types of its adapters, and of the converters that it creates. -/
theorem closed_adapterInstance {s : Surroundings} (hruntime : n.SpelledIn s) {d : Database} {key : AdapterKey}
    (hconverters : ∀ converter ∈ d.converters, s.SpellsType converter.converter)
    (hsource : s.SpellsType key.sourceType) {made : AdapterInstance}
    (h : d.adapterInstance key = .ok made) : Code.ClosedIn .super s (made.code n) := by
  unfold Database.adapterInstance at h
  split at h
  · next converter hconverter =>
    split at h
    · next type htype =>
      cases h
      have hspelled : Code.ClosedOrSpelled .super s type :=
        .inr (hconverters converter (List.mem_of_find?_eq_some hconverter) type htype)
      exact between (word rfl) hspelled (words rfl) rfl
    · contradiction
  · split at h
    · split at h
      · next type htype =>
        cases h
        exact between (closed_runtimePath hruntime rfl) (.inr (hsource type htype)) (words rfl) rfl
      · contradiction
    · cases h
      exact closed_runtimePath hruntime rfl
    · cases h
      exact closed_runtimePath hruntime rfl
    · contradiction

/-! ## databases -/

/-- The identifiers of a line that creates an instance have names. -/
structure Creation.Named (m : Creation) : Prop where
  field : ∃ name, Ident.of name = .ok m.field
  arguments : ∀ i ∈ m.arguments, ∃ name, Ident.of name = .ok i

omit hn in
theorem MapperWiring.named_of {w : MapperWiring} {m : Creation} (h : w.create n = .ok m) : m.Named := by
  obtain ⟨unit, -, h⟩ := bind_eq_ok h
  obtain ⟨field, hfield, h⟩ := bind_eq_ok h
  obtain ⟨adapters, hadapters, h⟩ := bind_eq_ok h
  cases h
  exact ⟨⟨_, hfield⟩, AdapterKey.named_fields hadapters⟩

omit hn in
theorem QueriesWiring.named_of {ofMappers : List MapperWiring} {w : QueriesWiring} {m : Creation}
    (h : w.create n ofMappers = .ok m) : m.Named := by
  obtain ⟨unit, -, h⟩ := bind_eq_ok h
  obtain ⟨field, hfield, h⟩ := bind_eq_ok h
  obtain ⟨adapters, hadapters, h⟩ := bind_eq_ok h
  obtain ⟨passed, hpassed, h⟩ := bind_eq_ok h
  cases h
  refine ⟨⟨_, hfield⟩, List.forall_mem_append.mpr ⟨AdapterKey.named_fields hadapters, fun i hi => ?_⟩⟩
  obtain ⟨e, -, he⟩ := exists_of_forall₂ (forall₂_of_mapM hpassed) hi
  exact ⟨_, ok_of_guarded he⟩

/-- The surroundings have what an implementation is made of. -/
structure DatabaseUnit.MadeIn (u : DatabaseUnit) (n : Naming) (s : Surroundings) : Prop where
  name : ∃ name, Ident.of name = .ok u.name
  schema : u.schema ∈ s.names .super
  databaseTrait : s.spelled u.databaseTrait
  adapters : ∀ a ∈ u.adapters, a.1.name ∈ s.names .self ∧
    Code.ClosedIn .super s (Code.typed a.1.name (n.adapterType a.1)) ∧ Code.ClosedIn .super s (a.2.code n)
  creations : ∀ m ∈ u.mappers ++ u.queries, m.unit ∈ s.names .super ∧ m.Named
  getters : ∀ g ∈ u.getters, (∃ name, Ident.of name = .ok g.function) ∧
    (∃ name, Ident.of name = .ok g.holder) ∧ g.implementation ∈ s.names .super ∧ s.spelled g.daoTrait

section Made

omit hn

variable {s : Surroundings} {u : DatabaseUnit} (hmade : u.MadeIn n s)

theorem Creation.closed_setup {m : Creation} (hunit : m.unit ∈ s.names .super) (hnamed : m.Named)
    {leading : List Code} (hleading : ∀ argument ∈ leading, Code.ClosedIn .super s argument) :
    Code.ClosedIn .super s (m.setup leading) := by
  obtain ⟨⟨_, hfield⟩, harguments⟩ := hnamed
  refine closed_letBe (ident hfield) (append (words rfl) (closed_newUnit hunit ?_).parens)
  refine List.forall_mem_append.mpr ⟨hleading, List.forall_mem_map.mpr fun i hi => ?_⟩
  obtain ⟨_, hi⟩ := harguments i hi
  exact closed_cloneShared (ident hi)

theorem Creation.closed_typedField {m : Creation} (hunit : m.unit ∈ s.names .super) (hnamed : m.Named) :
    Code.ClosedIn .super s m.typedField := by
  obtain ⟨_, hfield⟩ := hnamed.field
  exact typed (ident hfield) (shared (sibling hunit))

include hmade

/-- The lines that create what the implementation owns. -/
theorem DatabaseUnit.closed_setup : Code.ClosedIn .super s (u.setup n) := by
  have hcreations := List.forall_mem_append.mp hmade.creations
  have hdriver : ∀ argument ∈ [Code.cloneShared ⟨"driver", false⟩], Code.ClosedIn .super s argument :=
    List.forall_mem_singleton.mpr (closed_cloneShared (word rfl))
  refine append (append (append (flatMap fun a ha => ?_) (flatMap fun m hm => ?_)) (flatMap fun m hm => ?_))
    (flatMap fun g hg => ?_)
  · obtain ⟨-, htyped, hinstance⟩ := hmade.adapters a ha
    exact closed_letBe htyped (append (words rfl) hinstance.parens)
  · obtain ⟨hunit, hnamed⟩ := hcreations.1 m hm
    exact Creation.closed_setup hunit hnamed (by simp)
  · obtain ⟨hunit, hnamed⟩ := hcreations.2 m hm
    exact Creation.closed_setup hunit hnamed hdriver
  · obtain ⟨⟨_, hfunction⟩, ⟨_, hholder⟩, himplementation, -⟩ := hmade.getters g hg
    refine closed_letBe (ident hfunction) (closed_newUnit himplementation ?_)
    exact List.forall_mem_singleton.mpr (closed_cloneShared (ident hholder))

theorem DatabaseUnit.closed_fields : ∀ field ∈ u.fields n, Code.ClosedIn .super s field := by
  have hcreations := List.forall_mem_append.mp hmade.creations
  have hadapters : ∀ field ∈ u.adapters.map (fun a => Code.typed a.1.name (n.adapterType a.1)),
      Code.ClosedIn .super s field := List.forall_mem_map.mpr fun a ha => (hmade.adapters a ha).2.1
  have hmappers : ∀ field ∈ u.mappers.map Creation.typedField, Code.ClosedIn .super s field :=
    List.forall_mem_map.mpr fun m hm => Creation.closed_typedField (hcreations.1 m hm).1 (hcreations.1 m hm).2
  have hqueries : ∀ field ∈ u.queries.map Creation.typedField, Code.ClosedIn .super s field :=
    List.forall_mem_map.mpr fun m hm => Creation.closed_typedField (hcreations.2 m hm).1 (hcreations.2 m hm).2
  have hgetters : ∀ field ∈ u.getters.map (fun g => Code.typed g.function g.implementation.sibling),
      Code.ClosedIn .super s field := by
    refine List.forall_mem_map.mpr fun g hg => ?_
    obtain ⟨⟨_, hfunction⟩, -, himplementation, -⟩ := hmade.getters g hg
    exact typed (ident hfunction) (sibling himplementation)
  exact List.forall_mem_append.mpr ⟨List.forall_mem_append.mpr
    ⟨List.forall_mem_append.mpr ⟨hadapters, hmappers⟩, hqueries⟩, hgetters⟩

theorem DatabaseUnit.closed_fieldNames :
    ∀ name ∈ u.fieldNames.map Ident.code, Code.ClosedIn .super s name := by
  have hcreations := List.forall_mem_append.mp hmade.creations
  refine List.forall_mem_map.mpr ?_
  simp only [fieldNames, List.forall_mem_append, List.forall_mem_map]
  refine ⟨⟨⟨fun a ha => ?_, fun m hm => ?_⟩, fun m hm => ?_⟩, fun g hg => ?_⟩
  · obtain ⟨_, hname⟩ := s.named .self _ (hmade.adapters a ha).1
    exact ident hname
  · obtain ⟨_, hfield⟩ := (hcreations.1 m hm).2.field
    exact ident hfield
  · obtain ⟨_, hfield⟩ := (hcreations.2 m hm).2.field
    exact ident hfield
  · obtain ⟨⟨_, hfunction⟩, -⟩ := hmade.getters g hg
    exact ident hfunction

theorem DatabaseUnit.closed_getter {g : GetterUnit} (hg : g ∈ u.getters) :
    Code.ClosedIn .super s (Code.word "fn" ++ g.function.code ++ Code.words "(& self) -> & dyn" ++
      g.daoTrait ++ Code.braces (Code.words "& self ." ++ g.function.code)) := by
  obtain ⟨⟨_, hfunction⟩, -, -, htrait⟩ := hmade.getters g hg
  have hbody : Code.ClosedIn .super s (Code.words "& self ." ++ g.function.code) :=
    append (wordsBeside rfl) (ident hfunction)
  have hhead : Code.ClosedIn .super s
      (Code.word "fn" ++ g.function.code ++ Code.words "(& self) -> & dyn") :=
    append (append (word rfl) (ident hfunction)) (words rfl)
  exact between hhead (.inr htrait) hbody.braces trivial

variable (hruntime : n.SpelledIn s)

include hruntime

theorem DatabaseUnit.closed_constructor : Code.ClosedIn .super s (Code.words "pub fn new" ++
    Code.parens (Code.words "driver :" ++ n.sharedDriverType) ++ Code.words "-> Self" ++
    Code.braces (u.setup n ++ Code.word "Self" ++ Code.braces (Code.words "driver , schema :" ++
      u.schema.sibling ++ Code.word "," ++ Code.commasAfter (u.fieldNames.map Ident.code)))) := by
  have hparameters : Code.ClosedIn .super s (Code.words "driver :" ++ n.sharedDriverType) :=
    append (words rfl) (closed_sharedDriver hruntime)
  have hvalue : Code.ClosedIn .super s (Code.words "driver , schema :" ++ u.schema.sibling ++
      Code.word "," ++ Code.commasAfter (u.fieldNames.map Ident.code)) :=
    append (append (append (words rfl) (sibling hmade.schema)) (word rfl))
      (commasAfter (closed_fieldNames hmade))
  exact append (append (append (words rfl) hparameters.parens) (words rfl))
    (append (append (closed_setup hmade) (word rfl)) hvalue.braces).braces

theorem DatabaseUnit.closed_code : Code.ClosedIn .super s (u.code n) := by
  obtain ⟨_, hname⟩ := hmade.name
  unfold code
  extract_lets schema getters
  have hschema : Code.ClosedIn .super s schema := sibling hmade.schema
  have hdriver : Code.ClosedIn .super s n.sharedDriverType := closed_sharedDriver hruntime
  have hgetters : Code.ClosedIn .super s getters := flatMap fun g hg => closed_getter hmade hg
  have hstruct : Code.ClosedIn .super s (Code.words "driver :" ++ n.sharedDriverType ++
      Code.words ", schema :" ++ schema ++ Code.word "," ++ Code.commasAfter (u.fields n)) :=
    append (append (append (append (append (words rfl) hdriver) (words rfl)) hschema) (word rfl))
      (commasAfter (closed_fields hmade))
  have hdatabase : Code.ClosedIn .super s (Code.words "type Schema =" ++ schema ++ Code.word ";" ++
      Code.words "fn driver (& self) -> &" ++ n.sharedDriverType ++
      Code.braces (Code.words "& self . driver") ++ Code.words "fn schema (& self) -> & Self :: Schema" ++
      Code.braces (Code.words "& self . schema")) :=
    append (append (append (append (append (append (append (words rfl) hschema) (word rfl)) (words rfl))
      hdriver) (wordsBeside rfl).braces) (words rfl)) (wordsBeside rfl).braces
  have hfor : Code.ClosedIn .super s (Code.word "for") := word rfl
  refine append (append (between ?_ (.inr hmade.databaseTrait) hfor rfl) (ident hname)) hgetters.braces
  refine append (append (append (append (append ?_ (word rfl)) (closed_runtimePath hruntime rfl))
    (ident hname)) hdatabase.braces) (word rfl)
  exact append (append (append (append (append (append (append (append (comment _) (word rfl))
    (words rfl).brackets) (words rfl)) (ident hname)) hstruct.braces) (word rfl)) (ident hname))
    (closed_constructor hmade hruntime).braces

end Made

omit hn in
theorem DaoGetter.named_of {g : DaoGetter} {m : GetterUnit} (h : g.unit n = .ok m) :
    (∃ name, Ident.of name = .ok m.function) ∧ (∃ name, Ident.of name = .ok m.holder) ∧
      Code.ofPath g.dao.declaration = .ok m.daoTrait := by
  obtain ⟨function, hfunction, h⟩ := bind_eq_ok h
  obtain ⟨implementation, -, h⟩ := bind_eq_ok h
  obtain ⟨holder, hholder, h⟩ := bind_eq_ok h
  obtain ⟨daoTrait, htrait, h⟩ := bind_eq_ok h
  cases h
  exact ⟨⟨_, hfunction⟩, ⟨_, hholder⟩, htrait⟩

omit hn in
/-- What a unit is composed of is made in surroundings that have its fields and what it lists. -/
theorem DatabaseUnit.Parts.madeIn {d : Database} {ofMappers : List MapperWiring}
    {ofQueries : List QueriesWiring} {u : DatabaseUnit} (h : u.Parts n d ofMappers ofQueries)
    (hwired : wiredAdapters ofMappers ofQueries ⊆ d.adapters) {s : Surroundings}
    (hself : s.names .self = u.adapters.map fun a => a.1.name)
    (hbeside : s.names .super = (UnitContent.database u).references) (hspells : s.Spells n d.spelling) :
    u.MadeIn n s where
  name := ⟨_, h.name⟩
  schema := hbeside ▸ List.mem_cons_self
  databaseTrait := hspells.paths _ List.mem_cons_self _ h.databaseTrait
  adapters a ha := by
    obtain ⟨key, hkey, hfield, hinstance⟩ := exists_of_forall₂ h.adapters ha
    have htypes : ∀ t ∈ key.types, s.SpellsType t := fun t ht =>
      hspells.types t (List.mem_append_right _ (List.mem_flatMap.mpr ⟨key, hwired hkey, ht⟩))
    have hconverters : ∀ converter ∈ d.converters, s.SpellsType converter.converter := fun converter hmem =>
      hspells.types _ (List.mem_append_left _ (List.mem_map_of_mem hmem))
    have hmem : a.1.name ∈ s.names .self := hself ▸ List.mem_map_of_mem ha
    have hheld := AdapterKey.heldIn_of (AdapterField.key_of hfield).2 hmem htypes
    exact ⟨hmem, closed_adapterType hspells.runtime hheld hfield,
      closed_adapterInstance hspells.runtime hconverters hheld.source hinstance⟩
  creations m hm := by
    have hunit : m.unit ∈ s.names .super := by
      rw [hbeside, UnitContent.references, ← List.map_append]
      exact List.mem_cons_of_mem _ (List.mem_append_left _ (List.mem_map_of_mem hm))
    obtain hm | hm := List.mem_append.mp hm
    · obtain ⟨w, -, hcreate⟩ := exists_of_forall₂ h.mappers hm
      exact ⟨hunit, MapperWiring.named_of hcreate⟩
    · obtain ⟨w, -, hcreate⟩ := exists_of_forall₂ h.queries hm
      exact ⟨hunit, QueriesWiring.named_of hcreate⟩
  getters g hg := by
    obtain ⟨getter, hgetter, hunit⟩ := exists_of_forall₂ h.getters hg
    obtain ⟨hfunction, hholder, htrait⟩ := DaoGetter.named_of hunit
    refine ⟨hfunction, hholder, ?_, ?_⟩
    · exact hbeside ▸ List.mem_cons_of_mem _ (List.mem_append_right _ (List.mem_map_of_mem hg))
    · exact hspells.paths _ (List.mem_cons_of_mem _ (List.mem_map_of_mem hgetter)) _ htrait

theorem DatabaseUnit.keepsTo {d : Database} {ofMappers : List MapperWiring} {ofQueries : List QueriesWiring}
    {u : DatabaseUnit} (h : DatabaseUnit.of n d ofMappers ofQueries = .ok u)
    (hwired : wiredAdapters ofMappers ofQueries ⊆ d.adapters) :
    (UnitContent.database u).KeepsTo n d.spelling := by
  have hparts := parts_of h
  have hfields : ∀ i ∈ u.adapters.map (fun a => a.1.name), ∃ name, Ident.of name = .ok i := by
    refine List.forall_mem_map.mpr fun a ha => ?_
    obtain ⟨key, -, hfield, -⟩ := exists_of_forall₂ hparts.adapters ha
    exact ⟨_, (AdapterField.key_of hfield).2⟩
  have hreferences : ∀ i ∈ (UnitContent.database u).references, ∃ name, Ident.of name = .ok i := by
    intro i hi
    obtain hname | ⟨_, -, hname⟩ | ⟨_, -, hname⟩ | ⟨_, -, hname⟩ := references_of h i hi
    all_goals exact ⟨_, hname⟩
  refine UnitContent.keepsTo_of hn _ hfields hreferences fun s hself hbeside hspells => ?_
  exact closed_code (hparts.madeIn hwired hself hbeside hspells) hspells.runtime

end Units

end DaoForge
