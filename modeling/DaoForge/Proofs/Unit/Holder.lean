import DaoForge.Proofs.Unit.Spelling
import DaoForge.Proofs.Unit.Storage
import DaoForge.Proofs.Wiring

/-!
# DaoForge.Proofs.Unit.Holder

What the code of a queries unit refers to through `self`.

1. `RowType.HeldIn`, `Operation.HeldIn`, `Compound.HeldIn`: the surroundings have the adapters, mappers and
   loaders that something needs, and spell its types. Then its code is closed, whatever is bound, read or
   written (`closed_push`, `closed_rowExecution`, `closed_method`, `closed_loader`);
2. `Operation.heldIn_surroundings`: the fields of a queries unit, which are collected from all operations of
   the DAO, are enough for each of them, and so are its loaders;
3. `QueriesUnit.holder_closed`: the unit refers to its fields and loaders only, its constructor takes the
   fields in the order of its lists, and a database passes them in this order.
-/

namespace DaoForge

open Code.ClosedIn

/-- What `self` has. -/
structure Holder where
  fields : List Ident
  functions : List Ident

/-- The field of the entity's mapper is one of the surroundings. -/
def Entity.HeldIn (e : Entity) (s : Surroundings) : Prop :=
  ∀ name, e.mapperField = .ok name → name ∈ s.names .self

/-! ## methods -/

/-- What is read for a row of the type is held: adapters, mappers, and the function that loads its
relations. -/
structure RowType.HeldIn (row : RowType) (s : Surroundings) : Prop where
  type : s.SpellsType row.type
  adapters : ∀ key ∈ row.adapters, key.HeldIn s
  mappers : ∀ e ∈ row.mappedEntities, e.HeldIn s
  loader : ∀ compound, row = .compound compound → ∀ name, compound.loaderName = .ok name →
    name ∈ s.names .self

/-- What the loader of a compound spells, reads and maps. -/
structure Compound.HeldIn (compound : Compound) (s : Surroundings) : Prop where
  row : (RowType.compound compound).HeldIn s
  types : ∀ t ∈ compound.types, s.SpellsType t
  path : s.SpellsPath compound.declaration

/-- What an operation binds, writes and reads is held, and its types are spelled. -/
structure Operation.HeldIn (o : Operation) (s : Surroundings) : Prop where
  types : ∀ t ∈ o.types, s.SpellsType t
  bound : ∀ key ∈ o.adapters, key.HeldIn s
  written : ∀ e, o.kind.target? = some e → ∀ key ∈ e.adapters, key.HeldIn s
  row : ∀ row, o.rowType? = some row → row.HeldIn s

section Methods

variable {b : Base} {s : Surroundings} {n : Naming} (hn : n.SpelledIn s)
  (hdriver : ⟨"driver", false⟩ ∈ s.names .self)

include hn

theorem closed_statementText {o : Operation} {query : RawQuery} {text : StatementText}
    (h : o.statementText query = .ok text) : Code.ClosedIn b s (text.setup n) := by
  unfold Operation.statementText at h
  split at h
  · obtain ⟨pieces, hpieces, h⟩ := bind_eq_ok h
    cases h
    refine append (words rfl) (flatMap fun piece hpiece => ?_)
    obtain ⟨segment, -, hsegment⟩ := exists_of_forall₂ (forall₂_of_mapM hpieces) hpiece
    cases segment with
    | text text =>
        cases hsegment
        exact line (words rfl) (string text)
    | parameter name =>
        simp only at hsegment
        split at hsegment
        · obtain ⟨parameter, hparameter, hsegment⟩ := bind_eq_ok hsegment
          cases hsegment
          exact line (closed_runtimePath hn rfl)
            (append (append (words rfl) (ident hparameter)) (words rfl))
        · cases hsegment
          exact words rfl
  · cases h
    exact append (append (words rfl) (string _)) (word rfl)

theorem closed_each {parameter : Ident} (hparameter : Code.ClosedIn b s parameter.code) (isNullable : Bool)
    {adapter : Option Ident} (ha : ∀ a ∈ adapter, a ∈ s.names .self) :
    Code.ClosedIn b s ((Push.each parameter isNullable adapter).code n) := by
  have helements : Code.ClosedIn b s (parameter.code ++ Code.words ". iter () . map") :=
    append hparameter (words rfl)
  cases adapter with
  | none =>
      exact line (words rfl) (append helements (closed_runtimePath hn rfl).parens)
  | some adapter =>
      have ha := ha adapter rfl
      cases isNullable with
      | false =>
          have hvalue : Code.ClosedIn b s (Code.word "value") := word rfl
          have hstored := closed_fromStored hn (closed_encodeValue ha hvalue)
          exact line (words rfl) (append helements (append (words rfl) hstored).parens)
      | true =>
          have hvalue : Code.ClosedIn b s (Code.words "value . as_ref ()") := words rfl
          have hstored := closed_fromStored hn (append hvalue (closed_mapEncode ha))
          exact line (words rfl) (append helements (append (words rfl) hstored.braces).parens)

theorem closed_push {p : BoundParameter} {push : Push} (h : p.push? = .ok (some push))
    (hadapters : ∀ key, p.binding.mapping?.bind Mapping.adapter? = some key → key.HeldIn s) :
    Code.ClosedIn b s (push.code n) := by
  unfold BoundParameter.push? at h
  obtain ⟨name, hname, h⟩ := bind_eq_ok h
  split at h
  · next mapping hbinding =>
    rw [hbinding] at hadapters
    obtain ⟨adapter, hfield, h⟩ := bind_eq_ok h
    cases h
    have hvalue := closed_bindPlace (b := b) hn (ident hname) p.type.nullable (closed_field? hadapters hfield)
    exact line (words rfl) hvalue
  · next mapping hbinding =>
    rw [hbinding] at hadapters
    obtain ⟨adapter, hfield, h⟩ := bind_eq_ok h
    cases h
    exact closed_each hn (ident hname) _ (closed_field? hadapters hfield)
  · cases h
  · cases h

theorem closed_pushes {o : Operation} {query : RawQuery} {pushes : List Push}
    (h : o.pushes query = .ok pushes) (hadapters : ∀ key ∈ o.adapters, key.HeldIn s) :
    ∀ push ∈ pushes, Code.ClosedIn b s (push.code n) := by
  obtain ⟨found, hfound, h⟩ := bind_eq_ok h
  cases h
  intro push hpush
  obtain ⟨_, hmem, rfl⟩ := List.mem_filterMap.mp hpush
  obtain ⟨name, -, hname⟩ := exists_of_forall₂ (forall₂_of_mapM hfound) hmem
  split at hname
  · next p hp =>
    refine closed_push hn hname fun key hkey => hadapters key (List.mem_append_left _ ?_)
    exact List.mem_filterMap.mpr ⟨p, List.mem_of_find?_eq_some hp, hkey⟩
  · cases hname

omit hn in
theorem closed_reference {name : Ident} (h : name ∈ s.names .self) :
    Code.ClosedIn b s (Code.words "& * self ." ++ name.code) := by
  have hbefore : Code.ClosedIn b s (Code.words "& *") := words rfl
  exact fieldBehind h hbefore rfl

include hdriver

theorem closed_queryRows (multiplicity : Multiplicity) {sql params map : Code}
    (hsql : Code.ClosedIn b s sql) (hparams : Code.ClosedIn b s params) (hmap : Code.ClosedIn b s map) :
    Code.ClosedIn b s (queryRows n multiplicity sql params map) := by
  have hhelper : Code.ClosedIn b s (n.runtimePath multiplicity.helper) := by
    cases multiplicity with
    | single | optional | list => exact closed_runtimePath hn rfl
  have hreferred := closed_reference (b := b) hdriver
  have hcomma : Code.ClosedIn b s (Code.word ",") := word rfl
  have hshared : Code.ClosedIn b s (Code.words "& * self . driver ,") := append hreferred hcomma
  exact append hhelper
    (append (append (append (append (append hshared hsql) (words rfl)) hparams) (words rfl)) hmap).parens

omit hn in
theorem closed_executeStatement {sql : Code} (hsql : Code.ClosedIn b s sql) :
    Code.ClosedIn b s (executeStatement sql) := by
  have hcall : Code.ClosedIn b s (Code.words ". execute") := words rfl
  have hdriven : Code.ClosedIn b s (Code.words "self . driver . execute") := append (field hdriver) hcall
  exact append (append hdriven (append hsql (words rfl)).parens) (words rfl)

omit hdriver in
theorem closed_mapRow {mapper : Ident} (hmapper : mapper ∈ s.names .self) :
    Code.ClosedIn b s (mapRow n mapper) := by
  have hshared := closed_reference (b := b) hmapper
  exact append (closed_runtimePath hn rfl) (append hshared (words rfl)).parens

omit hdriver in
theorem closed_readFirst {type : TypeExpr} {mapping : Mapping} {reader : RowReader}
    (h : readFirst type mapping = .ok reader) (htype : s.SpellsType type)
    (hadapters : ∀ key, mapping.adapter? = some key → key.HeldIn s) :
    Code.ClosedIn b s (reader.code n) := by
  cases hread : Read.of .first type mapping with
  | error e =>
      rw [readFirst, hread] at h
      contradiction
  | ok read =>
      rw [readFirst, hread] at h
      cases h
      exact closed_okOf (closed_read hn hread htype hadapters)

/-- The rows of a compound are mapped, and passed on to its loader with the keys of the parents. -/
theorem closed_compounds (multiplicity : Multiplicity) {mapper loader : Ident}
    (hmapper : mapper ∈ s.names .self) (hloader : loader ∈ s.names .self) (keys : List String) {sql : Code}
    (hsql : Code.ClosedIn b s sql) :
    Code.ClosedIn b s ((Execution.compounds multiplicity mapper loader keys).code n sql) := by
  have hkeys : Code.ClosedIn b s (Code.brackets (Code.commas (keys.map fun column =>
      n.runtimePath "read_value" ++ Code.parens (Code.words "cursor ," ++ Code.string column) ++
        Code.word "?"))) := by
    refine brackets (commas_map fun column _ => ?_)
    exact append (append (closed_runtimePath hn rfl) (parens (append (words rfl) (string column))))
      (word rfl)
  have hmapped : Code.ClosedIn b s (mapRow n mapper ++ Code.words "? ,") :=
    append (closed_mapRow hn hmapper) (words rfl)
  have hcomma : Code.ClosedIn b s (Code.word ",") := word rfl
  have hparams : Code.ClosedIn b s (Code.word "params") := word rfl
  have hrows := closed_queryRows hn hdriver multiplicity hsql hparams
    (closed_okOf (append (append hmapped hkeys) hcomma).parens)
  have hpassed : Code.ClosedIn b s (Code.words "main , keys") := words rfl
  have hload : Code.ClosedIn b s
      (Code.words "self ." ++ loader.code ++ Code.parens (Code.words "main , keys")) :=
    append (field hloader) hpassed.parens
  have hloadEach : Code.ClosedIn b s (Code.parens (Code.word "|" ++
      Code.parens (Code.words "main , keys") ++ Code.word "|" ++
      (Code.words "self ." ++ loader.code ++ Code.parens (Code.words "main , keys")))) :=
    parens (append (append (append (word rfl) hpassed.parens) (word rfl)) hload)
  have hend : Code.ClosedIn b s (Code.words "? ;") := words rfl
  have hset {before : Code} (hbefore : Code.ClosedIn b s before) := append hbefore (append hrows hend)
  cases multiplicity with
  | list => exact append (append (append (hset (words rfl)) (words rfl)) hloadEach) (words rfl)
  | optional => exact append (append (append (hset (words rfl)) (words rfl)) hloadEach) (words rfl)
  | single => exact append (hset (append (append (word rfl) hpassed.parens) (word rfl))) hload

/-- However many rows there are, they are read with what is held. -/
theorem closed_rowExecution {row : RowType} (hrow : row.HeldIn s) {multiplicity : Multiplicity}
    {execution : Execution} (h : row.execution multiplicity = .ok execution) {sql : Code}
    (hsql : Code.ClosedIn b s sql) : Code.ClosedIn b s (execution.code n sql) := by
  cases row with
  | entity e =>
      obtain ⟨mapper, hmapper, h⟩ := bind_eq_ok h
      cases h
      have hreader := closed_mapRow (b := b) hn (hrow.mappers e (List.mem_singleton_self e) mapper hmapper)
      exact closed_queryRows hn hdriver multiplicity hsql (word rfl) hreader
  | scalar type mapping =>
      obtain ⟨reader, hreader, h⟩ := bind_eq_ok h
      cases h
      have hvalue := closed_readFirst (b := b) hn hreader hrow.type fun key hkey =>
        hrow.adapters key (Option.mem_toList.mpr hkey)
      exact closed_queryRows hn hdriver multiplicity hsql (word rfl) hvalue
  | compound compound =>
      obtain ⟨mapper, hmapper, h⟩ := bind_eq_ok h
      obtain ⟨loader, hloader, h⟩ := bind_eq_ok h
      cases h
      exact closed_compounds hn hdriver multiplicity
        (hrow.mappers compound.main List.mem_cons_self mapper hmapper)
        (hrow.loader compound rfl loader hloader) _ hsql

theorem closed_shapeExecution {shape : ReturnShape}
    (hrow : ∀ row, shape.rowType? = some row → row.HeldIn s) {execution : Execution}
    (h : shape.execution = .ok execution) {sql : Code} (hsql : Code.ClosedIn b s sql) :
    Code.ClosedIn b s (execution.code n sql) := by
  have hexecute := closed_executeStatement hdriver hsql
  cases shape with
  | unit =>
      cases h
      exact append hexecute (closed_okOf (parens nil))
  | affectedRows type =>
      cases h
      exact append (append (words rfl) hexecute) (closed_runtimePath hn rfl)
  | single row => exact closed_rowExecution hn hdriver (hrow row rfl) h hsql
  | optional row => exact closed_rowExecution hn hdriver (hrow row rfl) h hsql
  | list row => exact closed_rowExecution hn hdriver (hrow row rfl) h hsql

theorem closed_query {o : Operation} (ho : o.HeldIn s) {query : RawQuery} {statement : StatementText}
    (hstatement : o.statementText query = .ok statement) {pushes : List Push}
    (hpushes : o.pushes query = .ok pushes) {execution : Execution}
    (hexecution : o.returns.shape.execution = .ok execution) :
    Code.ClosedIn b s ((MethodBody.query statement pushes execution).code n) := by
  have hargument : Code.ClosedIn b s statement.argument := by
    cases statement with
    | fixed sql => exact word rfl
    | assembled pieces => exact words rfl
  have hdeclared : Code.ClosedIn b s
      (Code.words (if pushes.isEmpty then "let params : Vec <" else "let mut params : Vec <")) := by
    cases pushes.isEmpty with
    | true | false => exact words rfl
  have hgather : Code.ClosedIn b s (Push.gather n pushes) :=
    append (append hdeclared (closed_runtimePath hn rfl)) (flatMap (closed_pushes hn hpushes ho.bound))
  exact append (append (closed_statementText hn hstatement) hgather)
    (closed_shapeExecution hn hdriver ho.row hexecution hargument)

/-- However many entities are written, their values are bound with what is held. -/
theorem closed_write {parameter : Ident} (hparameter : Code.ClosedIn b s parameter.code)
    {values : List ColumnArgument} (hvalues : ∀ a ∈ values, Code.ClosedIn b s (a.code n))
    (statement : String) (isList isCounting : Bool) :
    Code.ClosedIn b s ((MethodBody.write parameter statement values isList isCounting).code n) := by
  have hdone : Code.ClosedIn b s okUnit := closed_okOf (parens nil)
  have hcall : Code.ClosedIn b s (Code.words ". transaction") := words rfl
  have hdriven : Code.ClosedIn b s (Code.words "self . driver . transaction") := append (field hdriver) hcall
  have hsql : Code.ClosedIn b s (Code.word "sql") := word rfl
  have hparams : Code.ClosedIn b s (Code.words "let params = vec !" ++
      Code.brackets (Code.commas (values.map (ColumnArgument.code n))) ++ Code.word ";") :=
    append (append (words rfl) (commas_map hvalues).brackets) (word rfl)
  have hresult : Code.ClosedIn b s (if isCounting then changedRows n else okUnit) := by
    cases isCounting with
    | true => exact closed_runtimePath hn rfl
    | false => exact hdone
  cases isList with
  | true =>
    have hexecute : Code.ClosedIn b s ((if isCounting then Code.words "count +=" else []) ++
        executeStatement (Code.word "sql")) :=
      append (only (words rfl)) (closed_executeStatement hdriver hsql)
    have hentities : Code.ClosedIn b s
        (Code.words "for entity in" ++ parameter.code ++ Code.words ". iter ()") :=
      append (append (words rfl) hparameter) (words rfl)
    have heach := braces (append (append hentities (append hparams hexecute).braces) hdone)
    have hstatement : Code.ClosedIn b s
        (Code.words "let sql =" ++ Code.string statement ++ Code.word ";") :=
      append (append (words rfl) (string _)) (word rfl)
    exact append (append (append (append (append hstatement (only (words rfl))) hdriven)
      (parens (append (words rfl) heach))) (words rfl)) hresult
  | false =>
    have hentity : Code.ClosedIn b s (Code.words "let entity = &" ++ parameter.code ++ Code.word ";") :=
      append (append (words rfl) hparameter) (word rfl)
    exact append (append (append (append hentity hparams) (only (words rfl)))
      (closed_executeStatement hdriver (string _))) hresult

theorem closed_writeBody {o : Operation} {operation : EntityOperation} {statement : Sql.WriteStatement}
    {columns : List Column} (hcolumns : columns ⊆ operation.entity.storedColumns)
    (hadapters : ∀ key ∈ operation.entity.adapters, key.HeldIn s) {body : MethodBody}
    (h : o.writeBody operation statement columns = .ok body) : Code.ClosedIn b s (body.code n) := by
  obtain ⟨parameter, hparameter, h⟩ := bind_eq_ok h
  obtain ⟨values, hvalues, h⟩ := bind_eq_ok h
  cases h
  refine closed_write hn hdriver (ident hparameter) (fun a ha => ?_) _ _ _
  obtain ⟨column, hcolumn, ha⟩ := exists_of_forall₂ (forall₂_of_mapM hvalues) ha
  refine closed_columnArgument hn ha fun key hkey => hadapters key ?_
  exact mem_distinct.mpr (List.mem_filterMap.mpr ⟨column, hcolumns hcolumn, hkey⟩)

theorem closed_body {o : Operation} (ho : o.HeldIn s) {body : MethodBody} (h : o.body = .ok body) :
    Code.ClosedIn b s (body.code n) := by
  have hwritten := ho.written
  unfold Operation.body at h
  split at h
  · obtain ⟨statement, hstatement, h⟩ := bind_eq_ok h
    obtain ⟨pushes, hpushes, h⟩ := bind_eq_ok h
    obtain ⟨execution, hexecution, h⟩ := bind_eq_ok h
    cases h
    exact closed_query hn hdriver ho hstatement hpushes hexecution
  · next operation hkind =>
    rw [hkind] at hwritten
    exact closed_writeBody hn hdriver (List.Subset.refl _) (hwritten _ rfl) h
  · next operation hkind =>
    rw [hkind] at hwritten
    refine closed_writeBody hn hdriver (List.append_subset.mpr ⟨?_, ?_⟩) (hwritten _ rfl) h
    · exact fun column => List.mem_of_mem_filter
    · exact fun column => Entity.mem_storedColumns_of_mem_keyColumns
  · next operation hkind =>
    rw [hkind] at hwritten
    exact closed_writeBody hn hdriver (fun column => Entity.mem_storedColumns_of_mem_keyColumns)
      (hwritten _ rfl) h

omit hn hdriver in
theorem closed_output {shape : ReturnShape} (htypes : ∀ t ∈ shape.types, s.SpellsType t) {output : Code}
    (h : shape.output = .ok output) : Code.ClosedOrSpelled b s output := by
  have hwrapped {before : String} (hbefore : Code.ClosedIn b s (Code.words before)) {row : RowType}
      (hrow : s.SpellsType row.type) {output : Code}
      (h : (do return Code.words before ++ (← Code.ofType row.type) ++ Code.word ">") =
        Except.ok output) : Code.ClosedOrSpelled b s output := by
    obtain ⟨code, hcode, h⟩ := bind_eq_ok h
    cases h
    exact .inl (between hbefore (.inr (hrow code hcode)) (word rfl) rfl)
  cases shape with
  | unit =>
      cases h
      exact .inl (parens nil)
  | affectedRows type => exact .inr (htypes _ List.mem_cons_self _ h)
  | single row => exact .inr (htypes _ List.mem_cons_self _ h)
  | optional row => exact hwrapped (words rfl) (htypes _ List.mem_cons_self) h
  | list row => exact hwrapped (words rfl) (htypes _ List.mem_cons_self) h

/-- A method keeps to what its operation is held with. -/
theorem closed_method {o : Operation} (ho : o.HeldIn s) {m : Method} (h : o.method = .ok m) :
    Code.ClosedIn b s (m.code n) := by
  obtain ⟨function, hfunction, h⟩ := bind_eq_ok h
  obtain ⟨parameters, hparameters, h⟩ := bind_eq_ok h
  obtain ⟨output, houtput, h⟩ := bind_eq_ok h
  obtain ⟨body, hbody, h⟩ := bind_eq_ok h
  cases h
  have hlist : Code.ClosedIn b s (parameterList parameters) := closed_parameterList ho.types hparameters
  have hresult : Code.ClosedIn b s (n.resultType output) :=
    closed_resultType hn (closed_output (fun t ht => ho.types t (Operation.mem_types_of_shape ht)) houtput)
  exact append (append (append (append (append (words rfl) (ident hfunction)) hlist) (word rfl)) hresult)
    (closed_body hn hdriver ho hbody).braces

/-! ## loaders -/

omit hn hdriver in
theorem closed_keyName (index : Nat) : Code.ClosedIn b s (Code.word (keyName index)) :=
  of_head ⟨'k', by simp [keyName], by decide⟩

omit hn hdriver in
/-- A compound is built of what its loader has loaded. -/
theorem closed_compoundArgument {compound : Compound} {parameter : String} {value : Build}
    (h : compound.argument parameter = .ok (some value)) : Code.ClosedIn b s (value.code n) := by
  unfold Compound.argument at h
  split at h
  · cases h
    exact word rfl
  · split at h
    · obtain ⟨name, hname, h⟩ := bind_eq_ok h
      cases h
      exact ident hname
    · cases h

theorem closed_relationLoad {compound : Compound} (hc : compound.HeldIn s) {r : Relation}
    (hr : r ∈ compound.relations) {load : RelationLoad} (h : r.load = .ok load) (index : Nat) :
    Code.ClosedIn b s (load.code n index) := by
  unfold Relation.load at h
  obtain ⟨property, hproperty, h⟩ := bind_eq_ok h
  have hloaded {reader : RowReader} (hreader : Code.ClosedIn b s (reader.code n)) :
      Code.ClosedIn b s (RelationLoad.code n index ⟨property, r.select, r.cardinality, reader⟩) := by
    have hrows (multiplicity : Multiplicity) := closed_queryRows hn hdriver multiplicity
      (string r.select) (closed_keyName index).brackets hreader
    exact append (append (append (append (word rfl) (ident hproperty)) (word rfl)) (hrows _)) (words rfl)
  split at h
  · next helement =>
    obtain ⟨mapper, hmapper, h⟩ := bind_eq_ok h
    cases h
    refine hloaded (closed_mapRow hn (hc.row.mappers r.entity ?_ mapper hmapper))
    exact List.mem_cons_of_mem _ (List.mem_filterMap.mpr ⟨r, hr, by rw [helement]⟩)
  · next name type mapping helement =>
    obtain ⟨reader, hreader, h⟩ := bind_eq_ok h
    cases h
    have htype : s.SpellsType type := hc.types type (List.mem_cons_of_mem _
      (List.mem_flatMap.mpr ⟨r, hr, by simp [Relation.types, helement]⟩))
    refine hloaded (closed_readFirst hn hreader htype fun key hkey => hc.row.adapters key ?_)
    exact Compound.mem_adapters hr helement hkey

/-- A loader keeps to what its compound is held with. -/
theorem closed_loader {compound : Compound} (hc : compound.HeldIn s) {l : Loader}
    (h : compound.loader = .ok l) : Code.ClosedIn b s (l.code n) := by
  obtain ⟨name, hname, h⟩ := bind_eq_ok h
  obtain ⟨main, hmain, h⟩ := bind_eq_ok h
  obtain ⟨path, hpath, h⟩ := bind_eq_ok h
  obtain ⟨loads, hloads, h⟩ := bind_eq_ok h
  obtain ⟨value, hvalue, h⟩ := bind_eq_ok h
  cases h
  have hkeys : Code.ClosedIn b s (Code.commas
      ((List.range loads.length).map fun index => Code.word (keyName index))) :=
    commas_map fun index _ => closed_keyName index
  have hloaded : Code.ClosedIn b s (loads.mapIdx (RelationLoad.code n)).flatten := by
    rw [← List.flatMap_id]
    refine flatMap fun code hcode => ?_
    obtain ⟨index, hindex, rfl⟩ := List.mem_mapIdx.mp hcode
    obtain ⟨r, hr, hload⟩ := exists_of_forall₂ (forall₂_of_mapM hloads) (List.getElem_mem hindex)
    exact closed_relationLoad hn hdriver hc hr hload index
  have hbuilt : Code.ClosedIn b s (value.code n) :=
    closed_construction hc.path hvalue fun _ _ => closed_compoundArgument
  have hparameters : Code.ClosedIn b s (Code.words "& self , main :" ++ main ++ Code.words ", keys :") := by
    have hlabel : Code.ClosedIn b s (Code.words "main :") := words rfl
    have hkeys : Code.ClosedIn b s (Code.words ", keys :") := words rfl
    exact between (append receiver hlabel) (.inr (hc.types _ List.mem_cons_self main hmain)) hkeys rfl
  have hcount : Code.ClosedIn b s (Code.brackets (n.runtimePath "SqlValue ;" ++ Code.nat loads.length)) :=
    brackets (append (closed_runtimePath hn rfl) (nat _))
  have hresult : Code.ClosedIn b s (n.resultType path) := closed_resultType hn (.inr (hc.path path hpath))
  have hbody : Code.ClosedIn b s (Code.word "let" ++ Code.brackets (Code.commas
      ((List.range loads.length).map fun index => Code.word (keyName index))) ++
      Code.words "= keys ;" ++ (loads.mapIdx (RelationLoad.code n)).flatten ++ okOf (value.code n)) :=
    append (append (append (append (word rfl) hkeys.brackets) (words rfl)) hloaded)
      (closed_okOf hbuilt)
  exact append (append (append (append (append (word rfl) (ident hname))
    (parens (append hparameters hcount))) (word rfl)) hresult) hbody.braces

end Methods

/-! ## the unit -/

/-- What `self` has in a queries unit: the driver, the adapters, the mappers, and the loaders. -/
def QueriesUnit.holder (u : QueriesUnit) : Holder :=
  ⟨⟨"driver", false⟩ :: u.fieldNames, u.loaders.map Loader.name⟩

/-- What its code may refer to: what it has, and beside it the units of mappers. -/
def QueriesUnit.names (u : QueriesUnit) : Base → List Ident :=
  Base.choose (u.holder.fields ++ u.holder.functions) (UnitContent.queries u).references

/-- The fields with their types. -/
def QueriesUnit.typedFields (n : Naming) (u : QueriesUnit) : List (Ident × Code) :=
  (⟨"driver", false⟩, n.sharedDriverType) ::
    (u.adapters.map fun f => (f.name, n.adapterType f)) ++
    (u.mappers.map fun f => (f.name, Code.shared f.mapper.sibling))

theorem QueriesUnit.names_typedFields (n : Naming) (u : QueriesUnit) :
    (u.typedFields n).map Prod.fst = u.holder.fields := by
  simp [typedFields, holder, fieldNames, Function.comp_def]

/-- Fields with their types, as code. -/
def typedCodes (fields : List (Ident × Code)) : List Code :=
  fields.map fun (name, type) => Code.typed name type

/-- The struct of a queries unit. -/
def QueriesUnit.struct (n : Naming) (u : QueriesUnit) : Code :=
  Code.words "pub struct" ++ u.name.code ++
    Code.braces (Code.commasAfter (typedCodes (u.typedFields n)))

/-- The constructor of a queries unit. -/
def QueriesUnit.constructor (n : Naming) (u : QueriesUnit) : Code :=
  Code.words "pub fn new" ++ Code.parens (Code.commas (typedCodes (u.typedFields n))) ++
    Code.words "-> Self" ++
    Code.braces (Code.word "Self" ++ Code.braces (Code.commas (u.holder.fields.map Ident.code)))

theorem QueriesUnit.code_eq (n : Naming) (u : QueriesUnit) : u.code n =
    Code.comment (" Statements behind [" ++ quoted u.declaration ++ "].") ++ u.struct n ++
      Code.word "impl" ++ u.name.code ++ Code.braces (
        Code.word "#" ++ Code.brackets (
          Code.word "allow" ++ Code.parens (Code.words "clippy :: too_many_arguments")) ++
        u.constructor n ++ u.methods.flatMap (Method.code n) ++ u.loaders.flatMap (Loader.code n)) := by
  have hfields : (Code.words "driver :" ++ n.sharedDriverType) ::
      (u.adapters.map fun f => Code.typed f.name (n.adapterType f)) ++
      (u.mappers.map fun f => Code.typed f.name (Code.shared f.mapper.sibling)) =
        typedCodes (u.typedFields n) := by
    simp [typedCodes, typedFields, Function.comp_def]
    rfl
  rw [code, hfields]
  simp only [struct, constructor, holder, List.map_cons, List.append_assoc]
  rfl

section Units

variable {n : Naming} {d : Dao} {u : QueriesUnit} (h : QueriesUnit.of n d = .ok u) {o : Operation}
  (ho : o ∈ d.operations)

include h

/-- What the unit has and what is beside it have names. -/
theorem QueriesUnit.named_names : ∀ b, ∀ i ∈ u.names b, ∃ name, Ident.of name = .ok i := by
  obtain ⟨-, -, ⟨-, hadapters⟩, -, hmappers⟩ := fields_of h
  obtain ⟨-, -, hloaders⟩ := parts_of h
  intro b i hi
  cases b with
  | self =>
      rw [names, Base.choose, holder, fieldNames, List.mem_append, List.mem_cons, List.mem_append] at hi
      obtain (rfl | hi | hi) | hi := hi
      · exact ⟨"driver", by decide⟩
      · exact AdapterKey.named_fields hadapters i hi
      · obtain ⟨e, -, he⟩ := exists_of_forall₂ (forall₂_of_mapM hmappers) hi
        exact ⟨_, he⟩
      · obtain ⟨l, hl, rfl⟩ := List.mem_map.mp hi
        obtain ⟨compound, -, hloader⟩ := exists_of_forall₂ hloaders hl
        exact ⟨_, Compound.loaderName_of hloader⟩
  | super =>
      obtain ⟨f, hf, rfl⟩ := List.mem_map.mp hi
      exact ⟨_, (mappers_of h f hf).2.1⟩

/-- What the code of the unit may refer to, and the types and paths that its DAO spells. -/
def QueriesUnit.surroundings : Surroundings where
  names := u.names
  named := named_names h
  spelled := d.spelling.Has n

variable {options : Options} (hn : Naming.ofOptions options = .ok n)

include hn in
theorem QueriesUnit.spells : (surroundings h).Spells n d.spelling :=
  Surroundings.spells_of hn rfl

include hn

theorem AdapterKey.heldIn_surroundings {key : AdapterKey} (hkey : key ∈ d.statementAdapters) :
    key.HeldIn (QueriesUnit.surroundings h) := by
  obtain ⟨-, -, ⟨-, hnames⟩, -⟩ := QueriesUnit.fields_of h
  have hspells := QueriesUnit.spells h hn
  obtain ⟨field, hmem, hfield⟩ := exists_of_forall₂ (forall₂_of_mapM hnames).flip hkey
  refine AdapterKey.heldIn_of hfield ?_ fun t ht => hspells.types t ?_
  · exact List.mem_append_left _ (List.mem_cons_of_mem _ (List.mem_append_left _ hmem))
  · exact List.mem_append_right _ (List.mem_flatMap.mpr ⟨key, hkey, ht⟩)

theorem QueriesUnit.closed_typedFields {b : Base} :
    ∀ field ∈ u.typedFields n, Code.ClosedIn b (surroundings h) (Code.typed field.1 field.2) := by
  have hruntime := (spells h hn).runtime
  intro field hfield
  rw [typedFields, List.cons_append, List.mem_cons, List.mem_append] at hfield
  obtain rfl | hfield | hfield := hfield
  · have hdriver : Code.ClosedIn b (surroundings h) (Code.word "driver") := word rfl
    exact typed hdriver (closed_sharedDriver hruntime)
  · obtain ⟨f, hf, rfl⟩ := List.mem_map.mp hfield
    obtain ⟨hadapters, -⟩ := parts_of h
    obtain ⟨key, hkey, hof⟩ := exists_of_forall₂ (forall₂_of_mapM hadapters) hf
    exact closed_adapterType hruntime (AdapterKey.heldIn_surroundings h hn hkey) hof
  · obtain ⟨f, hf, rfl⟩ := List.mem_map.mp hfield
    have hbeside : f.mapper ∈ (surroundings h).names .super := List.mem_map_of_mem hf
    exact typed (ident (mappers_of h f hf).2.2) (shared (sibling hbeside))

omit hn

include ho

/-- Entities of one declaration share a mapper, and so a field. -/
theorem Entity.heldIn_surroundings {row : RowType} (hrow : o.rowType? = some row) {e : Entity}
    (he : e ∈ row.mappedEntities) : e.HeldIn (QueriesUnit.surroundings h) := by
  obtain ⟨-, -, -, -, hnames⟩ := QueriesUnit.fields_of h
  have hmapped : e.declaration ∈ d.mappedEntities.map Entity.declaration := by
    refine mem_map_distinctBy.mpr (List.mem_map_of_mem (List.mem_flatMap.mpr ⟨o, ho, ?_⟩))
    rwa [hrow]
  obtain ⟨found, hfound, hdeclaration⟩ := List.mem_map.mp hmapped
  intro name hname
  obtain ⟨field, hmem, hfield⟩ := exists_of_forall₂ (forall₂_of_mapM hnames).flip hfound
  have hsame : found.mapperField = e.mapperField := by
    rw [mapperField, mapperField, simpleName, simpleName, hdeclaration]
  rw [Except.ok.inj (hname.symm.trans (hsame.symm.trans hfield))]
  exact List.mem_append_left _ (List.mem_cons_of_mem _ (List.mem_append_right _ hmem))

/-- Compounds of one declaration share a loader. -/
theorem Compound.loaded_by_unit {compound : Compound} (hrow : o.rowType? = some (.compound compound))
    {name : Ident} (hname : compound.loaderName = .ok name) : name ∈ u.holder.functions := by
  obtain ⟨-, -, hloaders⟩ := QueriesUnit.parts_of h
  have hmem : compound.declaration ∈ d.compounds.map Compound.declaration := by
    refine mem_map_distinctBy.mpr (List.mem_map_of_mem (List.mem_filterMap.mpr ⟨o, ho, ?_⟩))
    rw [hrow]
    rfl
  obtain ⟨found, hfound, hdeclaration⟩ := List.mem_map.mp hmem
  obtain ⟨l, hl, hloader⟩ := exists_of_forall₂ hloaders.flip hfound
  have hsame : found.loaderName = compound.loaderName := by
    rw [loaderName, loaderName, simpleName, simpleName, hdeclaration]
  rw [Except.ok.inj (hname.symm.trans (hsame.symm.trans (loaderName_of hloader)))]
  exact List.mem_map_of_mem hl

include hn

theorem RowType.heldIn_surroundings {row : RowType} (hrow : o.rowType? = some row) :
    row.HeldIn (QueriesUnit.surroundings h) where
  type := by
    refine (QueriesUnit.spells h hn).types _ (List.mem_append_left _ (List.mem_append_left _ ?_))
    exact List.mem_flatMap.mpr ⟨o, ho, o.mem_types_of_shape (ReturnShape.mem_types_of_row hrow)⟩
  adapters _ hkey := by
    have hused := Operation.mem_adapters_of_row hrow hkey
    exact AdapterKey.heldIn_surroundings h hn (Dao.mem_statementAdapters.mpr ⟨o, ho, .inl hused⟩)
  mappers e he := Entity.heldIn_surroundings h ho hrow he
  loader compound hcompound name hname :=
    List.mem_append_right _ (Compound.loaded_by_unit h ho (hcompound ▸ hrow) hname)

/-- The unit of a DAO holds what its operations bind, write and read. -/
theorem Operation.heldIn_surroundings : o.HeldIn (QueriesUnit.surroundings h) where
  types t ht := (QueriesUnit.spells h hn).types t
    (List.mem_append_left _ (List.mem_append_left _ (List.mem_flatMap.mpr ⟨o, ho, ht⟩)))
  bound _ hkey :=
    AdapterKey.heldIn_surroundings h hn (Dao.mem_statementAdapters.mpr ⟨o, ho, .inl hkey⟩)
  written e he _ hkey :=
    AdapterKey.heldIn_surroundings h hn (Dao.mem_statementAdapters.mpr ⟨o, ho, .inr ⟨e, he, hkey⟩⟩)
  row _ hrow := RowType.heldIn_surroundings h ho hn hrow

omit ho

/-- So it does with what its loaders spell and read. -/
theorem Compound.heldIn_surroundings {compound : Compound} (hcompound : compound ∈ d.compounds) :
    compound.HeldIn (QueriesUnit.surroundings h) := by
  have hspells := QueriesUnit.spells h hn
  obtain ⟨o, ho, hrow⟩ := Dao.row_of_mem_compounds hcompound
  refine ⟨RowType.heldIn_surroundings h ho hn hrow, fun t ht => ?_, ?_⟩
  · refine hspells.types t (List.mem_append_left _ (List.mem_append_right _ ?_))
    exact List.mem_flatMap.mpr ⟨compound, hcompound, ht⟩
  · exact hspells.paths _ (List.mem_cons_of_mem _ (List.mem_map_of_mem hcompound))

/-- The code of the unit keeps to what the unit has, and to what is beside it. -/
theorem QueriesUnit.closed_code (b : Base) : Code.ClosedIn b (surroundings h) (u.code n) := by
  have hruntime := (spells h hn).runtime
  have htyped : ∀ code ∈ typedCodes (u.typedFields n), Code.ClosedIn b (surroundings h) code :=
    List.forall_mem_map.mpr (closed_typedFields h hn)
  have hnames : Code.ClosedIn b (surroundings h) (Code.commas (u.holder.fields.map Ident.code)) := by
    refine commas_map fun name hname => ?_
    obtain ⟨source, hof⟩ := named_names h .self name (List.mem_append_left _ hname)
    exact ident hof
  have hdriver : ⟨"driver", false⟩ ∈ (surroundings h).names .self :=
    List.mem_append_left _ List.mem_cons_self
  obtain ⟨hof, -⟩ := fields_of h
  obtain ⟨-, hmethods, hloaders⟩ := parts_of h
  have hmethod : Code.ClosedIn b (surroundings h) (u.methods.flatMap (Method.code n)) := by
    refine flatMap fun m hm => ?_
    obtain ⟨o, ho, hmethod⟩ := exists_of_forall₂ hmethods hm
    exact closed_method hruntime hdriver (Operation.heldIn_surroundings h ho hn) hmethod
  have hloader : Code.ClosedIn b (surroundings h) (u.loaders.flatMap (Loader.code n)) := by
    refine flatMap fun l hl => ?_
    obtain ⟨compound, hcompound, hloader⟩ := exists_of_forall₂ hloaders hl
    exact closed_loader hruntime hdriver (Compound.heldIn_surroundings h hn hcompound) hloader
  have hstruct : Code.ClosedIn b (surroundings h) (u.struct n) :=
    append (append (words rfl) (ident hof)) (commasAfter htyped).braces
  have hconstructor : Code.ClosedIn b (surroundings h) (u.constructor n) :=
    append (append (append (words rfl) (commas htyped).parens) (words rfl))
      (braces (append (word rfl) hnames.braces))
  have hallow : Code.ClosedIn b (surroundings h) (Code.word "#" ++ Code.brackets (
      Code.word "allow" ++ Code.parens (Code.words "clippy :: too_many_arguments"))) :=
    append (word rfl) (brackets (append (word rfl) (parens (words rfl))))
  rw [code_eq]
  exact append (append (append (append (comment _) hstruct) (word rfl)) (ident hof))
    (append (append (append hallow hconstructor) hmethod) hloader).braces

/-- The unit refers through `self` to what it has, and is constructed with what it lists. -/
structure QueriesUnit.Holds (n : Naming) (d : Dao) (u : QueriesUnit) : Prop where
  /-- Its code is put together from references to its fields and loaders, and from types and paths that the
  DAO spells. -/
  closed : ∃ s : Surroundings, s.names .self = u.holder.fields ++ u.holder.functions ∧
    s.spelled = d.spelling.Has n ∧ Code.ClosedIn .self s (u.code n)
  /-- So a name behind `self` is that of a field or of a loader, unless the reference stands in a type or a
  path that the DAO spells, and so does the unit. -/
  named : ∀ name i, Ident.of name = .ok i → (Code.reference .self i).Occurs (u.code n) →
    i ∈ u.holder.fields ∨ i ∈ u.holder.functions ∨ ∃ spelled, d.spelling.Has n spelled ∧
      spelled.Occurs (u.code n) ∧ (Code.reference .self i).Occurs spelled
  /-- The struct declares the fields. -/
  declared : (u.struct n).Occurs (u.code n)
  /-- The constructor takes them in the same order. -/
  constructed : (u.constructor n).Occurs (u.code n)
  names : (u.typedFields n).map Prod.fst = u.holder.fields
  /-- After the driver they are those of the adapters and of the mappers that the unit lists. -/
  listed : ∃ adapters mappers, u.adapterKeys.mapM AdapterKey.field = .ok adapters ∧
    u.mappedEntities.mapM Entity.mapperField = .ok mappers ∧
    u.holder.fields = ⟨"driver", false⟩ :: (adapters ++ mappers)
  /-- It lists the adapters of the statements, and the entities that rows are mapped to. -/
  adapters : u.adapterKeys = d.statementAdapters
  mappers : u.mappedEntities = d.mappedEntities

theorem QueriesUnit.holds_of : u.Holds n d := by
  obtain ⟨-, -, ⟨hkeys, hadapters⟩, hentities, hmappers⟩ := fields_of h
  have hclosed := closed_code h hn .self
  constructor
  · exact ⟨surroundings h, rfl, rfl, hclosed⟩
  · intro name i hi hoccurs
    obtain hname | ⟨spelled, hspelled, hstands, hinner | ⟨hb, -⟩⟩ := hclosed.named hi hoccurs
    · exact (List.mem_append.mp hname).imp_right .inl
    · exact .inr (.inr ⟨spelled, hspelled, hstands, hinner⟩)
    · contradiction
  · rw [code_eq]
    exact Code.Occurs.here.after _ |>.before _ |>.before _ |>.before _
  · rw [code_eq]
    exact (Code.Occurs.here.after _ |>.before _ |>.before _).braces.after _
  · exact names_typedFields n u
  · exact ⟨_, _, hkeys ▸ hadapters, hentities ▸ hmappers, rfl⟩
  · exact hkeys
  · exact hentities

end Units

/-! ## databases -/

theorem Database.mem_daos {c : Catalog} {database : Database} (hd : database ∈ c.schema.databases)
    {g : DaoGetter} (hg : g ∈ database.getters) : g.dao ∈ database.daos := by
  refine (mem_distinctBy_iff fun dao hdao dao' hdao' => ?_).mpr (List.mem_map_of_mem hg)
  exact eq_of_holds_dao (holds_of_mem_getters hd hdao) (holds_of_mem_getters hd hdao')

/-- **Queries holders are closed**: what the queries unit of a DAO refers to through `self` is a field of
its struct, or a loader of its own. Its constructor takes the fields in the order of the struct: the driver,
then the adapters and the mappers that the unit lists. This is the order in which a database that is emitted
passes them. -/
theorem QueriesUnit.holder_closed {options : Options} {n : Naming}
    (hn : Naming.ofOptions options = .ok n) {dao : Dao} {u : QueriesUnit}
    (h : QueriesUnit.of n dao = .ok u) :
    u.Holds n dao ∧ ∀ (c : Catalog) r, c.compile options = .ok r →
      ∀ database ∈ c.schema.databases, ∀ g ∈ database.getters, g.dao = dao →
        ∀ emitted, .database emitted ∈ r.contents → emitted.declaration = database.declaration →
          (Code.sharing u.name u.holder.fields).Occurs (emitted.code n) := by
  refine ⟨holds_of h hn, ?_⟩
  intro c r hcompile database hd g hg hdao emitted hemitted hname
  subst hdao
  obtain ⟨n', hn', rfl, -⟩ := compile_eq_ok hcompile
  obtain rfl : n = n' := Except.ok.inj (hn.symm.trans hn')
  obtain ⟨p, hp, hcontents⟩ := wired_compileWith c n
  rw [hcontents] at hemitted
  cases hp.units _ hemitted with
  | database hd' hof mapped queried =>
      obtain ⟨hname', -⟩ := DatabaseUnit.parts_of hof
      obtain rfl := List.inj_on_of_nodup_map nodup_schema_databases hd' hd (hname'.symm.trans hname)
      obtain ⟨ofAdapters, ofMappers, lines, ofDaos, _, _, -, -, hlines, -, hconstructor⟩ :=
        DatabaseUnit.constructed hof
      have hwired := List.mem_map_of_mem (f := Dao.wiring) (Database.mem_daos hd hg)
      obtain ⟨line, hmem, hline⟩ := exists_of_forall₂ hlines.flip hwired
      obtain ⟨field, -, rfl⟩ := QueriesWiring.Line.eq_of hline h
      have hshared : (Code.sharing u.name u.holder.fields).Occurs
          (Code.shareLine field.code (Code.sharing u.name u.holder.fields)) :=
        Code.Occurs.here.parens.after _ |>.before _
      have hlisted := List.mem_append_left ofDaos (List.mem_append_right (ofAdapters ++ ofMappers) hmem)
      exact (DatabaseUnit.occurs_line hlisted hshared).trans hconstructor

/-- The queries of students bind whether one is active, and map students and courses; the school passes them
the adapter and the two mappers. -/
theorem QueriesUnit.holder_closed_school :
    ∃ n d g u emitted, Naming.ofOptions {} = .ok n ∧ d ∈ Call.schoolCatalog.schema.databases ∧
      g ∈ d.getters ∧ QueriesUnit.of n g.dao = .ok u ∧
      u.holder.fields.map Ident.text =
        ["driver", "bool_i64_adapter", "student_mapper", "course_mapper"] ∧
      u.holder.functions.map Ident.text = ["load_curriculum"] ∧ u.Holds n g.dao ∧
      .database emitted ∈ (Call.schoolCatalog.compileWith n).contents ∧
      (Code.sharing u.name u.holder.fields).Occurs (emitted.code n) := by
  have hrun : (Naming.ofOptions {}).toOption.map (fun n =>
      Call.schoolCatalog.schema.databases.flatMap fun d => d.getters.map fun g =>
        (d.declaration, (QueriesUnit.of n g.dao).toOption.map fun u =>
          [u.holder.fields.map Ident.text, u.holder.functions.map Ident.text])) =
      some [("app::School", some [["driver", "bool_i64_adapter", "student_mapper", "course_mapper"],
        ["load_curriculum"]])] := by
    decide +kernel
  obtain ⟨n, emitted, hnaming, hcompile, hmem, hdeclaration⟩ := Call.schoolCatalog_emits
  obtain ⟨n', hn, hdatabases⟩ := Option.map_eq_some_iff.mp hrun
  obtain rfl : n = n' := Except.ok.inj (hnaming.symm.trans (eq_ok_of_toOption hn))
  obtain ⟨d, hd, hgetters⟩ := List.mem_flatMap.mp (hdatabases ▸ List.mem_singleton_self _)
  obtain ⟨g, hg, hparts⟩ := List.mem_map.mp hgetters
  obtain ⟨hschool, hqueries⟩ := Prod.mk.inj hparts
  obtain ⟨u, hu, hparts⟩ := Option.map_eq_some_iff.mp hqueries
  obtain ⟨hfields, hparts⟩ := List.cons.inj hparts
  obtain ⟨hfunctions, -⟩ := List.cons.inj hparts
  have hname : emitted.declaration = d.declaration := hdeclaration.trans hschool.symm
  obtain ⟨hholds, hpassed⟩ := holder_closed hnaming (eq_ok_of_toOption hu)
  exact ⟨n, d, g, u, emitted, hnaming, hd, hg, eq_ok_of_toOption hu, hfields, hfunctions, hholds, hmem,
    hpassed _ _ hcompile d hd g hg rfl emitted hmem hname⟩

end DaoForge
