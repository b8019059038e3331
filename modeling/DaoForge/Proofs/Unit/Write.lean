import DaoForge.Proofs.Resolve.Operation
import DaoForge.Proofs.Sql.Write
import DaoForge.Proofs.Unit.Reference
import DaoForge.Proofs.Unit.Value

/-!
# DaoForge.Proofs.Unit.Write

The method of a function that writes entities: what its statement says, and the values that it binds.

1. `Member.Leads members path c`: following the embeddings `path` leads to the column `c`; the
   argument for a column of the table takes this way (`ColumnArgument.Takes`);
2. `MethodBody.Writes`: statement and values of a method line up, column by column;
3. `Dao.writes_line_up`: they do for every function of every DAO that resolves.
-/

namespace DaoForge

open Lexeme

/-! ## the way to a column -/

namespace Member

/-- `Leads members path c`: following the embeddings, from the members inward, leads to the column. -/
inductive Leads : List Member → List Embedding → Column → Prop
  | column {members : List Member} {c : Column} (h : .column c ∈ members) : Leads members [] c
  | embedded {members inner : List Member} {e : Embedding} {path : List Embedding} {c : Column}
      (h : .embedded e inner ∈ members) (hinner : Leads inner path c) : Leads members (e :: path) c

theorem Leads.mono {members members' : List Member} {path : List Embedding} {c : Column}
    (h : Leads members path c) (hsubset : members ⊆ members') : Leads members' path c := by
  cases h with
  | column h => exact .column (hsubset h)
  | embedded h hinner => exact .embedded (hsubset h) hinner

theorem mem_columnsOf_of_leads {members : List Member} {path : List Embedding} {c : Column}
    (h : Leads members path c) : c ∈ columnsOf members := by
  induction h with
  | column h =>
      rw [columnsOf_eq_flatMap]
      exact List.mem_flatMap.mpr ⟨_, h, List.mem_singleton_self _⟩
  | embedded h _ ih =>
      rw [columnsOf_eq_flatMap]
      exact List.mem_flatMap.mpr ⟨_, h, ih⟩

mutual

theorem leads_of_pathTo? {name : String} {m : Member} {path : List Embedding}
    (h : pathTo? name m = some path) :
    ∃ c, Leads [m] path c ∧ c.name = name ∧ c.isStored = true := by
  cases m with
  | column c =>
      rw [pathTo?] at h
      split at h
      · next hfound =>
        cases h
        rw [Bool.and_eq_true, beq_iff_eq] at hfound
        exact ⟨c, .column (List.mem_singleton_self _), hfound⟩
      · contradiction
  | embedded e inner =>
      rw [pathTo?] at h
      obtain ⟨rest, hrest, rfl⟩ := Option.map_eq_some_iff.mp h
      obtain ⟨c, hleads, hc⟩ := leads_of_pathIn? hrest
      exact ⟨c, .embedded (List.mem_singleton_self _) hleads, hc⟩

theorem leads_of_pathIn? {name : String} {members : List Member} {path : List Embedding}
    (h : pathIn? name members = some path) :
    ∃ c, Leads members path c ∧ c.name = name ∧ c.isStored = true := by
  cases members with
  | nil => contradiction
  | cons m rest =>
      rw [pathIn?] at h
      split at h
      · next path hpath =>
        cases h
        obtain ⟨c, hleads, hc⟩ := leads_of_pathTo? hpath
        exact ⟨c, hleads.mono (by simp), hc⟩
      · obtain ⟨c, hleads, hc⟩ := leads_of_pathIn? h
        exact ⟨c, hleads.mono (List.subset_cons_self _ _), hc⟩

end

mutual

theorem pathTo?_isSome {m : Member} {c : Column} (hc : c ∈ columns m) (hstored : c.isStored = true) :
    (pathTo? c.name m).isSome = true := by
  cases m with
  | column c' =>
      obtain rfl := List.mem_singleton.mp hc
      simp [pathTo?, hstored]
  | embedded e inner =>
      rw [columns] at hc
      rw [pathTo?, Option.isSome_map]
      exact pathIn?_isSome hc hstored

theorem pathIn?_isSome {members : List Member} {c : Column} (hc : c ∈ columnsOf members)
    (hstored : c.isStored = true) : (pathIn? c.name members).isSome = true := by
  cases members with
  | nil => contradiction
  | cons m rest =>
      rw [pathIn?]
      split
      · rfl
      · next hnone =>
        rw [columnsOf] at hc
        rcases List.mem_append.mp hc with hc | hc
        · have hsome := pathTo?_isSome hc hstored
          rw [hnone] at hsome
          contradiction
        · exact pathIn?_isSome hc hstored

end

end Member

/-- The argument for a column takes the way to it: through the embedded structs, each optional where
the embedding is, to the column's property. Its code binds what is there. -/
def ColumnArgument.Takes (a : ColumnArgument) (e : Entity) (c : Column) : Prop :=
  ∃ path, Member.Leads e.members path c ∧
    List.Forall₂ (fun embedding step =>
      step.property.name = embedding.property ∧ step.isOptional = embedding.isNullable)
      path a.embeddings ∧
    a.property.name = c.property ∧
    ∀ n, c.BoundBy n path a.adapter (a.code n)

namespace Entity.WellKeyed

variable {e : Entity}

/-- The way that is found by a column's name leads to the column. -/
theorem pathIn?_eq (h : e.WellKeyed) {c : Column} (hc : c ∈ e.storedColumns) :
    ∃ path, Member.pathIn? c.name e.members = some path ∧ Member.Leads e.members path c := by
  obtain ⟨hmem, hstored⟩ := List.mem_filter.mp hc
  obtain ⟨path, hpath⟩ := Option.isSome_iff_exists.mp (Member.pathIn?_isSome hmem hstored)
  obtain ⟨found, hleads, hname, hfound⟩ := Member.leads_of_pathIn? hpath
  have hlisted : found ∈ e.storedColumns :=
    List.mem_filter.mpr ⟨Member.mem_columnsOf_of_leads hleads, hfound⟩
  obtain rfl : found = c := List.inj_on_of_nodup_map h.nodup hlisted hc hname
  exact ⟨path, hpath, hleads⟩

theorem takes_of_columnArgument (h : e.WellKeyed) {c : Column} (hc : c ∈ e.storedColumns)
    {a : ColumnArgument} (ha : ColumnArgument.of e c = .ok a) : a.Takes e c := by
  obtain ⟨path, hpath, hleads⟩ := h.pathIn?_eq hc
  have hbound := (ColumnArgument.boundBy_of ha hpath).2
  unfold ColumnArgument.of at ha
  split at ha
  · contradiction
  · rw [hpath] at ha
    obtain ⟨embeddings, hembeddings, ha⟩ := bind_eq_ok ha
    obtain ⟨property, hproperty, ha⟩ := bind_eq_ok ha
    obtain ⟨field?, -, ha⟩ := bind_eq_ok ha
    cases ha
    refine ⟨path, hleads, (forall₂_of_mapM hembeddings).imp ?_, Ident.name_of hproperty, hbound⟩
    intro embedding step hstep
    obtain ⟨name, hname, hstep⟩ := bind_eq_ok hstep
    cases hstep
    exact ⟨Ident.name_of hname, rfl⟩

theorem takes_of_columnArguments (h : e.WellKeyed) {columns : List Column}
    {values : List ColumnArgument} (hcolumns : columns ⊆ e.storedColumns)
    (hvalues : List.Forall₂ (fun c value => ColumnArgument.of e c = .ok value) columns values) :
    List.Forall₂ (fun c value => ColumnArgument.Takes value e c) columns values := by
  induction hvalues with
  | nil => exact .nil
  | cons hvalue _ ih =>
      obtain ⟨hc, hcolumns⟩ := List.cons_subset.mp hcolumns
      exact .cons (h.takes_of_columnArgument hc hvalue) (ih hcolumns)

/-! ## statements of an entity -/

theorem insertStatement_eq (h : e.WellKeyed) (strategy : ConflictStrategy) :
    e.insertStatement strategy = .insert strategy e.tableName (e.storedColumns.map fun c =>
      ⟨c.name, decide (e.primaryKey.autoGenerate = true ∧ e.primaryKey.columns = [c.name])⟩) := by
  have hitems : (e.storedColumns.map fun c =>
      (⟨c.name, c.isPrimaryKey && e.primaryKey.autoGenerate⟩ : Sql.InsertItem)) =
      e.storedColumns.map fun c =>
        ⟨c.name, decide (e.primaryKey.autoGenerate = true ∧ e.primaryKey.columns = [c.name])⟩ := by
    refine List.map_congr_left fun c hc => ?_
    rw [Sql.InsertItem.mk.injEq]
    exact ⟨rfl, by rw [Bool.eq_iff_iff, h.isGenerated_iff hc, decide_eq_true_iff]⟩
  rw [Entity.insertStatement, hitems]

theorem assignedColumns_eq (h : e.WellKeyed) :
    e.assignedColumns = e.storedColumns.filter fun c => decide (c.name ∉ e.primaryKey.columns) := by
  refine List.filter_congr fun c hc => ?_
  have hflagged := h.flagged c hc
  cases hkey : c.isPrimaryKey <;> simp_all

/-- A generated key is a column of the table. -/
theorem exists_generated (h : e.WellKeyed) (hgenerated : e.primaryKey.autoGenerate = true) :
    ∃ c ∈ e.storedColumns, e.primaryKey.columns = [c.name] := by
  obtain ⟨name, hname⟩ := h.fits.generated hgenerated
  obtain ⟨c, hc, rfl⟩ := List.mem_map.mp (h.fits.columns name (by simp [hname]))
  exact ⟨c, hc, hname⟩

end Entity.WellKeyed

/-! ## methods -/

namespace Sql

/-- A verb with its strategy, unless that is the default, and what follows it. -/
def verbText (verb : String) (strategy : ConflictStrategy) (object : String) : String :=
  verb ++ (if strategy = .abort then "" else "OR " ++ Constant.name strategy ++ " ") ++ object

theorem plain_append (s t : String) : plain (s ++ t) = plain s ++ plain t := by
  rw [plain, String.toList_append, List.map_append]
  rfl

theorem orClause_eq (strategy : ConflictStrategy) :
    orClause strategy = if strategy = .abort then "" else "OR " ++ Constant.name strategy ++ " " := by
  cases strategy <;> rfl

theorem plain_verbText (verb : String) (strategy : ConflictStrategy) (object : String) :
    plain verb ++ plain (orClause strategy) ++ plain object =
      plain (verbText verb strategy object) := by
  rw [← plain_append, ← plain_append, orClause_eq]
  rfl

/-- The text of an insert, with the value of each item. -/
theorem WriteStatement.text_insert (strategy : ConflictStrategy) (table : String) (items : List InsertItem) :
    (WriteStatement.insert strategy table items).text =
      verbText "INSERT " strategy "INTO " ++ quote table ++ " (" ++
        ", ".intercalate (items.map fun item => quote item.column) ++ ") VALUES (" ++
        ", ".intercalate (items.map fun item => if item.isGenerated then "nullif(?, 0)" else "?") ++ ")" := by
  rw [text, verbText, ← orClause_eq, quoteAll, List.map_map]
  rfl

end Sql

/-- `body.Writes e verb s columns`: the method writes an entity with the statement `s`. Its text is read
as its items, the first of them `verb` and the table; it has one mark for each value, and the marks
belong, in order, to the columns whose values are bound. Text and values stand in the method's code. -/
structure MethodBody.Writes (body : MethodBody) (e : Entity) (verb : String)
    (s : Sql.WriteStatement) (columns : List Column) : Prop where
  body_eq : ∃ parameter values isList isCounting,
    body = .write parameter s.text values isList isCounting ∧
      List.Forall₂ (fun c value => ColumnArgument.Takes value e c) columns values ∧
      ∀ n, (Code.string s.text).Occurs (body.code n) ∧
        (Code.words "let params = vec !" ++ Code.brackets (Code.commas (values.map (ColumnArgument.code n))) ++
          Code.word ";").Occurs (body.code n)
  scan_eq : scan s.text.toList = .ok s.items
  verb_eq : ∃ tail, s.items = Sql.plain verb ++ Sql.identifier e.tableName :: tail
  marks_eq : marks s.items = columns.length
  owners_eq : s.owners s.items = columns.map fun c => (Sql.quote c.name).toList

namespace MethodBody

/-- The method inserts every stored column, in order. The value of the generated key, which is one of
them, is the only one that a zero leaves to the database. -/
def Inserts (body : MethodBody) (strategy : ConflictStrategy) (e : Entity) : Prop :=
  let s : Sql.WriteStatement := .insert strategy e.tableName (e.storedColumns.map fun c =>
    ⟨c.name, decide (e.primaryKey.autoGenerate = true ∧ e.primaryKey.columns = [c.name])⟩)
  (e.primaryKey.autoGenerate = true → ∃ c ∈ e.storedColumns, e.primaryKey.columns = [c.name]) ∧
  body.Writes e (Sql.verbText "INSERT " strategy "INTO ") s e.storedColumns ∧
  s.text = Sql.verbText "INSERT " strategy "INTO " ++ Sql.quote e.tableName ++ " (" ++
    ", ".intercalate (e.storedColumns.map fun c => Sql.quote c.name) ++ ") VALUES (" ++
    ", ".intercalate (e.storedColumns.map fun c =>
      if e.primaryKey.autoGenerate = true ∧ e.primaryKey.columns = [c.name] then "nullif(?, 0)" else "?") ++
    ")"

/-- The method assigns the columns outside the key, and finds the row by those of the key. -/
def Updates (body : MethodBody) (strategy : ConflictStrategy) (e : Entity) : Prop :=
  let assigned := e.storedColumns.filter fun c => decide (c.name ∉ e.primaryKey.columns)
  ∃ key ⊆ e.storedColumns, key.map Column.name = e.primaryKey.columns ∧
    body.Writes e (Sql.verbText "UPDATE " strategy "")
      (.update strategy e.tableName (assigned.map Column.name) e.primaryKey.columns)
      (assigned ++ key)

/-- The method finds the row by the columns of the key. -/
def Deletes (body : MethodBody) (e : Entity) : Prop :=
  ∃ key ⊆ e.storedColumns, key.map Column.name = e.primaryKey.columns ∧
    body.Writes e "DELETE FROM " (.delete e.tableName e.primaryKey.columns) key

end MethodBody

/-- Text and values of a method that writes stand in its code, however many entities it takes. -/
theorem MethodBody.occurs_write (n : Naming) (parameter : Ident) (statement : String)
    (values : List ColumnArgument) (isList isCounting : Bool) :
    let body := MethodBody.write parameter statement values isList isCounting
    (Code.string statement).Occurs (body.code n) ∧
      (Code.words "let params = vec !" ++ Code.brackets (Code.commas (values.map (ColumnArgument.code n))) ++
        Code.word ";").Occurs (body.code n) := by
  cases isList with
  | true =>
      constructor
      · exact Code.Occurs.here.after _ |>.before _ |>.before _ |>.before _ |>.before _ |>.before _ |>.before _
      · exact ((((Code.Occurs.here.before _).braces.after _).before _).braces.after _).parens.after _
          |>.before _ |>.before _
  | false =>
      constructor
      · exact (((Code.Occurs.here.before _).parens.after _).before _).after _ |>.before _
      · exact Code.Occurs.here.after _ |>.before _ |>.before _ |>.before _

section Methods

variable {e : Entity} {o : Operation} {w : EntityOperation} {body : MethodBody}

/-- A statement whose bound columns are those of the values. -/
theorem writes_of_writeBody (h : w.entity.WellKeyed) {verb : String} {s : Sql.WriteStatement}
    {columns : List Column} (hcolumns : columns ⊆ w.entity.storedColumns)
    (hbound : s.boundColumns = columns.map Column.name)
    (hverb : ∃ tail, s.items = Sql.plain verb ++ Sql.identifier w.entity.tableName :: tail)
    (hbody : o.writeBody w s columns = .ok body) : body.Writes w.entity verb s columns := by
  obtain ⟨parameter, -, hbody⟩ := bind_eq_ok hbody
  obtain ⟨values, hvalues, hbody⟩ := bind_eq_ok hbody
  cases hbody
  have htakes := h.takes_of_columnArguments hcolumns (forall₂_of_mapM hvalues)
  refine ⟨⟨parameter, values, _, _, rfl, htakes, fun n => MethodBody.occurs_write n _ _ _ _ _⟩, s.scan_text,
    hverb, ?_, ?_⟩
  · rw [s.marks_items, hbound, List.length_map]
  · rw [s.owners_items, hbound, List.map_map]
    rfl

theorem inserts_of_body (h : w.entity.WellKeyed) (hkind : o.kind = .insert w)
    (hbody : o.body = .ok body) : body.Inserts w.onConflict w.entity := by
  rw [Operation.body, hkind] at hbody
  simp only [h.insertStatement_eq] at hbody
  refine ⟨h.exists_generated, writes_of_writeBody h (List.Subset.refl _) ?_ ?_ hbody, ?_⟩
  · rw [Sql.WriteStatement.boundColumns, List.map_map]
    rfl
  · rw [Sql.WriteStatement.items, Sql.plain_verbText]
    simp only [List.append_assoc, List.singleton_append]
    exact ⟨_, rfl⟩
  · simp only [Sql.WriteStatement.text_insert, List.map_map, Function.comp_def, decide_eq_true_eq]

theorem updates_of_body (h : w.entity.WellKeyed) (hkind : o.kind = .update w)
    (hbody : o.body = .ok body) : body.Updates w.onConflict w.entity := by
  rw [Operation.body, hkind] at hbody
  have hkey : w.entity.keyColumns ⊆ w.entity.storedColumns :=
    fun _ => Entity.mem_storedColumns_of_mem_keyColumns
  have hassigned : w.entity.assignedColumns ⊆ w.entity.storedColumns :=
    List.filter_sublist.subset
  refine ⟨w.entity.keyColumns, hkey, h.keyColumns_names, ?_⟩
  rw [← h.assignedColumns_eq]
  refine writes_of_writeBody h (List.append_subset.mpr ⟨hassigned, hkey⟩) ?_ ?_ hbody
  · rw [Sql.WriteStatement.boundColumns, List.map_append, h.keyColumns_names]
  · rw [Sql.WriteStatement.items, ← Sql.plain_verbText]
    simp only [List.append_assoc, List.singleton_append]
    exact ⟨_, rfl⟩

theorem deletes_of_body (h : w.entity.WellKeyed) (hkind : o.kind = .delete w)
    (hbody : o.body = .ok body) : body.Deletes w.entity := by
  rw [Operation.body, hkind] at hbody
  have hkey : w.entity.keyColumns ⊆ w.entity.storedColumns :=
    fun _ => Entity.mem_storedColumns_of_mem_keyColumns
  refine ⟨w.entity.keyColumns, hkey, h.keyColumns_names, ?_⟩
  refine writes_of_writeBody h hkey ?_ ?_ hbody
  · rw [Sql.WriteStatement.boundColumns, h.keyColumns_names]
  · rw [Sql.WriteStatement.items, List.append_assoc, List.append_assoc, List.singleton_append]
    exact ⟨_, rfl⟩

end Methods

/-! ## every DAO -/

/-- `o.Performs c f body`: the body of the operation `o` does what the annotation of `f` says. -/
structure Operation.Performs (o : Operation) (c : Catalog) (f : Function) (body : MethodBody) :
    Prop where
  insert : ∀ mark, Mark.find InsertMark f.annotations = .ok (some mark) →
    ∃ w, o.kind = .insert w ∧ w.entity.IsOf c ∧ body.Inserts mark.onConflict w.entity
  update : ∀ mark, Mark.find UpdateMark f.annotations = .ok (some mark) →
    ∃ w, o.kind = .update w ∧ w.entity.IsOf c ∧ body.Updates mark.onConflict w.entity
  delete : ∀ mark, Mark.find DeleteMark f.annotations = .ok (some mark) →
    ∃ w, o.kind = .delete w ∧ w.entity.IsOf c ∧ body.Deletes w.entity

theorem performs_of_from {c : Catalog} {f : Function} {o : Operation} {body : MethodBody}
    (h : o.From c f) (hbody : o.body = .ok body) : o.Performs c f body := by
  obtain ⟨-, mark, -, hunique, hasks⟩ := h
  constructor
  · intro record hrecord
    obtain rfl := hunique (.insert record) hrecord
    cases hasks with
    | @insert _ w hkind hstrategy hentity =>
        obtain ⟨d, -, he⟩ := id hentity
        rw [← hstrategy]
        exact ⟨w, hkind, hentity, inserts_of_body (wellKeyed_of_entityOf he) hkind hbody⟩
  · intro record hrecord
    obtain rfl := hunique (.update record) hrecord
    cases hasks with
    | @update _ w hkind hstrategy hentity =>
        obtain ⟨d, -, he⟩ := id hentity
        rw [← hstrategy]
        exact ⟨w, hkind, hentity, updates_of_body (wellKeyed_of_entityOf he) hkind hbody⟩
  · intro record hrecord
    obtain rfl := hunique (.delete record) hrecord
    cases hasks with
    | @delete _ w hkind _ hentity =>
        obtain ⟨d, -, he⟩ := id hentity
        exact ⟨w, hkind, hentity, deletes_of_body (wellKeyed_of_entityOf he) hkind hbody⟩

/-- **Written entities**: a DAO that resolves has one operation for each abstract function of its
trait, in order. Where the function inserts, updates or deletes, the statement of its method and the
values that the method binds line up, whatever the table and its columns are called. -/
theorem Dao.writes_line_up {c : Catalog} {d : Declaration} {dao : Dao}
    (h : c.daoFindings d = .ok dao) :
    List.Forall₂ (fun f o => Operation.function o = f.name ∧
        ∀ body, o.body = .ok body → o.Performs c f body)
      (d.functions.filter Function.isAbstract) dao.operations :=
  (operations_of_daoFindings h).imp fun _ _ hfrom =>
    ⟨hfrom.1, fun _ hbody => performs_of_from hfrom hbody⟩

/-- An entity whose table and column hold quotes and placeholders. -/
def noteCatalog : Catalog where
  declarations :=
    [{ qualifiedName := "app::Note"
       annotations := [{ name := "Entity", arguments := [("tableName", .text "no\x60te ?")] }]
       properties :=
        [{ name := "id"
           type := .ofName "i64"
           annotations := [{ name := "PrimaryKey", arguments := [("autoGenerate", .bool true)] }] },
          { name := "body"
            type := .ofName "String"
            annotations := [{ name := "ColumnInfo", arguments := [("name", .text "a ? :b")] }] }] }]
  nodup := by decide

/-- A DAO that inserts and deletes the entity. -/
def noteDao : Declaration where
  qualifiedName := "app::NoteDao"
  kind := .trait
  annotations := [{ name := "Dao" }]
  functions :=
    [{ name := "add"
       parameters := [{ name := "note", type := .ofName "app::Note" }]
       annotations := [{ name := "Insert", arguments := [("onConflict", .text "REPLACE")] }] },
      { name := "drop_note"
        parameters := [{ name := "note", type := .ofName "app::Note" }]
        annotations := [{ name := "Delete" }] }]

/-- Its two methods, as they line up. -/
theorem Dao.writes_line_up_note :
    ∃ dao add dropNote body body', noteCatalog.daoFindings noteDao = .ok dao ∧
      dao.operations = [add, dropNote] ∧ add.body = .ok body ∧ dropNote.body = .ok body' ∧
      (∃ w, add.kind = .insert w ∧ body.Inserts .replace w.entity) ∧
      (∃ w, dropNote.kind = .delete w ∧ body'.Deletes w.entity) := by
  have hrun : (noteCatalog.daoFindings noteDao).toOption.map (fun dao =>
      dao.operations.map fun o => o.body.toOption.isSome) = some [true, true] := by
    decide +kernel
  obtain ⟨dao, hdao, hbodies⟩ := Option.map_eq_some_iff.mp hrun
  have hresolved := eq_ok_of_toOption hdao
  have hlength : dao.operations.length = 2 := by simpa using congrArg List.length hbodies
  obtain ⟨add, dropNote, hoperations⟩ := List.length_eq_two.mp hlength
  simp only [hoperations, List.map_cons, List.map_nil, List.cons.injEq, and_true] at hbodies
  obtain ⟨body, hbody⟩ := Option.isSome_iff_exists.mp hbodies.1
  obtain ⟨body', hbody'⟩ := Option.isSome_iff_exists.mp hbodies.2
  have hadd := eq_ok_of_toOption hbody
  have hdrop := eq_ok_of_toOption hbody'
  have hall : List.Forall₂ _ [noteDao.functions[0], noteDao.functions[1]] dao.operations :=
    Dao.writes_line_up hresolved
  rw [hoperations, List.forall₂_cons, List.forall₂_cons] at hall
  obtain ⟨⟨-, hfirst⟩, ⟨-, hsecond⟩, -⟩ := hall
  obtain ⟨w, hkind, -, hinserts⟩ := (hfirst body hadd).insert ⟨none, .replace⟩ rfl
  obtain ⟨w', hkind', -, hdeletes⟩ := (hsecond body' hdrop).delete ⟨none⟩ rfl
  exact ⟨dao, add, dropNote, body, body', hresolved, hoperations, hadd, hdrop,
    ⟨w, hkind, hinserts⟩, w', hkind', hdeletes⟩

end DaoForge
