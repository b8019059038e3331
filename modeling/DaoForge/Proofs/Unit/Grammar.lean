import DaoForge.Proofs.Sql.Grammar
import DaoForge.Proofs.Unit.Write

/-!
# DaoForge.Proofs.Unit.Grammar

Which functions of a DAO have a statement that SQLite can read.

1. `Operation.Writes o s`: the method of the function runs the statement `s`;
2. `Operation.Grammatical`: when the statement of a function follows the grammar. An insert needs a
   column in the table, an update a column in the key and one outside it, a delete one in the key;
3. `Dao.statements_grammatical_iff`: so it is for every function of every DAO that resolves. No check
   refuses an entity without such columns.
-/

namespace DaoForge

/-- The operation runs the statement: its method, if it has one, holds the text. -/
def Operation.Writes (o : Operation) (s : Sql.WriteStatement) : Prop :=
  o.kind.writeStatement? = some s ∧ ∀ body, o.body = .ok body →
    ∃ parameter values isList isCounting, body = .write parameter s.text values isList isCounting

/-- Where the annotation of a function asks for a write, its statement follows the grammar iff the
entity has the columns that the statement lists. -/
structure Operation.Grammatical (o : Operation) (c : Catalog) (f : Function) : Prop where
  insert : ∀ mark, Mark.find InsertMark f.annotations = .ok (some mark) →
    ∃ w s, o.kind = .insert w ∧ w.entity.IsOf c ∧ o.Writes s ∧
      (Sql.InsertText s.text ↔ w.entity.storedColumns ≠ [])
  update : ∀ mark, Mark.find UpdateMark f.annotations = .ok (some mark) →
    ∃ w s, o.kind = .update w ∧ w.entity.IsOf c ∧ o.Writes s ∧
      (Sql.UpdateText s.text ↔
        (∃ column ∈ w.entity.storedColumns, column.name ∉ w.entity.primaryKey.columns) ∧
          w.entity.primaryKey.columns ≠ [])
  delete : ∀ mark, Mark.find DeleteMark f.annotations = .ok (some mark) →
    ∃ w s, o.kind = .delete w ∧ w.entity.IsOf c ∧ o.Writes s ∧
      (Sql.DeleteText s.text ↔ w.entity.primaryKey.columns ≠ [])

section Operations

variable {c : Catalog} {f : Function} {o : Operation} {w : EntityOperation} {s : Sql.WriteStatement}

theorem writes_of_body {columns : List Column} (hstatement : o.kind.writeStatement? = some s)
    (hbody : o.body = o.writeBody w s columns) : o.Writes s := by
  refine ⟨hstatement, fun body hok => ?_⟩
  rw [hbody] at hok
  obtain ⟨parameter, -, hok⟩ := bind_eq_ok hok
  obtain ⟨values, -, hok⟩ := bind_eq_ok hok
  cases hok
  exact ⟨parameter, values, _, _, rfl⟩

theorem assigned_ne_nil_iff (h : w.entity.WellKeyed) :
    w.entity.assignedColumns.map Column.name ≠ [] ↔
      ∃ column ∈ w.entity.storedColumns, column.name ∉ w.entity.primaryKey.columns := by
  rw [h.assignedColumns_eq, ne_eq, List.map_eq_nil_iff, List.filter_eq_nil_iff]
  simp

theorem grammatical_of_from (h : o.From c f) : o.Grammatical c f := by
  obtain ⟨-, mark, -, hunique, hasks⟩ := h
  constructor
  · intro record hrecord
    obtain rfl := hunique (.insert record) hrecord
    cases hasks with
    | @insert _ w hkind _ hentity =>
        have hwrites : o.Writes (w.entity.insertStatement w.onConflict) :=
          writes_of_body (by rw [hkind]; rfl) (by rw [Operation.body, hkind])
        refine ⟨w, _, hkind, hentity, hwrites, ?_⟩
        rw [Entity.insertStatement, Sql.insertText_iff, ne_eq, List.map_eq_nil_iff]
  · intro record hrecord
    obtain rfl := hunique (.update record) hrecord
    cases hasks with
    | @update _ w hkind _ hentity =>
        obtain ⟨d, -, he⟩ := id hentity
        have hwrites : o.Writes (w.entity.updateStatement w.onConflict) :=
          writes_of_body (by rw [hkind]; rfl) (by rw [Operation.body, hkind])
        refine ⟨w, _, hkind, hentity, hwrites, ?_⟩
        rw [Entity.updateStatement, Sql.updateText_iff, assigned_ne_nil_iff (wellKeyed_of_entityOf he)]
  · intro record hrecord
    obtain rfl := hunique (.delete record) hrecord
    cases hasks with
    | @delete _ w hkind _ hentity =>
        have hwrites : o.Writes w.entity.deleteStatement :=
          writes_of_body (by rw [hkind]; rfl) (by rw [Operation.body, hkind])
        refine ⟨w, _, hkind, hentity, hwrites, ?_⟩
        rw [Entity.deleteStatement, Sql.deleteText_iff]

end Operations

/-- **Statements without an empty list**: a DAO that resolves has one operation for each abstract
function of its trait, in order. Where the function inserts, updates or deletes, its statement follows
the grammar iff the entity has the columns that the statement lists. -/
theorem Dao.statements_grammatical_iff {c : Catalog} {d : Declaration} {dao : Dao}
    (h : c.daoFindings d = .ok dao) :
    List.Forall₂ (fun f o => Operation.function o = f.name ∧ o.Grammatical c f)
      (d.functions.filter Function.isAbstract) dao.operations :=
  (operations_of_daoFindings h).imp fun _ _ hfrom => ⟨hfrom.1, grammatical_of_from hfrom⟩

/-- Labels, which are nothing but their key. -/
def labelCatalog : Catalog where
  declarations :=
    [{ qualifiedName := "app::Label"
       annotations := [{ name := "Entity" }]
       properties :=
        [{ name := "text", type := .ofName "String", annotations := [{ name := "PrimaryKey" }] }] }]
  nodup := by decide

/-- A DAO that updates them. -/
def labelDao : Declaration where
  qualifiedName := "app::LabelDao"
  kind := .trait
  annotations := [{ name := "Dao" }]
  functions :=
    [{ name := "rename"
       parameters := [{ name := "label", type := .ofName "app::Label" }]
       annotations := [{ name := "Update" }] }]

/-- The DAO resolves, and its update assigns nothing: all columns of a label are in the key. -/
theorem Dao.statement_empty_label :
    ∃ dao rename w s, labelCatalog.daoFindings labelDao = .ok dao ∧ dao.operations = [rename] ∧
      rename.kind = .update w ∧ rename.Writes s ∧
      s.text = "UPDATE \x60Label\x60 SET  WHERE \x60text\x60 = ?" ∧ ¬ Sql.UpdateText s.text ∧
      ∀ column ∈ w.entity.storedColumns, column.name ∈ w.entity.primaryKey.columns := by
  have hrun : (labelCatalog.daoFindings labelDao).toOption.map (fun dao =>
      dao.operations.map fun o => o.kind.writeStatement?) =
      some [some (.update .abort "Label" [] ["text"])] := by
    decide +kernel
  obtain ⟨dao, hdao, hstatements⟩ := Option.map_eq_some_iff.mp hrun
  have hresolved := eq_ok_of_toOption hdao
  obtain ⟨rename, hoperations, hstatement⟩ := List.map_eq_singleton_iff.mp hstatements
  have hall : List.Forall₂ _ [labelDao.functions[0]] dao.operations :=
    Dao.statements_grammatical_iff hresolved
  rw [hoperations, List.forall₂_cons] at hall
  obtain ⟨⟨-, hgrammatical⟩, -⟩ := hall
  obtain ⟨w, s, hkind, -, hwrites, hiff⟩ := hgrammatical.update ⟨none, .abort⟩ rfl
  obtain rfl : s = .update .abort "Label" [] ["text"] :=
    Option.some.inj (hwrites.1.symm.trans hstatement)
  have hempty : ¬ Sql.UpdateText (Sql.WriteStatement.update .abort "Label" [] ["text"]).text :=
    Sql.not_updateText_nil
  have hkey : w.entity.primaryKey.columns = ["text"] := by
    rw [hkind] at hstatement
    exact (Sql.WriteStatement.update.inj (Option.some.inj hstatement)).2.2.2
  rw [hiff, hkey] at hempty
  refine ⟨dao, rename, w, _, hresolved, hoperations, hkind, hwrites, by decide, ?_, ?_⟩
  · exact Sql.not_updateText_nil
  · simpa [hkey] using hempty

end DaoForge
