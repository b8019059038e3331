import DaoForge.Proofs.Resolve.Consistent
import DaoForge.Sql.Definition

/-!
# DaoForge.Proofs.Sql.KeyClause

The primary key in the statement that creates a table.

1. `Entity.createTable_eq`: the text, with the key read from the entity and not from the flags of its
   columns. The clause stands at the only column of the key, or behind all columns if there are several;
2. `TableDefinition.keys`: the keys that a definition declares, with their strategies;
3. `Call.key_clause_iff`: it declares the entity's key and no other iff the key has a column, and only
   one if it names a strategy. The clause behind the columns has no room for a strategy.
-/

namespace DaoForge

/-! ## text -/

/-- What a key clause says beside its columns. -/
def PrimaryKey.options (key : PrimaryKey) : String :=
  (if key.onConflict = .abort then "" else " ON CONFLICT " ++ Constant.name key.onConflict) ++
    (if key.autoGenerate then " AUTOINCREMENT" else "")

namespace Entity

/-- The definition of a column; the only column of the key has the key clause. -/
def columnText (e : Entity) (c : Column) : String :=
  Sql.quote c.name ++ Sql.clause " " (c.affinity?.bind Affinity.keyword?) ++
    (if e.primaryKey.columns = [c.name] then " PRIMARY KEY" ++ e.primaryKey.options else "") ++
    (if c.isNullable then "" else " NOT NULL") ++ Sql.clause " COLLATE " c.collate.keyword? ++
    Sql.clause " DEFAULT " c.defaultValue

/-- The key clause behind the columns, of a key of several columns. -/
def keyTexts (e : Entity) : List String :=
  if 1 < e.primaryKey.columns.length then
    ["PRIMARY KEY(" ++ Sql.quoteAll e.primaryKey.columns ++ ")"]
  else []

/-- The statement that creates the table of an entity. -/
def tableText (e : Entity) : String :=
  "CREATE TABLE IF NOT EXISTS " ++ Sql.quote e.tableName ++ " (" ++
    Sql.commaList (e.storedColumns.map e.columnText ++ e.keyTexts ++
      e.foreignKeys.map Sql.foreignKeyText) ++ ")"

end Entity

/-! ## declared keys -/

namespace Sql

/-- The key that an item of a table's definition declares. -/
def TableItem.key? : TableItem → Option PrimaryKey
  | .column d => d.key.map fun clause => ⟨[d.name], clause.autoGenerate, clause.onConflict⟩
  | .primaryKey columns => some ⟨columns, false, .abort⟩
  | .foreignKey _ => none

/-- The keys that a table's definition declares. -/
def TableDefinition.keys (d : TableDefinition) : List PrimaryKey := d.items.filterMap TableItem.key?

theorem KeyClause.text_eq (key : PrimaryKey) :
    KeyClause.text ⟨key.onConflict, key.autoGenerate⟩ = " PRIMARY KEY" ++ key.options := by
  have hconflict : clause " ON CONFLICT " (conflictKeyword? key.onConflict) =
      if key.onConflict = .abort then "" else " ON CONFLICT " ++ Constant.name key.onConflict := by
    cases key.onConflict <;> rfl
  rw [KeyClause.text, hconflict, PrimaryKey.options, String.append_assoc]

end Sql

section Entities

variable {e : Entity}

theorem PrimaryKey.isComposite_iff {key : PrimaryKey} :
    key.isComposite = true ↔ 1 < key.columns.length := by
  simp [PrimaryKey.isComposite]

namespace Entity.WellKeyed

variable (h : e.WellKeyed)

include h

/-- A column has the key clause iff it is the only one of the key. -/
theorem inline_iff {c : Column} (hc : c ∈ e.storedColumns) :
    (c.isPrimaryKey && !e.primaryKey.isComposite) = true ↔ e.primaryKey.columns = [c.name] := by
  rw [Bool.and_eq_true, h.flagged c hc, Bool.not_eq_true', PrimaryKey.isComposite,
    decide_eq_false_iff_not]
  constructor
  · rintro ⟨hmem, hlength⟩
    obtain ⟨name, hname⟩ := List.length_eq_one_iff.mp
      (Nat.le_antisymm (Nat.not_lt.mp hlength) (List.length_pos_of_mem hmem))
    rw [hname] at hmem ⊢
    rw [List.mem_singleton.mp hmem]
  · intro hkey
    simp [hkey]

theorem text_ofColumn {c : Column} (hc : c ∈ e.storedColumns) :
    (Sql.ColumnDefinition.ofColumn e.primaryKey c).text = e.columnText c := by
  have hkey : ((Sql.ColumnDefinition.ofColumn e.primaryKey c).key.map Sql.KeyClause.text).getD "" =
      if e.primaryKey.columns = [c.name] then " PRIMARY KEY" ++ e.primaryKey.options else "" := by
    rw [Sql.ColumnDefinition.ofColumn]
    by_cases hkey : e.primaryKey.columns = [c.name]
    · rw [if_pos ((h.inline_iff hc).mpr hkey), if_pos hkey, ← Sql.KeyClause.text_eq]
      rfl
    · rw [if_neg (mt (h.inline_iff hc).mp hkey), if_neg hkey]
      rfl
  rw [Sql.ColumnDefinition.text, hkey]
  rfl

theorem map_text_items : (Sql.TableDefinition.ofEntity e).items.map Sql.TableItem.text =
    e.storedColumns.map e.columnText ++ e.keyTexts ++ e.foreignKeys.map Sql.foreignKeyText := by
  have hcolumns : e.storedColumns.map (Sql.TableItem.text ∘ fun c =>
      .column (.ofColumn e.primaryKey c)) = e.storedColumns.map e.columnText :=
    List.map_congr_left fun c hc => h.text_ofColumn hc
  have hkeys : (if e.primaryKey.isComposite then
      [Sql.TableItem.primaryKey e.primaryKey.columns] else []).map Sql.TableItem.text = e.keyTexts := by
    unfold Entity.keyTexts
    by_cases hkey : 1 < e.primaryKey.columns.length
    · rw [if_pos (PrimaryKey.isComposite_iff.mpr hkey), if_pos hkey]
      rfl
    · rw [if_neg (mt PrimaryKey.isComposite_iff.mp hkey), if_neg hkey]
      rfl
  rw [Sql.TableDefinition.ofEntity, List.map_append, List.map_append, List.map_map, List.map_map,
    hcolumns, hkeys]
  rfl

/-- **The text of a table's definition**, by the key of the entity. -/
theorem createTable_eq : e.createTable = e.tableText := by
  have htable : (Sql.TableDefinition.ofEntity e).table = e.tableName := rfl
  unfold Entity.createTable Entity.tableText Sql.TableDefinition.text
  simp only [htable, h.map_text_items]

end Entity.WellKeyed

/-! ## which keys are declared -/

theorem filterMap_key?_foreignKey (keys : List ForeignKey) :
    (keys.map Sql.TableItem.foreignKey).filterMap Sql.TableItem.key? = [] := by
  rw [List.filterMap_eq_nil_iff, List.forall_mem_map]
  exact fun _ _ => rfl

theorem filterMap_key?_column (key : PrimaryKey) (columns : List Column) :
    (columns.map fun c => Sql.TableItem.column (.ofColumn key c)).filterMap Sql.TableItem.key? =
      if key.isComposite then []
      else (columns.filter Column.isPrimaryKey).map fun c => ⟨[c.name], key.autoGenerate, key.onConflict⟩ := by
  induction columns with
  | nil => simp
  | cons c columns ih =>
      rw [List.map_cons, List.filterMap_cons, ih]
      by_cases hkey : key.isComposite = true
      · simp [Sql.TableItem.key?, Sql.ColumnDefinition.ofColumn, hkey]
      · by_cases hflag : c.isPrimaryKey = true
        · simp [Sql.TableItem.key?, Sql.ColumnDefinition.ofColumn, hkey, hflag]
        · simp [Sql.TableItem.key?, Sql.ColumnDefinition.ofColumn, hkey, hflag]

theorem keys_of_composite (h : e.primaryKey.isComposite = true) :
    (Sql.TableDefinition.ofEntity e).keys = [⟨e.primaryKey.columns, false, .abort⟩] := by
  rw [Sql.TableDefinition.keys, Sql.TableDefinition.ofEntity, List.filterMap_append,
    List.filterMap_append, filterMap_key?_column, filterMap_key?_foreignKey, if_pos h, if_pos h]
  rfl

theorem keys_of_not_composite (h : ¬ e.primaryKey.isComposite = true) :
    (Sql.TableDefinition.ofEntity e).keys = (e.storedColumns.filter Column.isPrimaryKey).map fun c =>
      ⟨[c.name], e.primaryKey.autoGenerate, e.primaryKey.onConflict⟩ := by
  rw [Sql.TableDefinition.keys, Sql.TableDefinition.ofEntity, List.filterMap_append,
    List.filterMap_append, filterMap_key?_column, filterMap_key?_foreignKey, if_neg h, if_neg h,
    List.filterMap_nil, List.append_nil, List.append_nil]

/-- The keys that the table of an entity declares, by the columns of the entity's key. -/
structure Entity.DeclaresKey (e : Entity) : Prop where
  none : e.primaryKey.columns = [] → (Sql.TableDefinition.ofEntity e).keys = []
  single : ∀ name, e.primaryKey.columns = [name] →
    (Sql.TableDefinition.ofEntity e).keys = [e.primaryKey]
  composite : 1 < e.primaryKey.columns.length →
    (Sql.TableDefinition.ofEntity e).keys = [⟨e.primaryKey.columns, false, .abort⟩]

theorem Entity.WellKeyed.declaresKey (h : e.WellKeyed) : e.DeclaresKey where
  none hnone := by
    have hperm := h.flagged_names (by simp [hnone])
    rw [hnone, List.perm_nil, List.map_eq_nil_iff] at hperm
    rw [keys_of_not_composite (by simp [PrimaryKey.isComposite, hnone]), hperm, List.map_nil]
  single name hname := by
    have hperm := h.flagged_names (by simp [hname])
    rw [hname, List.perm_singleton] at hperm
    obtain ⟨c, hc, rfl⟩ := List.map_eq_singleton_iff.mp hperm
    rw [keys_of_not_composite (by simp [PrimaryKey.isComposite, hname]), hc, List.map_singleton, ← hname]
  composite hlength := keys_of_composite (PrimaryKey.isComposite_iff.mpr hlength)

/-- A table declares the key of its entity iff that has a column, and only one if it has a strategy. -/
theorem Entity.WellKeyed.keys_eq_iff (h : e.WellKeyed) :
    (Sql.TableDefinition.ofEntity e).keys = [e.primaryKey] ↔ e.primaryKey.columns ≠ [] ∧
      (1 < e.primaryKey.columns.length → e.primaryKey.onConflict = .abort) := by
  have hdeclares := h.declaresKey
  rcases Nat.lt_or_ge 1 e.primaryKey.columns.length with hlength | hlength
  · have hgenerated : e.primaryKey.autoGenerate = false := by
      by_contra hgenerated
      obtain ⟨name, hname⟩ := h.fits.generated (by simpa using hgenerated)
      simp [hname] at hlength
    have hsame : (⟨e.primaryKey.columns, false, .abort⟩ : PrimaryKey) = e.primaryKey ↔
        e.primaryKey.onConflict = .abort := by
      rw [← hgenerated]
      constructor
      · exact fun heq => (congrArg PrimaryKey.onConflict heq).symm
      · exact fun heq => by rw [← heq]
    rw [hdeclares.composite hlength, List.singleton_inj, hsame]
    have hne := List.ne_nil_of_length_pos (Nat.lt_of_succ_lt hlength)
    simp only [ne_eq, hne, not_false_iff, true_and, hlength, forall_const]
  · by_cases hnone : e.primaryKey.columns = []
    · simp [hdeclares.none hnone, hnone]
    · obtain ⟨name, hname⟩ := List.length_eq_one_iff.mp
        (Nat.le_antisymm hlength (List.length_pos_of_ne_nil hnone))
      simp [hdeclares.single name hname, hname]

end Entities

/-! ## runs -/

namespace Call

/-- **The key clause** of every entity that a run replies with: the text of the table has the key in one
place, at its only column or behind the columns. It is the key of the entity, strategy and all, iff
the key has a column, and only one if it names a strategy. -/
theorem key_clause_iff {c : Catalog} {calls : List Call} {e : Entity}
    (h : .entity (.ok e) ∈ ((calls.mapM (Call.answer c)).run {}).run.1) :
    e.createTable = e.tableText ∧ e.DeclaresKey ∧
      ((Sql.TableDefinition.ofEntity e).keys = [e.primaryKey] ↔ e.primaryKey.columns ≠ [] ∧
        (1 < e.primaryKey.columns.length → e.primaryKey.onConflict = .abort)) := by
  obtain ⟨d, -, hentity⟩ := entityOf_of_reply h
  have hkeyed := wellKeyed_of_entityOf hentity
  exact ⟨hkeyed.createTable_eq, hkeyed.declaresKey, hkeyed.keys_eq_iff⟩

/-- Seats with an embedded key of two columns that is to replace a row. -/
def seatCatalog : Catalog where
  declarations :=
    [{ qualifiedName := "app::Place"
       properties := [{ name := "row", type := .ofName "i64" }, { name := "chair", type := .ofName "i64" }] },
      { qualifiedName := "app::Seat"
        annotations := [{ name := "Entity" }]
        properties :=
          [{ name := "place"
             type := .ofName "app::Place"
             annotations :=
              [{ name := "Embedded" },
                { name := "PrimaryKey", arguments := [("onConflict", .text "REPLACE")] }] }] }]
  nodup := by decide

/-- The table of seats declares the key without its strategy. -/
theorem key_clause_seat :
    ∃ e, .entity (.ok e) ∈ (([.entity "app::Seat"].mapM (Call.answer seatCatalog)).run {}).run.1 ∧
      e.primaryKey = ⟨["row", "chair"], false, .replace⟩ ∧
      (Sql.TableDefinition.ofEntity e).keys = [⟨["row", "chair"], false, .abort⟩] ∧
      (Sql.TableDefinition.ofEntity e).keys ≠ [e.primaryKey] ∧ e.createTable = e.tableText := by
  have hrun : ((seatCatalog.byName (Session.entity seatCatalog) "app::Seat").run
      {}).run.1.toOption.map Entity.primaryKey = some ⟨["row", "chair"], false, .replace⟩ := by
    decide +kernel
  obtain ⟨e, he, hkey⟩ := Option.map_eq_some_iff.mp hrun
  have hreply := mem_replies_of_run he
  obtain ⟨htext, hdeclares, hiff⟩ := key_clause_iff hreply
  have hkeys := hdeclares.composite (by simp [hkey])
  rw [hkey] at hkeys
  refine ⟨e, hreply, hkey, hkeys, ?_, htext⟩
  rw [ne_eq, hiff, hkey]
  decide

end Call

end DaoForge
