import DaoForge.Mark.Records
import DaoForge.Proofs.Except

/-!
# DaoForge.Proofs.Mark

What a record promises that was read from an annotation.

1. `read_eq_ok_iff`: an annotation is read iff it has the record's name, its attributes can be read and
   every argument was looked at;
2. a record that was found is of an annotation that is there (`isPresent_of_find`), and was parsed, as
   was every record in a list of nested annotations (`parse_of_find`, `parse_of_mem_nestedList`);
3. `IndexMark.Fits`, `ForeignKeyMark.Fits`: an index has columns and an order for each of them or for
   none; a foreign key has as many columns on both sides, and some. Neither can be read otherwise, so
   an entity's annotation lists no others (`fits_of_find`).
-/

namespace DaoForge

/-- Attributes are read one after the other. -/
theorem AttributeReader.bind_eq_ok {α β : Type} {x : AttributeReader α} {f : α → AttributeReader β}
    {taken : List String} {result : β × List String} (h : (x >>= f) taken = .ok result) :
    ∃ a between, x taken = .ok (a, between) ∧ f a between = .ok result := by
  obtain ⟨⟨a, between⟩, hx, hf⟩ := DaoForge.bind_eq_ok h
  exact ⟨a, between, hx, hf⟩

namespace Mark

variable {R : Type} [MarkRecord R]

/-- The value of an attribute is read, and its name is noted. -/
theorem look_eq_ok_iff {α : Type} {a : Mark} {key : String}
    {read : Option MarkValue → Except ValidationError α} {taken : List String} {result : α}
    {taken' : List String} : a.look key read taken = .ok (result, taken') ↔
      read (a.argument? key) = .ok result ∧ taken' = taken ++ [key] := by
  unfold look
  cases hread : read (a.argument? key) with
  | ok found => simp [Except.map, eq_comm]
  | error e => simp [Except.map]

/-- An annotation that is read has the record's name and no argument that was not looked at. -/
theorem read_eq_ok_iff {a : Mark} {record : R} : read R a = .ok record ↔
    a.isNamed (MarkRecord.name R) = true ∧ ∃ taken, MarkRecord.parse a [] = .ok (record, taken) ∧
      ∀ argument ∈ a.arguments, argument.1 ∈ taken := by
  have hunread : ∀ taken, a.unread? taken = none ↔ ∀ argument ∈ a.arguments, argument.1 ∈ taken := by
    intro taken
    simp [unread?]
  constructor
  · intro h
    unfold read at h
    split at h
    · next hnamed =>
      obtain ⟨⟨found, taken⟩, hparse, h⟩ := bind_eq_ok h
      dsimp only at h
      split at h
      · next hnone =>
        cases h
        exact ⟨hnamed, taken, hparse, (hunread taken).mp hnone⟩
      · contradiction
    · contradiction
  · rintro ⟨hnamed, taken, hparse, hall⟩
    have hrun : (MarkRecord.parse a : AttributeReader R).run [] = .ok (record, taken) := hparse
    rw [read, if_pos hnamed, hrun]
    simp only [bind, Except.bind, (hunread taken).mpr hall]
    rfl

theorem parse_of_read {a : Mark} {record : R} (h : read R a = .ok record) :
    ∃ taken, MarkRecord.parse a [] = .ok (record, taken) := by
  obtain ⟨-, taken, hparse, -⟩ := read_eq_ok_iff.mp h
  exact ⟨taken, hparse⟩

theorem parse_of_find {annotations : List Mark} {record : R}
    (h : find R annotations = .ok (some record)) :
    ∃ (a : Mark) (taken : List String), MarkRecord.parse a [] = .ok (record, taken) := by
  unfold find at h
  split at h
  · cases h
  · next a _ =>
    cases hread : read R a with
    | error e =>
        rw [hread] at h
        contradiction
    | ok found =>
        rw [hread] at h
        have heq : found = record := Option.some.inj (Except.ok.inj h)
        rw [← heq]
        exact ⟨a, parse_of_read hread⟩
  · contradiction

theorem isPresent_of_find {annotations : List Mark} {record : R}
    (h : find R annotations = .ok (some record)) :
    isPresent annotations (MarkRecord.name R) = true := by
  unfold find at h
  split at h
  · cases h
  · next mark hfilter =>
    have hmem : mark ∈ annotations.filter (·.isNamed (MarkRecord.name R)) := by simp [hfilter]
    obtain ⟨hmark, hnamed⟩ := List.mem_filter.mp hmem
    exact List.any_eq_true.mpr ⟨mark, hmark, hnamed⟩
  · contradiction

/-- An annotation that was looked for is there iff it was found. -/
theorem isPresent_iff_of_find {annotations : List Mark} {record : Option R}
    (h : find R annotations = .ok record) :
    isPresent annotations (MarkRecord.name R) = true ↔ record.isSome = true := by
  cases record with
  | some record => simp [isPresent_of_find h]
  | none =>
      unfold find at h
      split at h
      · next hfilter =>
        have hnone := List.filter_eq_nil_iff.mp hfilter
        simpa [isPresent] using hnone
      · next a _ => cases hread : read R a <;> simp [hread, Except.map] at h
      · contradiction

theorem parse_of_nestedValue {a : Mark} {key : String} {value : MarkValue} {record : R}
    (h : nestedValue R a key value = .ok record) :
    ∃ (b : Mark) (taken : List String), MarkRecord.parse b [] = .ok (record, taken) := by
  unfold nestedValue at h
  split at h
  · next name arguments => exact ⟨⟨name, arguments⟩, parse_of_read h⟩
  · contradiction

/-- Every item of a list attribute was read. -/
theorem read_of_mem_readItems {α : Type} {a : Mark} {key : String}
    {read : MarkValue → Except ValidationError α} {items : List α} {taken taken' : List String}
    (h : a.readItems key read taken = .ok (items, taken')) {item : α} (hitem : item ∈ items) :
    ∃ value, read value = .ok item := by
  obtain ⟨h, -⟩ := look_eq_ok_iff.mp h
  split at h
  · cases h
    contradiction
  · obtain ⟨value, -, hvalue⟩ := exists_of_forall₂ (forall₂_of_mapM h) hitem
    exact ⟨value, hvalue⟩
  · next value _ _ =>
    obtain ⟨only, honly, h⟩ := bind_eq_ok h
    cases h
    have heq : item = only := List.mem_singleton.mp hitem
    rw [heq]
    exact ⟨value, honly⟩

theorem parse_of_mem_nestedList {a : Mark} {key : String} {records : List R}
    {taken taken' : List String} (h : a.nestedListArgument R key taken = .ok (records, taken'))
    {record : R} (hrecord : record ∈ records) :
    ∃ (b : Mark) (taken : List String), MarkRecord.parse b [] = .ok (record, taken) := by
  obtain ⟨value, hvalue⟩ := read_of_mem_readItems h hrecord
  exact parse_of_nestedValue hvalue

end Mark

/-! ## indices and foreign keys -/

/-- There are columns, and an order for each of them or for none. -/
structure IndexMark.Fits (r : IndexMark) : Prop where
  columns : r.columns ≠ []
  orders : r.orders = [] ∨ r.orders.length = r.columns.length

/-- There are columns, and as many in the parent as in the child. -/
structure ForeignKeyMark.Fits (r : ForeignKeyMark) : Prop where
  columns : r.parentColumns ≠ []
  length : r.parentColumns.length = r.childColumns.length

theorem IndexMark.fits_of_parse {a : Mark} {r : IndexMark} {taken taken' : List String}
    (h : MarkRecord.parse a taken = .ok (r, taken')) : r.Fits := by
  obtain ⟨name, _, -, h⟩ := AttributeReader.bind_eq_ok h
  obtain ⟨unique, _, -, h⟩ := AttributeReader.bind_eq_ok h
  obtain ⟨columns, _, -, h⟩ := AttributeReader.bind_eq_ok h
  split at h
  · contradiction
  next hcolumns =>
  obtain ⟨orders, _, -, h⟩ := AttributeReader.bind_eq_ok h
  split at h
  · contradiction
  next horders =>
  cases h
  constructor
  · simpa using hcolumns
  · have hnone : orders ≠ [] → orders.length = columns.length := by simpa using horders
    by_cases hempty : orders = []
    · exact .inl hempty
    · exact .inr (hnone hempty)

theorem ForeignKeyMark.fits_of_parse {a : Mark} {r : ForeignKeyMark} {taken taken' : List String}
    (h : MarkRecord.parse a taken = .ok (r, taken')) : r.Fits := by
  obtain ⟨written, _, -, h⟩ := AttributeReader.bind_eq_ok h
  obtain ⟨entity, _, -, h⟩ := AttributeReader.bind_eq_ok h
  obtain ⟨parentColumns, _, -, h⟩ := AttributeReader.bind_eq_ok h
  obtain ⟨childColumns, _, -, h⟩ := AttributeReader.bind_eq_ok h
  split at h
  · contradiction
  next hcolumns =>
  obtain ⟨onDelete, _, -, h⟩ := AttributeReader.bind_eq_ok h
  obtain ⟨onUpdate, _, -, h⟩ := AttributeReader.bind_eq_ok h
  obtain ⟨deferred, _, -, h⟩ := AttributeReader.bind_eq_ok h
  cases h
  have hboth : parentColumns ≠ [] ∧ parentColumns.length = childColumns.length := by
    simpa using hcolumns
  exact ⟨hboth.1, hboth.2⟩

/-- What the annotation of an entity lists can be read only if it fits. -/
theorem EntityMark.fits_of_find {annotations : List Mark} {record : EntityMark}
    (h : Mark.find EntityMark annotations = .ok (some record)) :
    (∀ index ∈ record.indices, index.Fits) ∧ ∀ key ∈ record.foreignKeys, key.Fits := by
  obtain ⟨a, taken, h⟩ := Mark.parse_of_find h
  obtain ⟨tableName, _, -, h⟩ := AttributeReader.bind_eq_ok h
  obtain ⟨indices, _, hindices, h⟩ := AttributeReader.bind_eq_ok h
  obtain ⟨ignoredColumns, _, -, h⟩ := AttributeReader.bind_eq_ok h
  obtain ⟨primaryKeys, _, -, h⟩ := AttributeReader.bind_eq_ok h
  obtain ⟨foreignKeys, _, hforeignKeys, h⟩ := AttributeReader.bind_eq_ok h
  cases h
  constructor
  · intro index hindex
    obtain ⟨b, _, hb⟩ := Mark.parse_of_mem_nestedList hindices hindex
    exact IndexMark.fits_of_parse hb
  · intro key hkey
    obtain ⟨b, _, hb⟩ := Mark.parse_of_mem_nestedList hforeignKeys hkey
    exact ForeignKeyMark.fits_of_parse hb

end DaoForge
