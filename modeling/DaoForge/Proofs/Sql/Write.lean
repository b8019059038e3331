import DaoForge.Proofs.Query.Marks
import DaoForge.Sql.Write
import Mathlib.Algebra.GroupWithZero.Nat
import Mathlib.Data.List.Count

/-!
# DaoForge.Proofs.Sql.Write

The text of a statement that writes a row, read back.

1. `ReadsAs s ls`: the text `s` is read as the items `ls` wherever it stands, but in front of a
   backtick. A quoted name is one item, whatever characters it holds (`readsAs_quote`), and text
   that opens nothing is its characters;
2. `WriteStatement.scan_text`: the items of a statement, for any table and columns;
3. `owners_items`: its marks, one after another, are those of the columns whose values are bound.
-/

namespace DaoForge.Sql

open Lexeme

/-! ## texts that are read back -/

/-- The items of a text that opens nothing: its characters. -/
def plain (s : String) : List Lexeme := s.toList.map .other

/-- The item of a quoted name. -/
def identifier (name : String) : Lexeme := .literal (quote name).toList

/-- Items with commas between them. -/
def commas (parts : List (List Lexeme)) : List Lexeme := (plain ", ").intercalate parts

/-- `ReadsAs s ls`: in front of anything but a backtick, the text is read as the items. -/
def ReadsAs (s : String) (ls : List Lexeme) : Prop :=
  ∀ rest : List Char, rest.head? ≠ some '\x60' → ScansTo (s.toList ++ rest) ls rest

theorem escape_eq_doubled (cs : List Char) : escape cs = doubled '\x60' cs := by
  induction cs with
  | nil => rfl
  | cons c cs ih => rw [escape, doubled, ih]

theorem toList_quote (name : String) :
    (quote name).toList = '\x60' :: (doubled '\x60' name.toList ++ ['\x60']) := by
  simp [quote, escape_eq_doubled]

/-- A quoted name is one item. -/
theorem readsAs_quote (name : String) : ReadsAs (quote name) [identifier name] := by
  intro rest hrest
  have hitem : Item ('\x60' :: (doubled '\x60' name.toList ++ '\x60' :: rest)) _ rest :=
    .literal (by decide) hrest
  rw [identifier, toList_quote]
  refine .single ?_
  simpa using plainFront_of_item hitem rfl

section ReadsAs

variable {s t u : String} {as bs : List Lexeme}

theorem readsAs_plain (h : ∀ c ∈ s.toList, Plain c) : ReadsAs s (plain s) :=
  fun rest _ => scansTo_plain h rest

/-- Text that opens nothing may stand in front of a backtick too. -/
theorem ReadsAs.plain_append (hs : ∀ c ∈ s.toList, Plain c) (ht : ReadsAs t bs) :
    ReadsAs (s ++ t) (plain s ++ bs) := by
  intro rest hrest
  rw [String.toList_append, List.append_assoc]
  exact scansTo_append (scansTo_plain hs _) (ht _ hrest)

/-- Text that opens nothing keeps two texts apart. -/
theorem ReadsAs.between (hs : ReadsAs s as) (ht : ∀ c ∈ t.toList, Plain c) (hne : t ≠ "")
    (hu : ReadsAs u bs) : ReadsAs (s ++ (t ++ u)) (as ++ (plain t ++ bs)) := by
  intro rest hrest
  have hnext : ((t ++ u).toList ++ rest).head? ≠ some '\x60' := by
    have hback : ¬ Plain '\x60' := by decide
    cases hcs : t.toList with
    | nil => exact absurd (String.toList_eq_nil_iff.mp hcs) hne
    | cons c cs =>
        rw [String.toList_append, hcs]
        intro hc
        obtain rfl : c = '\x60' := Option.some.inj hc
        exact hback (ht _ (hcs ▸ List.mem_cons_self))
  rw [String.toList_append, List.append_assoc]
  exact scansTo_append (hs _ hnext) (ReadsAs.plain_append ht hu rest hrest)

/-- Texts with a separator between them. -/
theorem readsAs_intercalate {α : Type} {text : α → String} {items : α → List Lexeme}
    (ht : ∀ c ∈ t.toList, Plain c) (hne : t ≠ "") (xs : List α)
    (h : ∀ x ∈ xs, ReadsAs (text x) (items x)) :
    ReadsAs (t.intercalate (xs.map text)) ((plain t).intercalate (xs.map items)) := by
  induction xs with
  | nil => exact fun rest _ => .nil
  | cons x xs ih =>
      obtain ⟨hx, hxs⟩ := List.forall_mem_cons.mp h
      cases xs with
      | nil => simpa using hx
      | cons y ys =>
          have hrest := hx.between ht hne (ih hxs)
          rw [List.map_cons, List.map_cons, List.map_cons, List.map_cons,
            String.intercalate_cons_cons, List.intercalate_cons_cons, String.append_assoc,
            List.append_assoc]
          exact hrest

/-- Text that opens nothing may end a text. -/
theorem ReadsAs.append_plain (hs : ReadsAs s as) (ht : ∀ c ∈ t.toList, Plain c) (hne : t ≠ "") :
    ReadsAs (s ++ t) (as ++ plain t) := by
  have hend : ReadsAs "" [] := fun rest _ => .nil
  simpa using hs.between ht hne hend

end ReadsAs

/-! ## statements -/

section Items

/-- The items of a column set to, or compared with, a value. -/
def equalsItems (column : String) : List Lexeme := identifier column :: plain " = ?"

/-- The items of a condition on the key. -/
def keyItems (key : List String) : List Lexeme := (plain " AND ").intercalate (key.map equalsItems)

/-- The items of a statement. -/
def WriteStatement.items : WriteStatement → List Lexeme
  | .insert onConflict table items =>
    plain "INSERT " ++ plain (orClause onConflict) ++ plain "INTO " ++ [identifier table] ++
      plain " (" ++ commas (items.map fun i => [identifier i.column]) ++ plain ") VALUES (" ++
      commas (items.map fun i => plain i.value) ++ plain ")"
  | .update onConflict table assigned key =>
    plain "UPDATE " ++ plain (orClause onConflict) ++ [identifier table] ++ plain " SET " ++
      commas (assigned.map equalsItems) ++ plain " WHERE " ++ keyItems key
  | .delete table key =>
    plain "DELETE FROM " ++ [identifier table] ++ plain " WHERE " ++ keyItems key

theorem plain_orClause (strategy : ConflictStrategy) :
    ∀ c ∈ (orClause strategy).toList, Plain c := by
  cases strategy <;> decide

theorem readsAs_equals (column : String) : ReadsAs (equals column) (equalsItems column) :=
  (readsAs_quote column).append_plain (by decide) (by decide)

theorem readsAs_keyCondition (key : List String) : ReadsAs (keyCondition key) (keyItems key) :=
  readsAs_intercalate (by decide) (by decide) key fun column _ => readsAs_equals column

theorem readsAs_commaList {α : Type} {text : α → String} {items : α → List Lexeme} (xs : List α)
    (h : ∀ x ∈ xs, ReadsAs (text x) (items x)) :
    ReadsAs (commaList (xs.map text)) (commas (xs.map items)) :=
  readsAs_intercalate (by decide) (by decide) xs h

theorem readsAs_quoteAll {α : Type} (name : α → String) (xs : List α) :
    ReadsAs (quoteAll (xs.map name)) (commas (xs.map fun x => [identifier (name x)])) := by
  rw [quoteAll, List.map_map]
  exact readsAs_commaList xs fun x _ => readsAs_quote (name x)

theorem readsAs_valueList (items : List InsertItem) :
    ReadsAs (commaList (items.map InsertItem.value)) (commas (items.map fun i => plain i.value)) := by
  refine readsAs_commaList items fun i _ => readsAs_plain ?_
  unfold InsertItem.value
  split <;> decide

theorem readsAs_text (s : WriteStatement) : ReadsAs s.text s.items := by
  cases s with
  | insert onConflict table items =>
      have hvalues := (readsAs_valueList items).append_plain (t := ")") (by decide) (by decide)
      have hcolumns := (readsAs_quoteAll InsertItem.column items).between (t := ") VALUES (")
        (by decide) (by decide) hvalues
      have htable := (readsAs_quote table).between (t := " (") (by decide) (by decide) hcolumns
      have hobject := ReadsAs.plain_append (s := "INTO ") (by decide) htable
      have hverb := ReadsAs.plain_append (s := "INSERT ") (by decide)
        (ReadsAs.plain_append (plain_orClause onConflict) hobject)
      unfold WriteStatement.text WriteStatement.items
      simp only [String.append_assoc, List.append_assoc]
      exact hverb
  | update onConflict table assigned key =>
      have hassigned := (readsAs_commaList assigned fun c _ => readsAs_equals c).between (t := " WHERE ")
        (by decide) (by decide) (readsAs_keyCondition key)
      have htable := (readsAs_quote table).between (t := " SET ") (by decide) (by decide) hassigned
      have hverb := ReadsAs.plain_append (s := "UPDATE ") (by decide)
        (ReadsAs.plain_append (plain_orClause onConflict) htable)
      unfold WriteStatement.text WriteStatement.items
      simp only [String.append_assoc, List.append_assoc]
      exact hverb
  | delete table key =>
      have htable := (readsAs_quote table).between (t := " WHERE ") (by decide) (by decide)
        (readsAs_keyCondition key)
      have hverb := ReadsAs.plain_append (s := "DELETE FROM ") (by decide) htable
      unfold WriteStatement.text WriteStatement.items
      simp only [String.append_assoc, List.append_assoc]
      exact hverb

/-- A statement is read to its end, whatever its table and columns are called. -/
theorem WriteStatement.scan_text (s : WriteStatement) : scan s.text.toList = .ok s.items := by
  have hread := readsAs_text s [] (by simp)
  rw [List.append_nil] at hread
  exact scan_eq_ok_iff.mpr hread

end Items

/-! ## marks -/

section Marks

/-- The name that an item quotes. -/
def literal? : Lexeme → Option (List Char)
  | .literal chars => some chars
  | _ => none

/-- For each mark, in order, the literal that was read last before it. -/
def namedBefore (last : List Char) : List Lexeme → List (List Char)
  | [] => []
  | .literal chars :: ls => namedBefore chars ls
  | l :: ls => if l = .other '?' then last :: namedBefore last ls else namedBefore last ls

/-- The literal that was read last. -/
def lastNamed (last : List Char) : List Lexeme → List Char
  | [] => last
  | .literal chars :: ls => lastNamed chars ls
  | _ :: ls => lastNamed last ls

/-- The names that the values of a statement go to: an insert lists its columns behind the table,
elsewhere a column stands before its mark. -/
def WriteStatement.owners : WriteStatement → List Lexeme → List (List Char)
  | .insert _ _ _, ls => (ls.filterMap literal?).tail
  | .update _ _ _ _, ls | .delete _ _, ls => namedBefore [] ls

/-! ### how many -/

theorem marks_plain (s : String) : marks (plain s) = s.toList.count '?' := by
  have hinjective : Function.Injective Lexeme.other := fun _ _ h => Lexeme.other.inj h
  rw [marks, plain, List.count_map_of_injective _ _ hinjective]

theorem marks_fixed {s : String} (h : '?' ∉ s.toList) : marks (plain s) = 0 := by
  rw [marks_plain, List.count_eq_zero.mpr h]

theorem marks_identifier (name : String) : marks [identifier name] = 0 :=
  List.count_eq_zero.mpr (by simp [identifier])

theorem marks_intercalate {separator : List Lexeme} (h : marks separator = 0)
    (parts : List (List Lexeme)) : marks (separator.intercalate parts) = (parts.map marks).sum := by
  induction parts with
  | nil => rfl
  | cons part parts ih =>
      cases parts with
      | nil => simp
      | cons next parts =>
          rw [List.intercalate_cons_cons, marks_append, marks_append, h, ih, Nat.add_zero]
          rfl

/-- Parts with equally many marks. -/
theorem marks_intercalate_map {α : Type} {separator : String} {part : α → List Lexeme} {n : Nat}
    (h : '?' ∉ separator.toList) (hpart : ∀ a, marks (part a) = n) (as : List α) :
    marks ((plain separator).intercalate (as.map part)) = as.length * n := by
  have hsame : as.map (marks ∘ part) = as.map fun _ => n := List.map_congr_left fun a _ => hpart a
  rw [marks_intercalate (marks_fixed h), List.map_map, hsame, List.map_const',
    List.sum_replicate_nat]

theorem marks_equalsItems (column : String) : marks (equalsItems column) = 1 := by
  have hmark : marks (plain " = ?") = 1 := by
    rw [marks_plain]
    rfl
  rw [equalsItems, ← List.singleton_append, marks_append, marks_identifier, hmark]

theorem marks_value (i : InsertItem) : marks (plain i.value) = 1 := by
  rw [marks_plain, InsertItem.value]
  split <;> rfl

theorem marks_orClause (strategy : ConflictStrategy) : marks (plain (orClause strategy)) = 0 := by
  cases strategy <;> exact marks_fixed (by decide)

theorem marks_keyItems (key : List String) : marks (keyItems key) = key.length := by
  rw [keyItems, marks_intercalate_map (by decide) marks_equalsItems, Nat.mul_one]

/-- A statement has one mark for each value. -/
theorem WriteStatement.marks_items (s : WriteStatement) : marks s.items = s.boundColumns.length := by
  cases s with
  | insert onConflict table items =>
      have hcolumns : marks (commas (items.map fun i => [identifier i.column])) = items.length * 0 :=
        marks_intercalate_map (by decide) (fun i : InsertItem => marks_identifier i.column) items
      have hvalues : marks (commas (items.map fun i => plain i.value)) = items.length * 1 :=
        marks_intercalate_map (by decide) marks_value items
      simp (disch := decide) only [WriteStatement.items, boundColumns, marks_append, marks_fixed,
        marks_orClause, marks_identifier, hcolumns, hvalues, List.length_map]
      omega
  | update onConflict table assigned key =>
      have hassigned : marks (commas (assigned.map equalsItems)) = assigned.length * 1 :=
        marks_intercalate_map (by decide) marks_equalsItems assigned
      simp (disch := decide) only [WriteStatement.items, boundColumns, marks_append, marks_fixed,
        marks_orClause, marks_identifier, hassigned, marks_keyItems, List.length_append]
      omega
  | delete table key =>
      simp (disch := decide) only [WriteStatement.items, boundColumns, marks_append, marks_fixed,
        marks_identifier, marks_keyItems]
      omega

/-! ### whose they are -/

theorem filterMap_literal?_plain (s : String) : (plain s).filterMap literal? = [] := by
  rw [List.filterMap_eq_nil_iff]
  intro l hl
  obtain ⟨c, -, rfl⟩ := List.mem_map.mp hl
  rfl

theorem filterMap_literal?_commas {α : Type} (part : α → List Lexeme) (as : List α) :
    (commas (as.map part)).filterMap literal? = as.flatMap fun a => (part a).filterMap literal? := by
  rw [commas]
  induction as with
  | nil => rfl
  | cons a as ih =>
      cases as with
      | nil => simp
      | cons b as =>
          rw [List.map_cons, List.map_cons, List.intercalate_cons_cons, List.filterMap_append,
            List.filterMap_append, filterMap_literal?_plain, List.append_nil, ← List.map_cons, ih,
            List.flatMap_cons]
          rfl

/-- The literals of a list of quoted names are the names. -/
theorem filterMap_literal?_names {α : Type} (name : α → String) (as : List α) :
    (commas (as.map fun a => [identifier (name a)])).filterMap literal? =
      as.map fun a => (quote (name a)).toList := by
  rw [filterMap_literal?_commas]
  exact List.map_eq_flatMap.symm

theorem namedBefore_append (last : List Char) (as bs : List Lexeme) :
    namedBefore last (as ++ bs) = namedBefore last as ++ namedBefore (lastNamed last as) bs := by
  induction as generalizing last with
  | nil => rfl
  | cons l as ih =>
      cases l with
      | literal chars => exact ih chars
      | comment chars => exact ih last
      | placeholder name => exact ih last
      | other c =>
          simp only [List.cons_append, namedBefore, lastNamed]
          split
          · rw [ih last, List.cons_append]
          · exact ih last

theorem namedBefore_fixed (last : List Char) {s : String} (h : '?' ∉ s.toList) :
    namedBefore last (plain s) = [] := by
  unfold plain
  generalize s.toList = cs at h
  induction cs with
  | nil => rfl
  | cons c cs ih =>
      obtain ⟨hc, hcs⟩ := List.ne_and_not_mem_of_not_mem_cons h
      have hmark : Lexeme.other c ≠ .other '?' := fun heq => hc (Lexeme.other.inj heq).symm
      simp only [List.map_cons, namedBefore, if_neg hmark]
      exact ih hcs

theorem namedBefore_equalsItems (last : List Char) (column : String) (ls : List Lexeme) :
    namedBefore last (equalsItems column ++ ls) =
      (quote column).toList :: namedBefore (quote column).toList ls := rfl

theorem namedBefore_intercalate {separator : String} (h : '?' ∉ separator.toList)
    (last : List Char) (columns : List String) :
    namedBefore last ((plain separator).intercalate (columns.map equalsItems)) =
      columns.map fun column => (quote column).toList := by
  induction columns generalizing last with
  | nil => rfl
  | cons column columns ih =>
      cases columns with
      | nil => exact namedBefore_equalsItems last column []
      | cons next columns =>
          rw [List.map_cons, List.map_cons, List.intercalate_cons_cons, List.append_assoc,
            namedBefore_equalsItems, namedBefore_append, namedBefore_fixed _ h, List.nil_append,
            ← List.map_cons, ih]
          rfl

/-- The marks of a statement, in order, are those of the columns whose values are bound. -/
theorem WriteStatement.owners_items (s : WriteStatement) :
    s.owners s.items = s.boundColumns.map fun column => (quote column).toList := by
  cases s with
  | insert onConflict table items =>
      have hcolumns := filterMap_literal?_names InsertItem.column items
      have hvalues : (commas (items.map fun i => plain i.value)).filterMap literal? = [] := by
        simp [filterMap_literal?_commas, filterMap_literal?_plain]
      have htable : [identifier table].filterMap literal? = [(quote table).toList] := rfl
      simp only [owners, WriteStatement.items, boundColumns, List.filterMap_append,
        filterMap_literal?_plain, hcolumns, hvalues, htable, List.nil_append, List.append_nil,
        List.singleton_append, List.tail_cons, List.map_map]
      rfl
  | update onConflict table assigned key =>
      have hclause (last : List Char) : namedBefore last (plain (orClause onConflict)) = [] := by
        cases onConflict <;> exact namedBefore_fixed _ (by decide)
      have hcomma : '?' ∉ ", ".toList := by decide
      have hand : '?' ∉ " AND ".toList := by decide
      have htable (last : List Char) : namedBefore last [identifier table] = [] := rfl
      simp (disch := decide) only [owners, WriteStatement.items, boundColumns, namedBefore_append,
        namedBefore_fixed, hclause, htable, commas, keyItems, namedBefore_intercalate hcomma,
        namedBefore_intercalate hand, List.nil_append, List.map_append, List.append_nil]
  | delete table key =>
      have hand : '?' ∉ " AND ".toList := by decide
      have htable (last : List Char) : namedBefore last [identifier table] = [] := rfl
      simp (disch := decide) only [owners, WriteStatement.items, boundColumns, namedBefore_append,
        namedBefore_fixed, htable, keyItems, namedBefore_intercalate hand, List.nil_append]

end Marks

end DaoForge.Sql
