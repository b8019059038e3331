import DaoForge.Proofs.Sql.Write

/-!
# DaoForge.Proofs.Sql.Grammar

The grammar of the statements that write a row:

```
INSERT [OR s] INTO q (q, ..) VALUES (v, ..)
UPDATE [OR s] q SET q = ?, .. WHERE q = ? AND ..
DELETE FROM q WHERE q = ? AND ..
```

where `q` is a quoted name, `v` a placeholder or `nullif(?, 0)`, and no list is empty. A statement
follows it iff none of its own lists is empty (`insertText_iff`, `updateText_iff`, `deleteText_iff`):
nothing else in the text, whatever the table is called, can be taken for an item.
-/

namespace DaoForge.Sql

open Lexeme

/-! ## grammar -/

/-- One or more texts with the separator between them. -/
inductive Listing (separator : String) (item : String → Prop) : String → Prop where
  | one {s : String} (h : item s) : Listing separator item s
  | more {s t : String} (h : item s) (rest : Listing separator item t) :
      Listing separator item (s ++ separator ++ t)

def IsIdentifier (s : String) : Prop := ∃ name, s = quote name

/-- A column set to, or compared with, a placeholder. -/
def IsAssignment (s : String) : Prop := ∃ name, s = quote name ++ " = ?"

def IsValue (s : String) : Prop := s = "?" ∨ s = "nullif(?, 0)"

/-- A strategy, or nothing. -/
def IsConflict (s : String) : Prop :=
  s = "" ∨ ∃ strategy : ConflictStrategy, s = "OR " ++ Constant.name strategy ++ " "

inductive InsertText : String → Prop where
  | mk {conflict table columns values : String} (hconflict : IsConflict conflict)
      (htable : IsIdentifier table) (hcolumns : Listing ", " IsIdentifier columns)
      (hvalues : Listing ", " IsValue values) :
      InsertText ("INSERT " ++ conflict ++ "INTO " ++ table ++ " (" ++ columns ++ ") VALUES (" ++
        values ++ ")")

inductive UpdateText : String → Prop where
  | mk {conflict table assigned key : String} (hconflict : IsConflict conflict)
      (htable : IsIdentifier table) (hassigned : Listing ", " IsAssignment assigned)
      (hkey : Listing " AND " IsAssignment key) :
      UpdateText ("UPDATE " ++ conflict ++ table ++ " SET " ++ assigned ++ " WHERE " ++ key)

inductive DeleteText : String → Prop where
  | mk {table key : String} (htable : IsIdentifier table) (hkey : Listing " AND " IsAssignment key) :
      DeleteText ("DELETE FROM " ++ table ++ " WHERE " ++ key)

/-! ## lists that are not empty -/

section Lists

theorem isConflict_orClause (strategy : ConflictStrategy) : IsConflict (orClause strategy) := by
  cases strategy with
  | abort => exact .inl rfl
  | replace => exact .inr ⟨.replace, rfl⟩
  | ignore => exact .inr ⟨.ignore, rfl⟩
  | rollback => exact .inr ⟨.rollback, rfl⟩
  | fail => exact .inr ⟨.fail, rfl⟩

theorem listing_intercalate {α : Type} {separator : String} {item : String → Prop} {text : α → String}
    (hitem : ∀ x, item (text x)) {xs : List α} (hne : xs ≠ []) :
    Listing separator item (separator.intercalate (xs.map text)) := by
  induction xs with
  | nil => contradiction
  | cons x xs ih =>
      cases xs with
      | nil => simpa using Listing.one (hitem x)
      | cons y ys =>
          have hrest := ih (List.cons_ne_nil y ys)
          rw [List.map_cons, List.map_cons, String.intercalate_cons_cons, ← List.map_cons]
          exact .more (hitem x) hrest

theorem listing_identifiers {names : List String} (hne : names ≠ []) :
    Listing ", " IsIdentifier (quoteAll names) :=
  listing_intercalate (fun name => ⟨name, rfl⟩) hne

theorem listing_assignments {separator : String} {columns : List String} (hne : columns ≠ []) :
    Listing separator IsAssignment (separator.intercalate (columns.map equals)) :=
  listing_intercalate (fun column => ⟨column, rfl⟩) hne

theorem listing_values {items : List InsertItem} (hne : items ≠ []) :
    Listing ", " IsValue (commaList (items.map InsertItem.value)) := by
  refine listing_intercalate (fun i => ?_) hne
  cases h : i.isGenerated with
  | false => exact .inl (by simp [InsertItem.value, h])
  | true => exact .inr (by simp [InsertItem.value, h])

end Lists

/-! ## how texts end -/

/-- The last character of the text. -/
def EndsIn (c : Char) (s : String) : Prop := s.toList.getLast? = some c

theorem EndsIn.append {c : Char} {t : String} (h : EndsIn c t) (s : String) : EndsIn c (s ++ t) := by
  rw [EndsIn, String.toList_append, List.getLast?_append, h]
  rfl

theorem EndsIn.append_empty {c : Char} {s : String} (h : EndsIn c s) : EndsIn c (s ++ "") := by
  rw [String.append_empty]
  exact h

theorem Listing.endsIn {separator : String} {item : String → Prop} {P : Char → Prop}
    (hitem : ∀ s, item s → ∃ c, EndsIn c s ∧ P c) {s : String} (h : Listing separator item s) :
    ∃ c, EndsIn c s ∧ P c := by
  induction h with
  | one h => exact hitem _ h
  | more _ _ ih =>
      obtain ⟨c, hc, hP⟩ := ih
      exact ⟨c, hc.append _, hP⟩

theorem endsIn_assignments {separator s : String} (h : Listing separator IsAssignment s) :
    EndsIn '?' s := by
  have hitem : ∀ s, IsAssignment s → ∃ c, EndsIn c s ∧ c = '?' := by
    rintro _ ⟨name, rfl⟩
    exact ⟨'?', EndsIn.append (t := " = ?") rfl _, rfl⟩
  obtain ⟨c, hc, rfl⟩ := h.endsIn hitem
  exact hc

theorem endsIn_values {s : String} (h : Listing ", " IsValue s) :
    ∃ c, EndsIn c s ∧ c ≠ '(' := by
  refine h.endsIn ?_
  rintro _ (rfl | rfl)
  · exact ⟨'?', rfl, by decide⟩
  · exact ⟨')', rfl, by decide⟩

theorem InsertText.endsIn {front : String} (h : InsertText (front ++ ")")) :
    ∃ c, EndsIn c front ∧ c ≠ '(' := by
  generalize hsame : front ++ ")" = s at h
  obtain ⟨-, -, -, hvalues⟩ := h
  obtain ⟨c, hc, hne⟩ := endsIn_values hvalues
  rw [String.append_left_inj] at hsame
  rw [hsame]
  exact ⟨c, hc.append _, hne⟩

theorem UpdateText.endsIn {s : String} (h : UpdateText s) : EndsIn '?' s := by
  obtain ⟨-, -, -, hkey⟩ := h
  exact (endsIn_assignments hkey).append _

theorem DeleteText.endsIn {s : String} (h : DeleteText s) : EndsIn '?' s := by
  obtain ⟨-, hkey⟩ := h
  exact (endsIn_assignments hkey).append _

theorem EndsIn.unique {c c' : Char} {s : String} (h : EndsIn c s) (h' : EndsIn c' s) : c = c' :=
  Option.some.inj (h.symm.trans h')

/-! ## statements -/

/-- What follows the first quoted name. -/
def afterLiteral : List Lexeme → List Lexeme
  | [] => []
  | .literal _ :: ls => ls
  | _ :: ls => afterLiteral ls

section Statements

variable {table : String}

theorem afterLiteral_plain (s : String) (ls : List Lexeme) :
    afterLiteral (plain s ++ ls) = afterLiteral ls := by
  unfold plain
  induction s.toList with
  | nil => rfl
  | cons c cs ih => simpa [afterLiteral] using ih

theorem afterLiteral_identifier (name : String) (ls : List Lexeme) :
    afterLiteral (identifier name :: ls) = ls := rfl

theorem plain_of_isConflict {s : String} (h : IsConflict s) : ∀ c ∈ s.toList, Plain c := by
  obtain rfl | ⟨strategy, rfl⟩ := h
  · simp
  · cases strategy <;> decide

/-- A list of assignments is read with a quoted name in front. -/
theorem readsAs_assignments {separator s : String} (hplain : ∀ c ∈ separator.toList, Plain c)
    (hne : separator ≠ "") (h : Listing separator IsAssignment s) :
    ∃ name ls, ReadsAs s (identifier name :: ls) := by
  induction h with
  | one h =>
      obtain ⟨name, rfl⟩ := h
      exact ⟨name, _, readsAs_equals name⟩
  | more h _ ih =>
      obtain ⟨name, rfl⟩ := h
      obtain ⟨next, ls, hrest⟩ := ih
      have hboth := (readsAs_equals name).between hplain hne hrest
      rw [← String.append_assoc] at hboth
      exact ⟨name, _, hboth⟩

theorem insertText_iff {strategy : ConflictStrategy} {items : List InsertItem} :
    InsertText (WriteStatement.insert strategy table items).text ↔ items ≠ [] := by
  constructor
  · rintro h rfl
    obtain ⟨c, hc, hne⟩ := h.endsIn
    exact hne (hc.unique (EndsIn.append (t := ") VALUES (") rfl _).append_empty)
  · intro hne
    have hcolumns : items.map InsertItem.column ≠ [] := by simpa using hne
    exact .mk (isConflict_orClause strategy) ⟨table, rfl⟩ (listing_identifiers hcolumns)
      (listing_values hne)

/-- An update without an assignment is no update: its table is followed by a condition at once. -/
theorem not_updateText_nil {strategy : ConflictStrategy} {key : List String} :
    ¬ UpdateText (WriteStatement.update strategy table [] key).text := by
  intro h
  have hown := (WriteStatement.update strategy table [] key).scan_text
  generalize (WriteStatement.update strategy table [] key).text = text at h hown
  obtain @⟨conflict, _, assigned, condition, hconflict, ⟨name, rfl⟩, hassigned, hkey⟩ := h
  obtain ⟨first, ls, hfirst⟩ := readsAs_assignments (by decide) (by decide) hassigned
  obtain ⟨next, ls', hnext⟩ := readsAs_assignments (by decide) (by decide) hkey
  have hbody := (readsAs_quote name).between (t := " SET ") (by decide) (by decide)
    (hfirst.between (t := " WHERE ") (by decide) (by decide) hnext)
  have hverb := ReadsAs.plain_append (s := "UPDATE ") (by decide)
    (ReadsAs.plain_append (plain_of_isConflict hconflict) hbody)
  have hread := hverb [] (by simp)
  rw [List.append_nil, ← scan_eq_ok_iff] at hread
  simp only [String.append_assoc] at hown
  rw [hread] at hown
  have hafter := congrArg afterLiteral (Except.ok.inj hown)
  simp only [WriteStatement.items, afterLiteral_plain, List.append_assoc, List.cons_append,
    List.nil_append, afterLiteral_identifier, List.map_nil, commas, List.intercalate_nil,
    List.append_cancel_left_eq] at hafter
  cases List.head_eq_of_cons_eq hafter

theorem updateText_iff {strategy : ConflictStrategy} {assigned key : List String} :
    UpdateText (WriteStatement.update strategy table assigned key).text ↔
      assigned ≠ [] ∧ key ≠ [] := by
  constructor
  · intro h
    constructor
    · rintro rfl
      exact not_updateText_nil h
    · rintro rfl
      have hend : EndsIn ' ' (WriteStatement.update strategy table assigned []).text :=
        (EndsIn.append (t := " WHERE ") rfl _).append_empty
      exact nomatch h.endsIn.unique hend
  · rintro ⟨hassigned, hkey⟩
    exact .mk (isConflict_orClause strategy) ⟨table, rfl⟩ (listing_assignments hassigned)
      (listing_assignments hkey)

theorem deleteText_iff {key : List String} :
    DeleteText (WriteStatement.delete table key).text ↔ key ≠ [] := by
  constructor
  · rintro h rfl
    have hend : EndsIn ' ' (WriteStatement.delete table []).text :=
      (EndsIn.append (t := " WHERE ") rfl _).append_empty
    exact nomatch h.endsIn.unique hend
  · exact fun hne => .mk ⟨table, rfl⟩ (listing_assignments hne)

end Statements

end DaoForge.Sql
