import DaoForge.Proofs.Sql.Write
import Mathlib.Data.List.Basic

/-!
# DaoForge.Proofs.Sql.Identifier

Quoted names keep to themselves, whatever characters the names hold.

1. `unquote` takes a quoted name apart again (`unquote_quote`);
2. `front_backtick_iff`: behind a backtick the scanner finds quoted names, and nothing else;
3. `literals_quoteAll`: a list of quoted names is read as these names, so no two lists look alike.
-/

namespace DaoForge.Sql

open Lexeme

/-! ## taking quotes away -/

/-- Reads two backticks as one. -/
def undouble : List Char → List Char
  | '\x60' :: '\x60' :: rest => '\x60' :: undouble rest
  | c :: rest => c :: undouble rest
  | [] => []

/-- The name between the outer backticks. -/
def unquote (quoted : String) : String := String.ofList (undouble quoted.toList.tail.dropLast)

theorem undouble_cons {c : Char} (hc : c ≠ '\x60') (rest : List Char) :
    undouble (c :: rest) = c :: undouble rest := by
  rw [undouble]
  rintro tail hback
  exact absurd hback hc

theorem undouble_doubled (cs : List Char) : undouble (doubled '\x60' cs) = cs := by
  induction cs with
  | nil => rfl
  | cons c cs ih =>
      by_cases hc : c = '\x60'
      · rw [doubled, if_pos hc, hc, undouble, ih]
      · rw [doubled, if_neg hc, undouble_cons hc, ih]

theorem unquote_quote (name : String) : unquote (quote name) = name := by
  rw [unquote, toList_quote, List.tail_cons, List.dropLast_concat, undouble_doubled,
    String.ofList_toList]

theorem quote_injective : Function.Injective quote :=
  Function.LeftInverse.injective unquote_quote

/-! ## reading -/

/-- Behind a backtick the scanner finds a quoted name, and the text that follows it. -/
theorem front_backtick_iff {cs chars rest : List Char} :
    front ('\x60' :: cs) = .lexeme (.literal chars) rest ↔
      ∃ name, chars = (quote name).toList ∧ '\x60' :: cs = chars ++ rest ∧
        rest.head? ≠ some '\x60' := by
  rw [front_quote (by decide), literalFront]
  constructor
  · intro h
    cases hread : quotedBody '\x60' cs with
    | none => simp [hread] at h
    | some read =>
        obtain ⟨body, tail⟩ := read
        obtain ⟨content, htail, rfl, rfl⟩ := quotedBody_eq_some_iff.mp hread
        rw [hread] at h
        simp only [Front.lexeme.injEq, Lexeme.literal.injEq] at h
        obtain ⟨rfl, rfl⟩ := h
        exact ⟨String.ofList content, by simp [toList_quote], by simp, htail⟩
  · rintro ⟨name, rfl, hcs, hrest⟩
    rw [toList_quote] at hcs
    obtain rfl : cs = doubled '\x60' name.toList ++ '\x60' :: rest := by simpa using hcs
    rw [quotedBody_doubled _ _ hrest, toList_quote]

theorem front_quote_append (name : String) {text : String} (htext : text.toList.head? ≠ some '\x60') :
    front (quote name ++ text).toList = .lexeme (.literal (quote name).toList) text.toList := by
  rw [String.toList_append, toList_quote]
  exact front_backtick_iff.mpr ⟨name, (toList_quote name).symm, rfl, htext⟩

/-- Read back, a list of quoted names has these names and no other literal. -/
theorem literals_quoteAll (names : List String) :
    (scan (quoteAll names).toList).map (List.filterMap literal?) =
      .ok (names.map fun name => (quote name).toList) := by
  have hread := readsAs_quoteAll id names [] (by simp)
  rw [List.append_nil, List.map_id, ← scan_eq_ok_iff] at hread
  rw [hread]
  exact congrArg Except.ok (filterMap_literal?_names id names)

theorem quoteAll_injective : Function.Injective quoteAll := by
  intro names others hsame
  have hnames := literals_quoteAll names
  rw [hsame, literals_quoteAll others] at hnames
  have hinjective : Function.Injective fun name => (quote name).toList :=
    fun _ _ heq => quote_injective (String.toList_inj.mp heq)
  exact (List.map_injective_iff.mpr hinjective (Except.ok.inj hnames)).symm

/-- **Quoting.** A quoted name is read to its end and no further, unless another backtick follows, and it gives
the name back; and two lists of quoted names are equal only if the names are. -/
theorem quoted_names_apart :
    (∀ name text : String, text.toList.head? ≠ some '\x60' →
        front (quote name ++ text).toList = .lexeme (.literal (quote name).toList) text.toList ∧
          unquote (quote name) = name) ∧
      ∀ names others : List String, quoteAll names = quoteAll others → names = others := by
  constructor
  · exact fun name text htext => ⟨front_quote_append name htext, unquote_quote name⟩
  · exact fun _ _ hsame => quoteAll_injective hsame

/-- A name that is made of backticks, in front of a closing parenthesis. -/
theorem quoted_names_apart_backticks :
    ")".toList.head? ≠ some '\x60' ∧
      front (quote "\x60\x60" ++ ")").toList =
        .lexeme (.literal (quote "\x60\x60").toList) ")".toList ∧
      unquote (quote "\x60\x60") = "\x60\x60" :=
  ⟨by decide, quoted_names_apart.1 "\x60\x60" ")" (by decide)⟩

end DaoForge.Sql
