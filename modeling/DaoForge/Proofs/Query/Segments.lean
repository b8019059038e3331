import DaoForge.Proofs.Query.Scan
import Mathlib.Data.List.Chain

/-!
# DaoForge.Proofs.Query.Segments

A query's SQL cut at its placeholders.

1. `Merged ls segments` says what segments are: placeholders, and maximal runs of other items;
   `merged_iff` shows that `Segment.ofLexemes` makes exactly these;
2. from it follow the order of the parameters, that writing the segments back gives the text, and
   that texts are neither empty nor adjacent;
3. `RawQuery.ofSql_reads`: what reading SQL text gives, and when it fails.
-/

namespace DaoForge

open Lexeme

/-! ## segments -/

/-- The name of a placeholder. -/
def Lexeme.name? : Lexeme → Option (List Char)
  | .placeholder name => some name
  | _ => none

/-- `Merged ls segments`: a placeholder is a segment, and so is every maximal run of other items. -/
inductive Merged : List Lexeme → List Segment → Prop
  | nil : Merged [] []
  | parameter {ls : List Lexeme} {segments : List Segment} {name : List Char}
      (h : Merged ls segments) :
      Merged (.placeholder name :: ls) (.parameter (String.ofList name) :: segments)
  | text {run ls : List Lexeme} {segments : List Segment} (hrun : run ≠ [])
      (hplain : ∀ l ∈ run, l.name? = none)
      (hnext : ∀ l, ls.head? = some l → l.name? ≠ none) (h : Merged ls segments) :
      Merged (run ++ ls) (.text (String.ofList (run.flatMap chars)) :: segments)

namespace Segment

theorem ofLexemes_placeholder (name : List Char) (ls : List Lexeme) :
    ofLexemes (.placeholder name :: ls) = .parameter (String.ofList name) :: ofLexemes ls := rfl

/-- An item that is no placeholder goes to the front of the text that follows. -/
theorem ofLexemes_plain {l : Lexeme} (h : l.name? = none) (ls : List Lexeme) :
    ofLexemes (l :: ls) =
      match ofLexemes ls with
      | .text tail :: segments => .text (String.ofList l.chars ++ tail) :: segments
      | segments => .text (String.ofList l.chars) :: segments := by
  cases l with
  | placeholder name => contradiction
  | literal => rfl
  | comment => rfl
  | other => rfl

/-- What starts with a placeholder does not start with a text. -/
theorem ofLexemes_ne_text {ls : List Lexeme} (h : ∀ l, ls.head? = some l → l.name? ≠ none)
    (s : String) (segments : List Segment) : ofLexemes ls ≠ .text s :: segments := by
  cases ls with
  | nil => simp [ofLexemes]
  | cons l ls =>
      have hl := h l rfl
      cases l with
      | placeholder name => simp [ofLexemes]
      | literal => contradiction
      | comment => contradiction
      | other => contradiction

/-- A maximal run of items that are no placeholders becomes one text. -/
theorem ofLexemes_run {run ls : List Lexeme} (hrun : run ≠ []) (hplain : ∀ l ∈ run, l.name? = none)
    (hnext : ∀ l, ls.head? = some l → l.name? ≠ none) :
    ofLexemes (run ++ ls) = .text (String.ofList (run.flatMap chars)) :: ofLexemes ls := by
  induction run with
  | nil => contradiction
  | cons l run ih =>
      obtain ⟨hl, hplain⟩ := List.forall_mem_cons.mp hplain
      rw [List.cons_append, ofLexemes_plain hl]
      by_cases hlast : run = []
      · subst hlast
        simp only [List.nil_append, List.flatMap_cons, List.flatMap_nil, List.append_nil]
        split
        · next h => exact absurd h (ofLexemes_ne_text hnext _ _)
        · rfl
      · rw [ih hlast hplain]
        simp [String.ofList_append]

end Segment

theorem eq_ofLexemes_of_merged {ls : List Lexeme} {segments : List Segment}
    (h : Merged ls segments) : segments = Segment.ofLexemes ls := by
  induction h with
  | nil => rfl
  | parameter _ ih => rw [ih, Segment.ofLexemes_placeholder]
  | text hrun hplain hnext _ ih => rw [ih, Segment.ofLexemes_run hrun hplain hnext]

/-- An item that is no placeholder opens a run, or lengthens the run that follows. -/
theorem merged_cons {l : Lexeme} {ls : List Lexeme} (hl : l.name? = none)
    (h : Merged ls (Segment.ofLexemes ls)) : Merged (l :: ls) (Segment.ofLexemes (l :: ls)) := by
  rw [Segment.ofLexemes_plain hl]
  generalize Segment.ofLexemes ls = segments at h
  have hone : ∀ l' ∈ [l], l'.name? = none := by simpa using hl
  cases h with
  | nil =>
      have hlast : Merged ([l] ++ []) _ := .text (by simp) hone (by simp) .nil
      simpa using hlast
  | @parameter _ _ name h =>
      have hparameter : Merged (.placeholder name :: _) _ := .parameter h
      have hfirst : Merged ([l] ++ _) _ := .text (by simp) hone (by simp [name?]) hparameter
      simpa using hfirst
  | @text run _ _ _ hplain hnext h =>
      have hplain' : ∀ l' ∈ l :: run, l'.name? = none := List.forall_mem_cons.mpr ⟨hl, hplain⟩
      have hlonger := Merged.text (List.cons_ne_nil l run) hplain' hnext h
      simpa [String.ofList_append] using hlonger

/-- Segments are placeholders and maximal runs of other items. -/
theorem merged_ofLexemes (ls : List Lexeme) : Merged ls (Segment.ofLexemes ls) := by
  induction ls with
  | nil => exact .nil
  | cons l ls ih =>
      cases h : l.name? with
      | none => exact merged_cons h ih
      | some name =>
          cases l with
          | placeholder name => exact .parameter ih
          | literal => contradiction
          | comment => contradiction
          | other => contradiction

theorem merged_iff {ls : List Lexeme} {segments : List Segment} :
    Merged ls segments ↔ segments = Segment.ofLexemes ls :=
  ⟨eq_ofLexemes_of_merged, fun h => h ▸ merged_ofLexemes ls⟩

namespace Merged

variable {ls : List Lexeme} {segments : List Segment}

/-- The parameters are the placeholders, in order. -/
theorem parameters (h : Merged ls segments) :
    segments.filterMap Segment.parameter? = (ls.filterMap name?).map String.ofList := by
  induction h with
  | nil => rfl
  | parameter _ ih => simp [Segment.parameter?, name?, ih]
  | @text run _ _ _ hplain _ _ ih =>
      have hnone : run.filterMap name? = [] := List.filterMap_eq_nil_iff.mpr hplain
      rw [List.filterMap_append, hnone, List.nil_append, ← ih]
      rfl

/-- The segments, written back, are the characters of the items. -/
theorem source (h : Merged ls segments) :
    String.join (segments.map Segment.source) = String.ofList (ls.flatMap chars) := by
  induction h with
  | nil => rfl
  | @parameter _ _ name _ ih =>
      rw [List.map_cons, String.join_cons, ih, List.flatMap_cons, String.ofList_append]
      simp only [Segment.source, chars]
      rw [show ":" = String.ofList [':'] from rfl, ← String.ofList_append]
      rfl
  | text _ _ _ _ ih =>
      rw [List.map_cons, String.join_cons, ih, List.flatMap_append, String.ofList_append]
      rfl

/-- No text is empty, as no item is. -/
theorem text_ne_empty (h : Merged ls segments) (hls : ∀ l ∈ ls, l.chars ≠ []) :
    ∀ s, .text s ∈ segments → s ≠ "" := by
  induction h with
  | nil => simp
  | parameter _ ih =>
      obtain ⟨-, hls⟩ := List.forall_mem_cons.mp hls
      simpa using ih hls
  | @text run ls _ hrun _ _ _ ih =>
      obtain ⟨hfirst, hrest⟩ := List.forall_mem_append.mp hls
      intro s hs
      rcases List.mem_cons.mp hs with heq | hs
      · obtain ⟨l, run', rfl⟩ := List.exists_cons_of_ne_nil hrun
        have hl : l.chars ≠ [] := hfirst l List.mem_cons_self
        have hchars : ((l :: run').flatMap chars) ≠ [] := by simp [hl]
        cases heq
        simpa using hchars
      · exact ih hrest s hs

/-- Two texts are never adjacent. -/
theorem apart (h : Merged ls segments) :
    segments.IsChain fun a b => a.parameter? ≠ none ∨ b.parameter? ≠ none := by
  induction h with
  | nil => exact .nil
  | parameter _ ih =>
      refine List.isChain_cons.mpr ⟨fun b _ => ?_, ih⟩
      exact .inl (by simp [Segment.parameter?])
  | text _ _ hnext h ih =>
      refine List.isChain_cons.mpr ⟨fun b hb => ?_, ih⟩
      -- the run is maximal, so what follows it is a placeholder
      cases h with
      | nil => contradiction
      | parameter h =>
          cases hb
          exact .inr (by simp [Segment.parameter?])
      | @text run _ _ hrun hplain _ h =>
          obtain ⟨l, run', rfl⟩ := List.exists_cons_of_ne_nil hrun
          exact absurd (hplain l List.mem_cons_self) (hnext l rfl)

end Merged

namespace RawQuery

/-- `CutFrom q sql ls`: `q` is `sql`, whose items are `ls`, cut at its placeholders. -/
structure CutFrom (q : RawQuery) (sql : String) (ls : List Lexeme) : Prop where
  sql_eq : q.sql = sql
  /-- The bindings are the names of the placeholders, in order. -/
  bindings_eq : q.bindings = (ls.filterMap name?).map String.ofList
  merged : Merged ls q.segments
  text_ne_empty : ∀ s, .text s ∈ q.segments → s ≠ ""
  /-- Two texts are never adjacent. -/
  apart : q.segments.IsChain fun a b => a.parameter? ≠ none ∨ b.parameter? ≠ none
  /-- Every parameter written back as `:name`. -/
  source_eq : String.join (q.segments.map Segment.source) = sql
  statement_eq : q.statement = .ofSql sql

/-- The query that reading gives, from the items of its text. -/
theorem ofSql_of_reads {sql : String} {ls : List Lexeme} (h : Reads sql.toList ls) :
    ∃ q, ofSql sql = .ok q ∧ q.CutFrom sql ls := by
  have hmerged := merged_ofLexemes ls
  have hchars : sql.toList = ls.flatMap chars := by
    simpa using eq_chars_append_of_readsTo h
  refine ⟨_, by rw [ofSql, lex_eq_ok_iff.mpr h], ?_⟩
  exact
    { sql_eq := rfl
      bindings_eq := hmerged.parameters
      merged := hmerged
      text_ne_empty := hmerged.text_ne_empty (chars_ne_nil_of_readsTo h)
      apart := hmerged.apart
      source_eq := by rw [hmerged.source, ← hchars, String.ofList_toList]
      statement_eq := rfl }

/-- A query is determined by the items that it is cut from. -/
theorem CutFrom.unique {sql : String} {ls : List Lexeme} {q q' : RawQuery} (h : q.CutFrom sql ls)
    (h' : q'.CutFrom sql ls) : q = q' := by
  have hsql : q.sql = q'.sql := h.sql_eq.trans h'.sql_eq.symm
  have hsegments : q.segments = q'.segments := by
    rw [merged_iff.mp h.merged, merged_iff.mp h'.merged]
  have hbindings : q.bindings = q'.bindings := h.bindings_eq.trans h'.bindings_eq.symm
  have hstatement : q.statement = q'.statement := h.statement_eq.trans h'.statement_eq.symm
  cases q
  cases q'
  simp only at hsql hsegments hbindings hstatement
  rw [hsql, hsegments, hbindings, hstatement]

/-- **Reading SQL text**: it is read iff it is a sequence of items; then the query is cut from exactly
these items. Otherwise the error is that of the first place at which no item can be read. -/
theorem ofSql_reads (sql : String) :
    ((∃ q, ofSql sql = .ok q) ↔ ∃ ls, Reads sql.toList ls) ∧
    (∀ q, ofSql sql = .ok q ↔ ∃ ls, Reads sql.toList ls ∧ q.CutFrom sql ls) ∧
    (∀ e, ofSql sql = .error e ↔
      ∃ ls rest, ReadsTo sql.toList ls rest ∧
        Refusal (String.ofList (ls.flatMap chars)).utf8ByteSize rest e) := by
  have hread : ∀ q, ofSql sql = .ok q → ∃ ls, Reads sql.toList ls ∧ q.CutFrom sql ls := by
    intro q hq
    cases hlex : lex sql.toList with
    | error f => simp [ofSql, hlex] at hq
    | ok ls =>
        have hreads := lex_eq_ok_iff.mp hlex
        obtain ⟨q', hq', hcut⟩ := ofSql_of_reads hreads
        rw [hq] at hq'
        cases hq'
        exact ⟨ls, hreads, hcut⟩
  refine ⟨⟨?_, ?_⟩, fun q => ⟨hread q, ?_⟩, fun e => ?_⟩
  · rintro ⟨q, hq⟩
    obtain ⟨ls, hreads, -⟩ := hread q hq
    exact ⟨ls, hreads⟩
  · rintro ⟨ls, hreads⟩
    obtain ⟨q, hq, -⟩ := ofSql_of_reads hreads
    exact ⟨q, hq⟩
  · rintro ⟨ls, hreads, hcut⟩
    obtain ⟨q', hq', hcut'⟩ := ofSql_of_reads hreads
    rw [hq', hcut.unique hcut']
  · rw [← lex_eq_error_iff, String.ofList_toList]
    cases hlex : lex sql.toList <;> simp [ofSql, hlex]

end RawQuery

end DaoForge
