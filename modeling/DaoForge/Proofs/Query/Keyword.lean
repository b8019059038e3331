import DaoForge.Proofs.Except
import DaoForge.Proofs.Query.Scan

/-!
# DaoForge.Proofs.Query.Keyword

The keyword that tells the family of a statement, and the comments in front of it.

1. `Spaced lengths cs rest`: white space and comments lead from `cs` to `rest`. Other than for the scanner,
   a block comment may hold the end of one; `lengths` tells the ways to read a text apart;
2. `FirstWord`: the word that the first of these ways leads to, if any does. It is the word that the family
   is looked up for (`found_leadingWord`);
3. `leadingWord_of_reads`: a word behind the comments of the scanner is the first one;
4. `RawQuery.statement_iff`: so the family is that of the word behind these comments, unless there is none
   and a longer comment leads to the keyword of a family.
-/

namespace DaoForge

open CharClass

namespace Lexeme

/-- White space or a comment. -/
def isSpacing : Lexeme → Bool
  | .comment _ => true
  | .other c => isBlank c
  | .literal _ | .placeholder _ => false

/-- The run of letters behind the white space and comments at the front; empty if something else follows
them. -/
def leadingLetters (ls : List Lexeme) : List Char :=
  ((ls.dropWhile isSpacing).flatMap chars).takeWhile isAsciiLetter

end Lexeme

namespace StatementKind

/-- The family that a word stands for, in small letters or capitals. -/
def ofWord (word : List Char) : StatementKind := ofKeyword (String.ofList (word.map Char.toUpper))

/-! ## ways to read a text -/

/-- `Spaced lengths cs rest`: white space and comments lead from `cs` to `rest`. A block comment ends at any
end of a comment behind it; `lengths` are those of the bodies of the block comments. -/
inductive Spaced : List Nat → List Char → List Char → Prop
  | done : Spaced [] rest rest
  | blank (hc : isBlank c = true) (h : Spaced lengths cs rest) : Spaced lengths (c :: cs) rest
  | line (hbody : '\n' ∉ body) (h : Spaced lengths cs rest) :
      Spaced lengths ('-' :: '-' :: (body ++ '\n' :: cs)) rest
  | lastLine (hbody : '\n' ∉ body) : Spaced [] ('-' :: '-' :: body) []
  | block (h : Spaced lengths cs rest) :
      Spaced (body.length :: lengths) ('/' :: '*' :: (body ++ '*' :: '/' :: cs)) rest

/-- One way to read the text leads to the word. -/
def LeadsTo (lengths : List Nat) (cs word : List Char) : Prop :=
  ∃ rest, Spaced lengths cs rest ∧ rest.takeWhile isAsciiLetter = word ∧ word ≠ []

/-- The first way that leads to a word leads to this one: a shorter comment goes before a longer one, and
an earlier comment counts more than a later one. -/
def FirstWord (cs word : List Char) : Prop :=
  ∃ lengths, LeadsTo lengths cs word ∧ ∀ lengths' word', LeadsTo lengths' cs word' → ¬ lengths' < lengths

/-- The word is the first one, or there is none. -/
def Found (cs : List Char) : Option (List Char) → Prop
  | some word => FirstWord cs word
  | none => ∀ lengths word, ¬ LeadsTo lengths cs word

theorem not_isBlank_of_isAsciiLetter {c : Char} (h : isAsciiLetter c = true) : isBlank c = false := by
  have hcode : (97 ≤ c.toNat ∧ c.toNat ≤ 122) ∨ (65 ≤ c.toNat ∧ c.toNat ≤ 90) := by
    simpa [isAsciiLetter, Char.le_def, UInt32.le_iff_toNat_le] using h
  simp only [isBlank, Bool.or_eq_false_iff, Bool.and_eq_false_iff, decide_eq_false_iff_not,
    beq_eq_false_iff_ne]
  omega

section LeadsTo

variable {lengths : List Nat} {c : Char} {cs word : List Char}

theorem not_leadsTo_nil : ¬ LeadsTo lengths [] word := by
  rintro ⟨rest, hspaced, rfl, hword⟩
  cases hspaced
  contradiction

theorem leadsTo_letter_iff (hc : isAsciiLetter c = true) :
    LeadsTo lengths (c :: cs) word ↔ lengths = [] ∧ word = c :: cs.takeWhile isAsciiLetter := by
  constructor
  · rintro ⟨rest, hspaced, rfl, -⟩
    cases hspaced with
    | done => exact ⟨rfl, List.takeWhile_cons_of_pos hc⟩
    | blank hblank => simp [not_isBlank_of_isAsciiLetter hc] at hblank
    | line | lastLine | block => contradiction
  · rintro ⟨rfl, rfl⟩
    exact ⟨_, .done, List.takeWhile_cons_of_pos hc, List.cons_ne_nil _ _⟩

theorem leadsTo_blank_iff (hc : isBlank c = true) :
    LeadsTo lengths (c :: cs) word ↔ LeadsTo lengths cs word := by
  constructor
  · rintro ⟨rest, hspaced, rfl, hword⟩
    cases hspaced with
    | done =>
        have hletter : ¬ isAsciiLetter c = true := fun h => by
          simp [not_isBlank_of_isAsciiLetter h] at hc
        exact absurd (List.takeWhile_cons_of_neg hletter) hword
    | blank _ h => exact ⟨rest, h, rfl, hword⟩
    | line | lastLine | block => contradiction
  · rintro ⟨rest, hspaced, hword⟩
    exact ⟨rest, .blank hc hspaced, hword⟩

/-- A character that neither opens a word nor is skipped ends the search. -/
theorem not_leadsTo_other (hletter : ¬ isAsciiLetter c = true) (hblank : ¬ isBlank c = true)
    (hline : ∀ rest, c :: cs ≠ '-' :: '-' :: rest) (hblock : ∀ rest, c :: cs ≠ '/' :: '*' :: rest) :
    ¬ LeadsTo lengths (c :: cs) word := by
  rintro ⟨rest, hspaced, rfl, hword⟩
  cases hspaced with
  | done => exact hword (List.takeWhile_cons_of_neg hletter)
  | blank hc => exact hblank hc
  | line => exact hline _ rfl
  | lastLine => exact hline _ rfl
  | block => exact hblock _ rfl

/-! ### comments -/

theorem leadsTo_line_iff {body : List Char} (hbody : '\n' ∉ body) :
    LeadsTo lengths ('-' :: '-' :: (body ++ '\n' :: cs)) word ↔ LeadsTo lengths cs word := by
  constructor
  · rintro ⟨rest, hspaced, rfl, hword⟩
    generalize htext : '-' :: '-' :: (body ++ '\n' :: cs) = text at hspaced
    cases hspaced with
    | done => subst htext; exact absurd (List.takeWhile_cons_of_neg (by decide)) hword
    | blank hc => cases htext; simp [isBlank] at hc
    | @line body' _ cs' _ hbody' h =>
        simp only [List.cons.injEq, true_and] at htext
        have hread := Lexeme.lineBody_append cs hbody
        rw [htext, Lexeme.lineBody_append _ hbody'] at hread
        rw [← (Prod.mk.inj hread).2]
        exact ⟨rest, h, rfl, hword⟩
    | lastLine => contradiction
    | block => simp at htext
  · rintro ⟨rest, hspaced, hword⟩
    exact ⟨rest, .line hbody hspaced, hword⟩

theorem not_leadsTo_lastLine {body : List Char} (hbody : '\n' ∉ body) :
    ¬ LeadsTo lengths ('-' :: '-' :: body) word := by
  rintro ⟨rest, hspaced, rfl, hword⟩
  generalize htext : '-' :: '-' :: body = text at hspaced
  cases hspaced with
  | done => subst htext; exact hword (List.takeWhile_cons_of_neg (by decide))
  | blank hc => cases htext; simp [isBlank] at hc
  | line => cases htext; simp at hbody
  | lastLine => contradiction
  | block => simp at htext

theorem leadsTo_block_iff : LeadsTo lengths ('/' :: '*' :: cs) word ↔
    ∃ body rest lengths', cs = body ++ '*' :: '/' :: rest ∧ lengths = body.length :: lengths' ∧
      LeadsTo lengths' rest word := by
  constructor
  · rintro ⟨rest, hspaced, rfl, hword⟩
    generalize htext : '/' :: '*' :: cs = text at hspaced
    cases hspaced with
    | done => subst htext; exact absurd (List.takeWhile_cons_of_neg (by decide)) hword
    | blank hc => cases htext; simp [isBlank] at hc
    | line => simp at htext
    | lastLine => simp at htext
    | block h =>
        cases htext
        exact ⟨_, _, _, rfl, rfl, rest, h, rfl, hword⟩
  · rintro ⟨body, tail, lengths', rfl, rfl, rest, hspaced, hword⟩
    exact ⟨rest, .block hspaced, hword⟩

theorem not_leadsTo_openBlock (hcs : cs.length < 2) : ¬ LeadsTo lengths ('/' :: '*' :: cs) word := by
  intro hleads
  obtain ⟨body, rest, _, rfl, -, -⟩ := leadsTo_block_iff.mp hleads
  simp at hcs
  omega

/-- The comment ends at once, or the next character belongs to it. -/
theorem leadsTo_block_cons_iff : LeadsTo lengths ('/' :: '*' :: c :: cs) word ↔
    (∃ rest lengths', c :: cs = '*' :: '/' :: rest ∧ lengths = 0 :: lengths' ∧
        LeadsTo lengths' rest word) ∨
      ∃ n lengths', lengths = (n + 1) :: lengths' ∧
        LeadsTo (n :: lengths') ('/' :: '*' :: cs) word := by
  rw [leadsTo_block_iff]
  constructor
  · rintro ⟨body, rest, lengths', hcs, rfl, hleads⟩
    cases body with
    | nil => exact .inl ⟨rest, lengths', hcs, rfl, hleads⟩
    | cons b body =>
        obtain ⟨rfl, rfl⟩ := List.cons.inj hcs
        refine .inr ⟨body.length, lengths', rfl, ?_⟩
        exact leadsTo_block_iff.mpr ⟨body, rest, lengths', rfl, rfl, hleads⟩
  · rintro (⟨rest, lengths', hcs, rfl, hleads⟩ | ⟨n, lengths', rfl, hleads⟩)
    · exact ⟨[], rest, lengths', hcs, rfl, hleads⟩
    · obtain ⟨body, rest, lengths'', rfl, hlengths, hleads⟩ := leadsTo_block_iff.mp hleads
      obtain ⟨rfl, rfl⟩ := List.cons.inj hlengths
      exact ⟨c :: body, rest, lengths', rfl, rfl, hleads⟩

end LeadsTo

/-! ## the word that is found -/

section Found

variable {c d : Char} {cs cs' rest : List Char} {o o' : Option (List Char)}

theorem Found.congr (h : Found cs o)
    (hcs : ∀ lengths word, LeadsTo lengths cs' word ↔ LeadsTo lengths cs word) :
    Found cs' o := by
  cases o with
  | none => exact fun lengths word hleads => h lengths word ((hcs lengths word).mp hleads)
  | some word =>
      obtain ⟨lengths, hleads, hfirst⟩ := h
      exact ⟨lengths, (hcs _ _).mpr hleads, fun _ _ hother => hfirst _ _ ((hcs _ _).mp hother)⟩

theorem found_letter (hc : isAsciiLetter c = true) :
    Found (c :: cs) (some (c :: cs.takeWhile isAsciiLetter)) :=
  ⟨[], (leadsTo_letter_iff hc).mpr ⟨rfl, rfl⟩, fun _ _ _ => List.not_lt_nil _⟩

/-- Each way becomes one through a comment that is longer by a character. -/
theorem Found.longer (h : Found ('/' :: '*' :: cs) o)
    (hcs : ∀ lengths word, LeadsTo lengths cs' word ↔ ∃ n lengths', lengths = (n + 1) :: lengths' ∧
      LeadsTo (n :: lengths') ('/' :: '*' :: cs) word) : Found cs' o := by
  cases o with
  | none =>
      intro lengths word hleads
      obtain ⟨n, lengths', -, hshorter⟩ := (hcs _ _).mp hleads
      exact h _ _ hshorter
  | some word =>
      obtain ⟨lengths, hleads, hfirst⟩ := h
      obtain ⟨body, rest, lengths', rfl, rfl, -⟩ := leadsTo_block_iff.mp hleads
      refine ⟨(body.length + 1) :: lengths', (hcs _ _).mpr ⟨_, _, rfl, hleads⟩, ?_⟩
      intro other word' hother
      obtain ⟨n, other', rfl, hshorter⟩ := (hcs _ _).mp hother
      simpa [List.cons_lt_cons_iff] using hfirst _ _ hshorter

theorem Found.block_cons (h : Found ('/' :: '*' :: d :: cs) o) (hends : ¬ (c = '*' ∧ d = '/')) :
    Found ('/' :: '*' :: c :: d :: cs) o := by
  refine h.longer fun lengths word => ?_
  rw [leadsTo_block_cons_iff, or_iff_right]
  rintro ⟨rest, _, hcs, -⟩
  simp only [List.cons.injEq] at hcs
  exact hends ⟨hcs.1, hcs.2.1⟩

/-- The end of a comment is taken if it leads to a word. -/
theorem Found.block_end (h : Found cs o) (h' : Found ('/' :: '*' :: '/' :: cs) o') :
    Found ('/' :: '*' :: '*' :: '/' :: cs) (o <|> o') := by
  have hiff (lengths : List Nat) (word : List Char) :
      LeadsTo lengths ('/' :: '*' :: '*' :: '/' :: cs) word ↔
        (∃ lengths', lengths = 0 :: lengths' ∧ LeadsTo lengths' cs word) ∨
          ∃ n lengths', lengths = (n + 1) :: lengths' ∧
            LeadsTo (n :: lengths') ('/' :: '*' :: '/' :: cs) word := by
    rw [leadsTo_block_cons_iff]
    simp
  cases o with
  | none =>
      refine h'.longer fun lengths word => ?_
      rw [hiff, or_iff_right]
      rintro ⟨lengths', -, hleads⟩
      exact h _ _ hleads
  | some word =>
      obtain ⟨lengths, hleads, hfirst⟩ := h
      refine ⟨0 :: lengths, (hiff _ _).mpr (.inl ⟨lengths, rfl, hleads⟩), ?_⟩
      intro other word' hother
      obtain ⟨other', rfl, hrest⟩ | ⟨n, other', rfl, -⟩ := (hiff _ _).mp hother
      · simpa [List.cons_lt_cons_iff] using hfirst _ _ hrest
      · simp [List.cons_lt_cons_iff]

end Found

/-! ### what is looked for -/

theorem leadingWordAfterLine_append {body : List Char} (rest : List Char) (hbody : '\n' ∉ body) :
    leadingWordAfterLine (body ++ '\n' :: rest) = leadingWord rest := by
  induction body with
  | nil => simp [leadingWordAfterLine]
  | cons c body ih =>
      simp only [List.mem_cons, not_or] at hbody
      rw [List.cons_append, leadingWordAfterLine, if_neg (Ne.symm hbody.1), ih hbody.2]

theorem leadingWordAfterLine_of_not_mem {body : List Char} (hbody : '\n' ∉ body) :
    leadingWordAfterLine body = none := by
  induction body with
  | nil => rfl
  | cons c body ih =>
      simp only [List.mem_cons, not_or] at hbody
      rw [leadingWordAfterLine, if_neg (Ne.symm hbody.1), ih hbody.2]

mutual

/-- **The word that is looked for** is the first one. -/
theorem found_leadingWord (cs : List Char) : Found cs (leadingWord cs) := by
  match cs with
  | [] => exact fun _ _ => not_leadsTo_nil
  | [c] =>
    rw [leadingWord]
    split
    · next hletter => exact found_letter hletter
    · next hletter =>
      by_cases hblank : isBlank c = true
      · exact fun _ _ hleads => not_leadsTo_nil ((leadsTo_blank_iff hblank).mp hleads)
      · exact fun _ _ => not_leadsTo_other hletter hblank (by simp) (by simp)
  | c :: d :: rest =>
    rw [leadingWord]
    split
    · next hblank => exact (found_leadingWord (d :: rest)).congr fun _ _ => leadsTo_blank_iff hblank
    split
    · next hline =>
      obtain ⟨rfl, rfl⟩ := hline
      rcases Lexeme.lineBody_cases rest with ⟨body, tail, hbody, rfl⟩ | hbody
      · rw [leadingWordAfterLine_append tail hbody]
        exact (found_leadingWord tail).congr fun _ _ => leadsTo_line_iff hbody
      · rw [leadingWordAfterLine_of_not_mem hbody]
        exact fun _ _ => not_leadsTo_lastLine hbody
    split
    · next hblock =>
      obtain ⟨rfl, rfl⟩ := hblock
      exact found_leadingWordAfterBlock rest
    split
    · next hletter => exact found_letter hletter
    · next hblank hline hblock hletter =>
      refine fun _ _ => not_leadsTo_other hletter hblank (fun _ hcs => hline ?_) fun _ hcs => hblock ?_
      · exact ⟨(List.cons.inj hcs).1, (List.cons.inj (List.cons.inj hcs).2).1⟩
      · exact ⟨(List.cons.inj hcs).1, (List.cons.inj (List.cons.inj hcs).2).1⟩
termination_by cs.length

theorem found_leadingWordAfterBlock (cs : List Char) :
    Found ('/' :: '*' :: cs) (leadingWordAfterBlock cs) := by
  match cs with
  | [] => exact fun _ _ => not_leadsTo_openBlock (by simp)
  | [c] => exact fun _ _ => not_leadsTo_openBlock (by simp)
  | c :: d :: rest =>
    rw [leadingWordAfterBlock]
    have hlater := found_leadingWordAfterBlock (d :: rest)
    split
    · next hends =>
      obtain ⟨rfl, rfl⟩ := hends
      exact (found_leadingWord rest).block_end hlater
    · next hends => exact hlater.block_cons hends
termination_by cs.length

end

/-- One way leads to one word. -/
theorem LeadsTo.unique {lengths : List Nat} {cs word word' : List Char} (h : LeadsTo lengths cs word)
    (h' : LeadsTo lengths cs word') : word = word' := by
  obtain ⟨rest, hspaced, rfl, hword⟩ := h
  induction hspaced with
  | @done rest =>
      cases rest with
      | nil => contradiction
      | cons c cs =>
          by_cases hc : isAsciiLetter c = true
          · rw [((leadsTo_letter_iff hc).mp h').2, List.takeWhile_cons_of_pos hc]
          · exact absurd (List.takeWhile_cons_of_neg hc) hword
  | blank hc _ ih => exact ih ((leadsTo_blank_iff hc).mp h') hword
  | line hbody _ ih => exact ih ((leadsTo_line_iff hbody).mp h') hword
  | lastLine => contradiction
  | block _ ih =>
      obtain ⟨body', tail, lengths', hcs, hlengths, hleads⟩ := leadsTo_block_iff.mp h'
      obtain ⟨hlength, rfl⟩ := List.cons.inj hlengths
      obtain ⟨-, htail⟩ := List.append_inj hcs hlength
      simp only [List.cons.injEq, true_and] at htail
      exact ih (htail ▸ hleads) hword

theorem firstWord_iff {cs word : List Char} : FirstWord cs word ↔ leadingWord cs = some word := by
  have hfound := found_leadingWord cs
  constructor
  · rintro ⟨lengths, hleads, hfirst⟩
    cases hlead : leadingWord cs with
    | none =>
        rw [hlead] at hfound
        exact absurd hleads (hfound lengths word)
    | some word' =>
        rw [hlead] at hfound
        obtain ⟨lengths', hleads', hfirst'⟩ := hfound
        obtain rfl : lengths = lengths' := List.le_antisymm (hfirst _ _ hleads') (hfirst' _ _ hleads)
        rw [hleads.unique hleads']
  · intro hlead
    rw [hlead] at hfound
    exact hfound

/-! ## the word behind the comments of the scanner -/

theorem leadingWordAfterBlock_append {body : List Char} (rest : List Char)
    (hbody : ¬ ['*', '/'] <:+: body) :
    leadingWordAfterBlock (body ++ '*' :: '/' :: rest) =
      (leadingWord rest <|> leadingWordAfterBlock ('/' :: rest)) := by
  induction body with
  | nil => simp [leadingWordAfterBlock]
  | cons c body ih =>
      have htail : ¬ ['*', '/'] <:+: body := fun h => hbody (h.trans (List.suffix_cons c body).isInfix)
      cases body with
      | nil => simp [leadingWordAfterBlock]
      | cons d body =>
          have hcd : ¬ (c = '*' ∧ d = '/') := by
            rintro ⟨rfl, rfl⟩
            exact hbody (List.IsPrefix.isInfix ⟨body, rfl⟩)
          rw [← ih htail, List.cons_append, List.cons_append, leadingWordAfterBlock, if_neg hcd]

theorem leadingWord_blank {c : Char} {cs : List Char} (hc : isBlank c = true) :
    leadingWord (c :: cs) = leadingWord cs := by
  cases cs with
  | nil =>
      have hletter : ¬ isAsciiLetter c = true := fun h => by
        simp [not_isBlank_of_isAsciiLetter h] at hc
      simp only [leadingWord, if_neg hletter]
  | cons d rest => rw [leadingWord, if_pos hc]

theorem leadingWord_letter {c : Char} {cs : List Char} (hc : isAsciiLetter c = true) :
    leadingWord (c :: cs) = some (c :: cs.takeWhile isAsciiLetter) := by
  cases cs with
  | nil => simp [leadingWord, hc]
  | cons d rest =>
      have hblank : ¬ isBlank c = true := by simp [not_isBlank_of_isAsciiLetter hc]
      have hline : c ≠ '-' := by rintro rfl; contradiction
      have hblock : c ≠ '/' := by rintro rfl; contradiction
      simp only [leadingWord, if_neg hblank, hline, hblock, false_and, if_false, if_pos hc]

/-- The word behind a comment or white space is the word of the text. -/
theorem leadingWord_of_item {cs rest word : List Char} {l : Lexeme} (h : Lexeme.Item cs l rest)
    (hspacing : l.isSpacing = true) (hword : leadingWord rest = some word) :
    leadingWord cs = some word := by
  cases h with
  | literal => contradiction
  | bracket => contradiction
  | placeholder => contradiction
  | line hbody => simp [leadingWord, isBlank, leadingWordAfterLine_append _ hbody, hword]
  | lastLine => contradiction
  | block hbody => simp [leadingWord, isBlank, leadingWordAfterBlock_append _ hbody, hword]
  | other => rw [leadingWord_blank hspacing, hword]

/-- Letters behind the comments that the scanner finds are the word. -/
theorem leadingWord_of_reads {cs : List Char} {ls : List Lexeme} (h : Lexeme.Reads cs ls)
    (hword : Lexeme.leadingLetters ls ≠ []) : leadingWord cs = some (Lexeme.leadingLetters ls) := by
  induction ls generalizing cs with
  | nil => contradiction
  | cons l ls ih =>
      by_cases hspacing : l.isSpacing = true
      · have hrest : Lexeme.leadingLetters (l :: ls) = Lexeme.leadingLetters ls := by
          rw [Lexeme.leadingLetters, List.dropWhile_cons_of_pos hspacing, Lexeme.leadingLetters]
        rw [hrest] at hword ⊢
        cases h with
        | cons hl hls => exact leadingWord_of_item hl hspacing (ih hls hword)
      · have hcs : Lexeme.leadingLetters (l :: ls) = cs.takeWhile isAsciiLetter := by
          have htext := Lexeme.eq_chars_append_of_readsTo h
          rw [List.append_nil] at htext
          rw [Lexeme.leadingLetters, List.dropWhile_cons_of_neg hspacing, ← htext]
        rw [hcs] at hword ⊢
        cases cs with
        | nil => contradiction
        | cons c cs =>
            by_cases hc : isAsciiLetter c = true
            · rw [leadingWord_letter hc, List.takeWhile_cons_of_pos hc]
            · exact absurd (List.takeWhile_cons_of_neg hc) hword

theorem ofWord_nil : ofWord [] = .other := by decide

/-- The family is that of the first word. -/
theorem ofSql_of_leadingWord {sql : String} {word : List Char}
    (h : leadingWord sql.toList = some word) : ofSql sql = ofWord word := by
  rw [ofSql, h, ofWord]

end StatementKind

namespace RawQuery

theorem reads_of_ofSql {sql : String} {q : RawQuery} (h : ofSql sql = .ok q) :
    ∃ ls, Lexeme.Reads sql.toList ls ∧ q.statement = .ofSql sql := by
  unfold ofSql at h
  cases hlex : Lexeme.lex sql.toList with
  | error fault =>
      rw [hlex] at h
      contradiction
  | ok ls =>
      rw [hlex] at h
      cases h
      exact ⟨ls, Lexeme.lex_eq_ok_iff.mp hlex, rfl⟩

/-- **The family of a statement** is that of the word behind its leading white space and comments, unless
no word stands there and longer block comments lead to the keyword of a family. -/
theorem statement_iff {sql : String} {q : RawQuery} (h : ofSql sql = .ok q) :
    ∃ ls, Lexeme.Reads sql.toList ls ∧
      (q.statement ≠ .ofWord (Lexeme.leadingLetters ls) ↔
        Lexeme.leadingLetters ls = [] ∧
          ∃ word, StatementKind.FirstWord sql.toList word ∧ StatementKind.ofWord word ≠ .other) := by
  obtain ⟨ls, hreads, hstatement⟩ := reads_of_ofSql h
  refine ⟨ls, hreads, ?_⟩
  rw [hstatement]
  by_cases hword : Lexeme.leadingLetters ls = []
  · simp only [hword, StatementKind.ofWord_nil, StatementKind.firstWord_iff, true_and]
    cases hlead : StatementKind.leadingWord sql.toList with
    | none => simp [StatementKind.ofSql, hlead]
    | some word => simp [StatementKind.ofSql_of_leadingWord hlead]
  · have hlead := StatementKind.leadingWord_of_reads hreads hword
    simp [StatementKind.ofSql_of_leadingWord hlead, hword]

/-- A number stands behind the comment, so that no keyword leads this text. A comment that went on to the
end behind the number would be followed by `SELECT`, and so the query is a selection. -/
theorem statement_behind_number :
    ∃ q ls, ofSql "/* a */ 1 */ SELECT :x" = .ok q ∧ q.statement = .select ∧
      Lexeme.Reads "/* a */ 1 */ SELECT :x".toList ls ∧ Lexeme.leadingLetters ls = [] ∧
      StatementKind.FirstWord "/* a */ 1 */ SELECT :x".toList "SELECT".toList := by
  have hrun : (ofSql "/* a */ 1 */ SELECT :x").toOption.map RawQuery.statement = some .select := by
    decide +kernel
  obtain ⟨q, hq, hselect⟩ := Option.map_eq_some_iff.mp hrun
  have hread := eq_ok_of_toOption hq
  obtain ⟨ls, hreads, hiff⟩ := statement_iff hread
  have hletters : (Lexeme.lex "/* a */ 1 */ SELECT :x".toList).toOption.map Lexeme.leadingLetters =
      some [] := by
    decide +kernel
  rw [Lexeme.lex_eq_ok_iff.mpr hreads] at hletters
  have hnone : Lexeme.leadingLetters ls = [] := Option.some.inj hletters
  rw [hselect, hnone, StatementKind.ofWord_nil] at hiff
  obtain ⟨-, word, hfirst, -⟩ := hiff.mp (by decide)
  have hword : StatementKind.leadingWord "/* a */ 1 */ SELECT :x".toList = some "SELECT".toList := by
    decide +kernel
  rw [StatementKind.firstWord_iff, hword] at hfirst
  exact ⟨q, ls, hread, hselect, hreads, hnone, StatementKind.firstWord_iff.mpr hword⟩

end RawQuery

end DaoForge
