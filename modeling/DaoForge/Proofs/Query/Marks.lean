import DaoForge.Proofs.Query.Segments

/-!
# DaoForge.Proofs.Query.Marks

The text of a finished statement, as a driver meets it: placeholders are anonymous marks.

1. `scan` reads such a text with the rules of `DaoForge.Query.Lexeme` for literals, quoted identifiers
   and comments. Every other character stands for itself, so the marks are the items `.other '?'`;
2. `ScansTo cs ls rest`: the items `ls` lead from `cs` to `rest`; `scan_eq_ok_iff` and
   `scansTo_append` let a text be read piece by piece;
3. an item of a query's text is read the same here (`plainFront_of_item`), and plain text is read
   character by character (`scansTo_plain`).
-/

namespace DaoForge

/-- The fault is a placeholder that names no parameter. -/
def LexFault.isForeign : LexFault → Bool
  | .anonymous _ | .unsupported _ => true
  | .unterminatedLiteral | .unterminatedIdentifier | .unterminatedComment => false

namespace Lexeme

/-! ## reading a finished statement -/

/-- What is taken at the front of `c :: cs` where placeholders are not looked for. -/
def Front.plain (c : Char) (cs : List Char) : Front → Front
  | .lexeme (.placeholder _) _ => .lexeme (.other c) cs
  | .fault f => if f.isForeign then .lexeme (.other c) cs else .fault f
  | found => found

/-- The first item of a finished statement: of a placeholder only the first character is taken. -/
def plainFront : List Char → Front
  | [] => .finished
  | c :: cs => (front (c :: cs)).plain c cs

theorem plainFront_cons (c : Char) (cs : List Char) :
    plainFront (c :: cs) = (front (c :: cs)).plain c cs := rfl

theorem plainFront_length {cs rest : List Char} {l : Lexeme} (h : plainFront cs = .lexeme l rest) :
    rest.length < cs.length := by
  cases cs with
  | nil => contradiction
  | cons c cs =>
      rw [plainFront_cons] at h
      unfold Front.plain at h
      split at h
      · cases h
        simp
      · split at h
        · cases h
          simp
        · contradiction
      · exact front_length h

/-- The items of a finished statement, or the first fault in it. -/
def scan (cs : List Char) : Except LexFault (List Lexeme) :=
  match _hf : plainFront cs with
  | .finished => .ok []
  | .fault f => .error f
  | .lexeme l rest => (scan rest).map (l :: ·)
termination_by cs.length
decreasing_by exact plainFront_length _hf

/-- The number of anonymous marks among items. -/
def marks (ls : List Lexeme) : Nat := ls.count (.other '?')

theorem marks_append (ls ms : List Lexeme) : marks (ls ++ ms) = marks ls + marks ms :=
  List.count_append

/-! ## piece by piece -/

/-- `ScansTo cs ls rest`: read one after another, the items `ls` lead from `cs` to `rest`. -/
inductive ScansTo : List Char → List Lexeme → List Char → Prop
  | nil {cs : List Char} : ScansTo cs [] cs
  | cons {cs mid rest : List Char} {l : Lexeme} {ls : List Lexeme}
      (hl : plainFront cs = .lexeme l mid) (hrest : ScansTo mid ls rest) : ScansTo cs (l :: ls) rest

theorem ScansTo.single {cs rest : List Char} {l : Lexeme} (h : plainFront cs = .lexeme l rest) :
    ScansTo cs [l] rest := .cons h .nil

theorem scansTo_append {cs mid rest : List Char} {ls ms : List Lexeme} (h : ScansTo cs ls mid)
    (h' : ScansTo mid ms rest) : ScansTo cs (ls ++ ms) rest := by
  induction h with
  | nil => exact h'
  | cons hl _ ih => exact .cons hl (ih h')

theorem scan_nil : scan [] = .ok [] := by
  unfold scan
  split <;> simp_all [plainFront]

theorem scan_of_lexeme {cs rest : List Char} {l : Lexeme} (h : plainFront cs = .lexeme l rest) :
    scan cs = (scan rest).map (l :: ·) := by
  rw [scan]
  split <;> simp_all

theorem plainFront_ne_finished (c : Char) (cs : List Char) : plainFront (c :: cs) ≠ .finished := by
  rw [plainFront_cons]
  have hfront : (front (c :: cs)).Correct _ 0 (c :: cs) := front_correct (Nat.zero_add _)
  cases hfound : front (c :: cs) with
  | finished =>
      rw [hfound] at hfront
      contradiction
  | fault f => by_cases hforeign : f.isForeign = true <;> simp [Front.plain, hforeign]
  | lexeme l rest => cases l <;> simp [Front.plain]

/-- The items of a text are those that lead to its end. -/
theorem scan_eq_ok_iff {cs : List Char} {ls : List Lexeme} : scan cs = .ok ls ↔ ScansTo cs ls [] := by
  constructor
  · intro h
    fun_induction scan cs generalizing ls with
    | case1 cs hf =>
        cases h
        cases cs with
        | nil => exact .nil
        | cons c cs => exact absurd hf (plainFront_ne_finished c cs)
    | case2 => contradiction
    | case3 cs l rest hf ih =>
        cases hrest : scan rest with
        | error f => simp [hrest, Except.map] at h
        | ok ms =>
            rw [hrest] at h
            cases h
            exact .cons hf (ih hrest)
  · intro h
    generalize hend : ([] : List Char) = rest at h
    induction h with
    | nil => rw [← hend, scan_nil]
    | cons hl _ ih =>
        rw [scan_of_lexeme hl, ih hend]
        rfl

/-! ## items -/

/-- The text shows the opening of a literal, a bracket or a comment. -/
inductive Skips : List Char → Prop
  | literal {quote : Char} {rest : List Char} (hq : quote ∈ quotes) : Skips (quote :: rest)
  | bracket {rest : List Char} : Skips ('[' :: rest)
  | line {rest : List Char} : Skips ('-' :: '-' :: rest)
  | block {rest : List Char} : Skips ('/' :: '*' :: rest)

/-- Where nothing is skipped, a character stands for itself. -/
theorem plainFront_other {c : Char} {rest : List Char} (h : ¬ Skips (c :: rest)) :
    plainFront (c :: rest) = .lexeme (.other c) rest := by
  rw [plainFront_cons]
  by_cases hopens : Opens (c :: rest)
  · cases hopens with
    | literal hq => exact absurd (.literal hq) h
    | bracket => exact absurd .bracket h
    | line => exact absurd .line h
    | block => exact absurd .block h
    | placeholder hc =>
        rw [front_placeholder _ hc]
        rfl
  by_cases hforeign : Foreign (c :: rest)
  · cases hforeign with
    | mark => by_cases hnumber : opensNumber rest = true <;> simp [front, hnumber] <;> rfl
    | named hs hc =>
        rw [front_named _ hs hc]
        rfl
  · rw [front_other hopens hforeign]
    rfl

/-- A literal or comment of a query's text is one here. -/
theorem plainFront_of_item {cs rest : List Char} {l : Lexeme} (h : Item cs l rest)
    (hl : l.name? = none) : plainFront cs = .lexeme l rest := by
  have hfront := front_of_item h
  cases cs with
  | nil => contradiction
  | cons c cs =>
      rw [plainFront_cons, hfront]
      cases l with
      | placeholder name => contradiction
      | literal => rfl
      | comment => rfl
      | other => rfl

/-- Whether all characters of a text are as they should be is decided on the text. There may also be
an instance that tries all characters there are. -/
instance decidableForallChar (cs : List Char) (p : Char → Prop) [DecidablePred p] :
    Decidable (∀ c ∈ cs, p c) := List.decidableBAll p cs

/-- The character opens nothing that is skipped, whatever follows it. -/
def Plain (c : Char) : Prop := c ∉ quotes ∧ c ≠ '[' ∧ c ≠ '-' ∧ c ≠ '/'

instance : DecidablePred Plain := fun c => inferInstanceAs (Decidable (c ∉ quotes ∧ _))

theorem Plain.not_skips {c : Char} (h : Plain c) (rest : List Char) : ¬ Skips (c :: rest) := by
  obtain ⟨hquote, hbracket, hline, hblock⟩ := h
  rintro (_ | _ | _ | _) <;> contradiction

/-- Plain text is read character by character. -/
theorem scansTo_plain {cs : List Char} (h : ∀ c ∈ cs, Plain c) (rest : List Char) :
    ScansTo (cs ++ rest) (cs.map .other) rest := by
  induction cs with
  | nil => exact .nil
  | cons c cs ih =>
      obtain ⟨hc, hcs⟩ := List.forall_mem_cons.mp h
      exact .cons (plainFront_other (hc.not_skips _)) (ih hcs)

end Lexeme

end DaoForge
