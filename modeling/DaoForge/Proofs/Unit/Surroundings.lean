import DaoForge.Proofs.Unit.Reference

/-!
# DaoForge.Proofs.Unit.Surroundings

What code refers to: through `self`, and through `super` beside its unit.

1. `Code.reference`: a name behind one of the two words, as a field, a function or another unit stands in
   code;
2. `Code.ClosedIn`: code that is put together from references to what its surroundings have. What
   declarations spell is not looked into, but cut off from the code behind it;
3. `Code.ClosedIn.named`: wherever closed code has a name behind the word, its surroundings have the name, or
   the reference stands in what is spelled, or begins with it.
-/

namespace DaoForge

/-- The words behind which a name is looked up: in what the unit has, and among the units beside it. -/
inductive Base where
  | self
  | super

namespace Base

def word : Base → String
  | .self => "self"
  | .super => "super"

/-- What stands between the word and the name. -/
def separator : Base → String
  | .self => "."
  | .super => "::"

/-- What is behind the one word, or the other. -/
def choose {α : Type} (ofSelf ofSuper : α) : Base → α
  | .self => ofSelf
  | .super => ofSuper

end Base

/-- What code may refer to, and what it spells as a declaration does. -/
structure Surroundings where
  names : Base → List Ident
  named : ∀ b, ∀ i ∈ names b, ∃ name, Ident.of name = .ok i
  spelled : Code → Prop

/-! ## identifiers -/

namespace Ident

variable {name name' : String} {i j : Ident}

/-- An identifier begins with a letter or an underscore. -/
theorem exists_head (h : Ident.of name = .ok i) :
    ∃ c rest, i.text.toList = c :: rest ∧ (CharClass.isAlphabetic c || c == '_') = true := by
  obtain ⟨hwell, -, rfl⟩ := eq_of h
  unfold text
  split
  · exact ⟨'r', '#' :: name.toList, by simp, by decide⟩
  · unfold isWellFormed at hwell
    split at hwell
    · contradiction
    · next c rest hchars =>
      rw [Bool.and_eq_true, Bool.and_eq_true] at hwell
      exact ⟨c, rest, hchars, hwell.1.1⟩

/-- No name has a mark in it. -/
theorem not_mem_hash (h : isWellFormed name = true) : '#' ∉ name.toList := by
  unfold isWellFormed at h
  split at h
  · contradiction
  · next c rest hchars =>
    rw [Bool.and_eq_true, Bool.and_eq_true, List.all_eq_true] at h
    rw [hchars, List.mem_cons, not_or]
    constructor
    · rintro rfl
      exact absurd h.1.1 (by decide)
    · intro hmem
      exact absurd (h.1.2 _ hmem) (by decide)

theorem text_ne_raw (h : isWellFormed name = true) (other : String) : name ≠ "r#" ++ other := by
  rintro rfl
  refine not_mem_hash h ?_
  rw [String.toList_append]
  exact List.mem_append_left _ (by decide)

/-- Identifiers that look alike are equal. -/
theorem eq_of_text_eq (h : Ident.of name = .ok i) (h' : Ident.of name' = .ok j) (htext : i.text = j.text) :
    i = j := by
  obtain ⟨hwell, -, rfl⟩ := eq_of h
  obtain ⟨hwell', -, rfl⟩ := eq_of h'
  unfold text at htext
  split at htext <;> split at htext
  · have hchars := congrArg String.toList htext
    rw [String.toList_append, String.toList_append] at hchars
    obtain rfl := String.toList_injective (List.append_cancel_left hchars)
    rfl
  · exact absurd htext.symm (text_ne_raw hwell' _)
  · exact absurd htext (text_ne_raw hwell _)
  · obtain rfl : name = name' := htext
    rfl

/-- A keyword is no identifier. -/
theorem not_isKeyword (h : Ident.of name = .ok i) : isKeyword i.text = false := by
  obtain ⟨hwell, -, rfl⟩ := eq_of h
  unfold text
  split
  · refine Bool.eq_false_iff.mpr fun hkeyword => ?_
    have hkeywords : ∀ keyword ∈ keywords, isWellFormed keyword = true := by decide
    rw [isKeyword, List.contains_iff_mem] at hkeyword
    exact text_ne_raw (hkeywords _ hkeyword) name rfl
  · next hraw => simpa using hraw

/-- The words themselves are no identifiers. -/
theorem text_ne_word (h : Ident.of name = .ok i) (b : Base) : i.text ≠ b.word := by
  obtain ⟨-, hreserved, rfl⟩ := eq_of h
  intro htext
  unfold text at htext
  split at htext
  · have hsecond := congrArg (fun text : String => text.toList[1]?) htext
    cases b <;> simp [Base.word] at hsecond
  · obtain rfl : name = b.word := htext
    cases b <;> exact absurd hreserved (by decide)

end Ident

namespace Code

/-- A name behind the word. -/
def reference (b : Base) (name : Ident) : Code := [.word b.word, .word b.separator, .word name.text]

/-- The text is no part of a reference to a field: it is no dot, and it is a keyword or does not begin as an
identifier does. -/
def isMark (text : String) : Bool :=
  text != "." && (isKeyword text ||
    text.toList.head?.any fun c => !(CharClass.isAlphabetic c || c == '_'))

/-- The code begins with a bracket or a mark, so that no reference goes on in it. -/
def Separates : Code → Prop
  | .group _ _ :: _ => True
  | .word text :: _ => isMark text = true
  | [] => False

/-- The code refers through the word to what its surroundings have. What is spelled is cut off from what
follows it, by a mark or a bracket. -/
inductive ClosedIn (b : Base) (s : Surroundings) : Code → Prop
  | nil : ClosedIn b s []
  | plain {text : String} (h : text ≠ b.word) : ClosedIn b s [.word text]
  | group {inner : Code} (h : ClosedIn b s inner) (delimiter : Delimiter) :
      ClosedIn b s [.group delimiter inner]
  | append {code code' : Code} (h : ClosedIn b s code) (h' : ClosedIn b s code') :
      ClosedIn b s (code ++ code')
  | spelledBefore {code after : Code} (h : s.spelled code) (h' : ClosedIn b s after)
      (hafter : after.Separates) : ClosedIn b s (code ++ after)
  | spelledLast {before code : Code} (h : ClosedIn b s before) (h' : s.spelled code)
      (delimiter : Delimiter) : ClosedIn b s [.group delimiter (before ++ code)]
  /-- The receiver of a method, before its parameters. -/
  | receiver : ClosedIn b s (words "& self ,")
  | reference {name : Ident} (h : name ∈ s.names b) : ClosedIn b s (Code.reference b name)

/-- Code that is closed, or spelled and to be cut off. -/
def ClosedOrSpelled (b : Base) (s : Surroundings) (code : Code) : Prop := ClosedIn b s code ∨ s.spelled code

/-- The code does not end amid a reference. -/
structure Settled (b : Base) (code : Code) : Prop where
  word : ¬ [.word b.word] <:+ code
  separator : ¬ [.word b.word, .word b.separator] <:+ code

/-! ## where code stands -/

section Occurrences

variable {piece code code' : Code} {b : Base}

theorem Occurs.of_part (h : piece <:+: code) : piece.Occurs code := by
  obtain ⟨before, after, rfl⟩ := h
  exact (Occurs.here.after _).before _

theorem Occurs.of_mem {delimiter : Delimiter} {inner : Code} (hmem : .group delimiter inner ∈ code)
    (h : piece.Occurs inner) : piece.Occurs code := by
  obtain ⟨before, after, rfl⟩ := List.append_of_mem hmem
  exact ((h.inside delimiter).before after).after before

/-- Code stands in other code as some of its tokens, or inside one of its brackets. -/
theorem Occurs.infix_or_inside (h : piece.Occurs code) :
    piece <:+: code ∨ ∃ delimiter inner, .group delimiter inner ∈ code ∧ piece.Occurs inner := by
  induction h with
  | here => exact .inl List.infix_rfl
  | before h after ih =>
      refine ih.imp (fun h => h.trans (List.prefix_append _ _).isInfix) ?_
      rintro ⟨delimiter, inner, hmem, hinner⟩
      exact ⟨delimiter, inner, List.mem_append_left _ hmem, hinner⟩
  | after h before ih =>
      refine ih.imp (fun h => h.trans (List.suffix_append _ _).isInfix) ?_
      rintro ⟨delimiter, inner, hmem, hinner⟩
      exact ⟨delimiter, inner, List.mem_append_right _ hmem, hinner⟩
  | @inside inner h delimiter ih => exact .inr ⟨delimiter, inner, List.mem_singleton_self _, h⟩

/-- Where there are no brackets, code stands as some of the tokens. -/
theorem Occurs.infix_of_words (h : piece.Occurs code) (hwords : ∀ t ∈ code, ∃ text, t = .word text) :
    piece <:+: code := by
  refine h.infix_or_inside.resolve_right ?_
  rintro ⟨delimiter, inner, hmem, -⟩
  obtain ⟨text, htext⟩ := hwords _ hmem
  contradiction

/-- Code that is longer than a bracket stands inside of it. -/
theorem Occurs.of_group {delimiter : Delimiter} {inner : Code} (h : piece.Occurs [.group delimiter inner])
    (hlength : 1 < piece.length) : piece.Occurs inner := by
  obtain hinfix | ⟨delimiter', inner', hmem, hinner⟩ := h.infix_or_inside
  · exact absurd hinfix.length_le (by simpa using hlength)
  · cases List.mem_singleton.mp hmem
    exact hinner

/-- A reference in two pieces of code stands in one of them, unless the first ends amid it. -/
theorem Occurs.of_append {name : Ident} (h : (reference b name).Occurs (code ++ code'))
    (hword : [.word b.word] <:+ code → ¬ [.word b.separator, .word name.text] <+: code')
    (hseparator : [.word b.word, .word b.separator] <:+ code → ¬ [.word name.text] <+: code') :
    (reference b name).Occurs code ∨ (reference b name).Occurs code' := by
  obtain hinfix | ⟨delimiter, inner, hmem, hinner⟩ := h.infix_or_inside
  · obtain hinfix | hinfix | ⟨first, last, hparts, hfirst, hlast⟩ := List.infix_append_iff.mp hinfix
    · exact .inl (.of_part hinfix)
    · exact .inr (.of_part hinfix)
    · unfold reference at hparts
      -- how much of the reference is in the first piece
      obtain _ | ⟨t, _ | ⟨t', _ | ⟨t'', rest⟩⟩⟩ := first
      · cases hparts
        exact .inr (.of_part hlast.isInfix)
      · cases hparts
        exact absurd hlast (hword hfirst)
      · cases hparts
        exact absurd hlast (hseparator hfirst)
      · simp only [List.cons_append, List.cons.injEq, List.nil_eq, List.append_eq_nil_iff] at hparts
        obtain ⟨rfl, rfl, rfl, rfl, -⟩ := hparts
        exact .inl (.of_part hfirst.isInfix)
  · obtain hmem | hmem := List.mem_append.mp hmem
    · exact .inl (.of_mem hmem hinner)
    · exact .inr (.of_mem hmem hinner)

theorem Occurs.text_eq {name other : Ident} (h : (reference b name).Occurs (reference b other)) :
    name.text = other.text := by
  have hinfix := h.infix_of_words (by simp [reference])
  have hsame := hinfix.eq_of_length rfl
  unfold reference at hsame
  simpa using hsame

theorem Occurs.of_settled {name : Ident} (h : (reference b name).Occurs (code ++ code'))
    (hcode : Settled b code) : (reference b name).Occurs code ∨ (reference b name).Occurs code' :=
  h.of_append (fun h => absurd h hcode.word) fun h => absurd h hcode.separator

end Occurrences

/-! ## where references end -/

section Ends

variable {b : Base} {code code' rest : Code}

theorem Separates.not_ident (h : Separates code) {name : String} {i : Ident} (hi : Ident.of name = .ok i) :
    ¬ .word i.text :: rest <+: code := by
  rintro ⟨after, rfl⟩
  obtain ⟨c, rest, hchars, hc⟩ := Ident.exists_head hi
  change isMark i.text = true at h
  rw [isMark, Ident.not_isKeyword hi, hchars, List.head?_cons, Option.any_some, hc] at h
  simp at h

/-- What is cut off goes on with no separator. A path may be followed by the separator of paths, so it must
not end in the word. -/
theorem Separates.not_separator (h : Separates code') (hends : b = .super → ¬ [.word b.word] <:+ code)
    (hword : [.word b.word] <:+ code) : ¬ .word b.separator :: rest <+: code' := by
  cases b with
  | self =>
      rintro ⟨after, rfl⟩
      simp [Separates, isMark, Base.separator] at h
  | super => exact absurd hword (hends rfl)

theorem Settled.append (h' : Settled b code') (h : Settled b code ∨
    code' ≠ [] ∧ ([.word b.word] <:+ code → ¬ [.word b.separator] <+: code')) :
    Settled b (code ++ code') := by
  have hlast := List.suffix_append code code'
  constructor
  · intro hword
    obtain hsuffix | hsuffix := List.suffix_or_suffix_of_suffix hword hlast
    · exact h'.word hsuffix
    · obtain rfl | hnil := List.suffix_cons_iff.mp hsuffix
      · exact h'.word List.suffix_rfl
      · obtain rfl := List.suffix_nil.mp hnil
        exact h.elim (fun h => h.word (by simpa using hword)) fun h => h.1 rfl
  · intro hseparator
    obtain hsuffix | hsuffix := List.suffix_or_suffix_of_suffix hseparator hlast
    · exact h'.separator hsuffix
    · obtain rfl | hsuffix := List.suffix_cons_iff.mp hsuffix
      · exact h'.separator List.suffix_rfl
      · obtain rfl | hnil := List.suffix_cons_iff.mp hsuffix
        · have hword : [.word b.word] <:+ code := by
            obtain hnil | ⟨before, hparts, hbefore⟩ := List.suffix_concat_iff.mp hseparator
            · contradiction
            · have hsame : [Token.word b.word] ++ [.word b.separator] = before ++ [.word b.separator] :=
                hparts
              exact List.append_cancel_right hsame ▸ hbefore
          exact h.elim (fun h => h.word hword) fun h => h.2 hword List.prefix_rfl
        · obtain rfl := List.suffix_nil.mp hnil
          exact h.elim (fun h => h.separator (by simpa using hseparator)) fun h => h.1 rfl

end Ends

/-- What is spelled in the code does not end in the word that paths begin with. -/
def Clear (b : Base) (s : Surroundings) (code : Code) : Prop :=
  b = .super → ∀ spelled, s.spelled spelled → spelled.Occurs code → ¬ [.word b.word] <:+ spelled

theorem Clear.mono {b : Base} {s : Surroundings} {code code' : Code} (h : Clear b s code')
    (hcode : code.Occurs code') : Clear b s code :=
  fun hb spelled hspelled hstands => h hb spelled hspelled (hstands.trans hcode)

theorem Clear.not_suffix {b : Base} {s : Surroundings} {code code' : Code} (h : Clear b s code')
    (hspelled : s.spelled code) (hcode : code.Occurs code') : b = .super → ¬ [.word b.word] <:+ code :=
  fun hb => h hb code hspelled hcode

/-- The reference stands in something that is spelled in the code. -/
def InSpelled (b : Base) (s : Surroundings) (i : Ident) (code : Code) : Prop :=
  ∃ spelled, s.spelled spelled ∧ spelled.Occurs code ∧ (reference b i).Occurs spelled

theorem InSpelled.mono {b : Base} {s : Surroundings} {i : Ident} {code code' : Code}
    (h : InSpelled b s i code) (hcode : code.Occurs code') : InSpelled b s i code' := by
  obtain ⟨spelled, hspelled, hstands, hinner⟩ := h
  exact ⟨spelled, hspelled, hstands.trans hcode, hinner⟩

namespace ClosedIn

variable {b : Base} {s : Surroundings}

/-- The words before the parameters have no reference in them. -/
theorem words_receiver : words "& self ," = [.word "&", .word "self", .word ","] := rfl

section Names

/-- Closed code does not end amid a reference. -/
theorem settled {code : Code} (h : ClosedIn b s code) (hclear : Clear b s code) : Settled b code := by
  induction h with
  | nil => constructor <;> simp
  | plain h =>
      constructor
      · simpa [List.suffix_cons_iff] using h.symm
      · simp [List.suffix_cons_iff]
  | group h delimiter ih => constructor <;> simp [List.suffix_cons_iff]
  | append h h' ih ih' =>
      have hfirst := ih (hclear.mono (Occurs.here.before _))
      have hlast := ih' (hclear.mono (Occurs.here.after _))
      exact hlast.append (.inl hfirst)
  | @spelledBefore code after h h' hafter ih =>
      have hlast := ih (hclear.mono (Occurs.here.after _))
      have hends := hclear.not_suffix h (Occurs.here.before _)
      refine hlast.append (.inr ⟨?_, hafter.not_separator hends⟩)
      rintro rfl
      exact hafter
  | spelledLast h h' delimiter ih => constructor <;> simp [List.suffix_cons_iff]
  | receiver =>
      rw [words_receiver]
      cases b <;> constructor <;> simp [List.suffix_cons_iff, Base.word, Base.separator]
  | @reference name h =>
      obtain ⟨source, hname⟩ := s.named b name h
      constructor
      · simpa [Code.reference, List.suffix_cons_iff] using (Ident.text_ne_word hname b).symm
      · cases b <;> simp [Code.reference, List.suffix_cons_iff, Base.word, Base.separator]

theorem named_of_clear {code : Code} (h : ClosedIn b s code) (hclear : Clear b s code) {name : String}
    {i : Ident} (hi : Ident.of name = .ok i) (hoccurs : (Code.reference b i).Occurs code) :
    i ∈ s.names b ∨ InSpelled b s i code := by
  have hlength : (Code.reference b i).length = 3 := rfl
  have hlong : 1 < (Code.reference b i).length := by omega
  induction h with
  | nil =>
      have hinfix := hoccurs.infix_of_words (by simp)
      exact absurd hinfix.length_le (by simp [hlength])
  | plain h =>
      have hinfix := hoccurs.infix_of_words (by simp)
      exact absurd hinfix.length_le (by simp [hlength])
  | @group inner h delimiter ih =>
      have hinside : inner.Occurs [.group delimiter inner] := Occurs.here.inside delimiter
      exact (ih (hclear.mono hinside) (hoccurs.of_group hlong)).imp_right fun h => h.mono hinside
  | @append code code' h h' ih ih' =>
      have hfirst : code.Occurs (code ++ code') := Occurs.here.before _
      have hlast : code'.Occurs (code ++ code') := Occurs.here.after _
      obtain hoccurs | hoccurs := hoccurs.of_settled (h.settled (hclear.mono hfirst))
      · exact (ih (hclear.mono hfirst) hoccurs).imp_right fun h => h.mono hfirst
      · exact (ih' (hclear.mono hlast) hoccurs).imp_right fun h => h.mono hlast
  | @spelledBefore code after h h' hafter ih =>
      have hfirst : code.Occurs (code ++ after) := Occurs.here.before _
      have hlast : after.Occurs (code ++ after) := Occurs.here.after _
      obtain hoccurs | hoccurs := hoccurs.of_append (hafter.not_separator (hclear.not_suffix h hfirst))
        fun _ => hafter.not_ident hi
      · exact .inr ⟨code, h, hfirst, hoccurs⟩
      · exact (ih (hclear.mono hlast) hoccurs).imp_right fun h => h.mono hlast
  | @spelledLast before code h h' delimiter ih =>
      have hfirst : before.Occurs [.group delimiter (before ++ code)] :=
        (Occurs.here.before _).inside delimiter
      obtain hoccurs | hoccurs := (hoccurs.of_group hlong).of_settled (h.settled (hclear.mono hfirst))
      · exact (ih (hclear.mono hfirst) hoccurs).imp_right fun h => h.mono hfirst
      · exact .inr ⟨code, h', (Occurs.here.after _).inside delimiter, hoccurs⟩
  | receiver =>
      rw [words_receiver] at hoccurs
      have hinfix := hoccurs.infix_of_words (by simp)
      have hsame := hinfix.eq_of_length rfl
      cases b <;> simp [Code.reference, Base.word, Base.separator] at hsame
  | @reference other h =>
      obtain ⟨source, hother⟩ := s.named b other h
      exact .inl (Ident.eq_of_text_eq hi hother hoccurs.text_eq ▸ h)

/-- **Closed code** refers to what its surroundings have: wherever it has a name behind the word, this is one
of their names, or the reference stands in what is spelled, or else a path is spelled that ends in the word,
and the code goes on behind it. -/
theorem named {code : Code} (h : ClosedIn b s code) {name : String} {i : Ident} (hi : Ident.of name = .ok i)
    (hoccurs : (Code.reference b i).Occurs code) :
    i ∈ s.names b ∨ ∃ spelled, s.spelled spelled ∧ spelled.Occurs code ∧
      ((Code.reference b i).Occurs spelled ∨ b = .super ∧ [.word b.word] <:+ spelled) := by
  by_cases hclear : Clear b s code
  · exact (h.named_of_clear hclear hi hoccurs).imp_right fun ⟨spelled, hspelled, hstands, hinner⟩ =>
      ⟨spelled, hspelled, hstands, .inl hinner⟩
  · unfold Clear at hclear
    push Not at hclear
    obtain ⟨hb, spelled, hspelled, hstands, hends⟩ := hclear
    exact .inr ⟨spelled, hspelled, hstands, .inr ⟨hb, hends⟩⟩

end Names

/-! ## composition -/

variable {inner : Code}

/-- The text is neither of the words. -/
def isFree (text : String) : Bool := text != "self" && text != "super"

theorem ne_of_isFree {text : String} (h : isFree text = true) : text ≠ b.word := by
  rw [isFree, Bool.and_eq_true, bne_iff_ne, bne_iff_ne] at h
  cases b with
  | self => exact h.1
  | super => exact h.2

theorem word {text : String} (h : isFree text = true) : ClosedIn b s (Code.word text) :=
  .plain (ne_of_isFree h)

theorem parens (h : ClosedIn b s inner) : ClosedIn b s (Code.parens inner) := h.group _

theorem brackets (h : ClosedIn b s inner) : ClosedIn b s (Code.brackets inner) := h.group _

theorem braces (h : ClosedIn b s inner) : ClosedIn b s (Code.braces inner) := h.group _

theorem flatMap {α : Type} {items : List α} {f : α → Code}
    (h : ∀ item ∈ items, ClosedIn b s (f item)) : ClosedIn b s (items.flatMap f) := by
  induction items with
  | nil => exact .nil
  | cons first rest ih =>
      rw [List.flatMap_cons]
      exact (h first List.mem_cons_self).append (ih fun item hitem => h item (List.mem_cons_of_mem _ hitem))

theorem commas {items : List Code} (h : ∀ item ∈ items, ClosedIn b s item) :
    ClosedIn b s (Code.commas items) := by
  induction items with
  | nil => exact .nil
  | cons first rest ih =>
      obtain ⟨hfirst, hrest⟩ := List.forall_mem_cons.mp h
      cases rest with
      | nil => exact hfirst
      | cons second rest => exact (hfirst.append (word rfl)).append (ih hrest)

theorem commas_map {α : Type} {items : List α} {f : α → Code}
    (h : ∀ item ∈ items, ClosedIn b s (f item)) : ClosedIn b s (Code.commas (items.map f)) :=
  commas (List.forall_mem_map.mpr h)

theorem commasAfter {items : List Code} (h : ∀ item ∈ items, ClosedIn b s item) :
    ClosedIn b s (Code.commasAfter items) :=
  flatMap fun item hitem => (h item hitem).append (word rfl)

/-- A line that calls a function. -/
theorem line {callee : Code} (h : ClosedIn b s callee) (h' : ClosedIn b s inner) :
    ClosedIn b s (callee ++ Code.parens inner ++ Code.word ";") :=
  append (append h h'.parens) (word rfl)

theorem words_of_ne {chars : List Char} (h : ∀ text ∈ wordsFrom [] chars, text ≠ b.word) :
    ClosedIn b s (Code.words (String.ofList chars)) := by
  rw [Code.words, String.toList_ofList]
  generalize wordsFrom [] chars = texts at h
  induction texts with
  | nil => exact .nil
  | cons first rest ih =>
      obtain ⟨hfirst, hrest⟩ := List.forall_mem_cons.mp h
      exact append (.plain hfirst) (ih hrest)

/-- Words without either of the two are closed. They are given by their characters: these are those of a
literal without being computed. -/
theorem words {chars : List Char} (h : (wordsFrom [] chars).all isFree = true) :
    ClosedIn b s (Code.words (String.ofList chars)) :=
  words_of_ne fun text htext => ne_of_isFree (List.all_eq_true.mp h text htext)

/-- Beside a unit its own names do not matter. -/
theorem wordsBeside {chars : List Char} (h : (wordsFrom [] chars).contains "super" = false) :
    ClosedIn .super s (Code.words (String.ofList chars)) := by
  refine words_of_ne fun text htext heq => ?_
  obtain rfl : text = "super" := heq
  rw [List.contains_iff_mem.mpr htext] at h
  contradiction

theorem of_head {text : String} (h : ∃ c ∈ text.toList.head?, c ≠ 's') : ClosedIn b s [.word text] := by
  obtain ⟨c, hc, hne⟩ := h
  refine .plain fun heq => hne ?_
  rw [heq] at hc
  cases b <;> cases hc <;> rfl

theorem string (text : String) : ClosedIn b s (Code.string text) :=
  of_head ⟨'"', by simp, by decide⟩

theorem ident {name : String} {i : Ident} (h : Ident.of name = .ok i) : ClosedIn b s i.code :=
  .plain (Ident.text_ne_word h b)

/-- A field of the unit: beside the unit it does not matter which. -/
theorem field {name : Ident} (h : name ∈ s.names .self) : ClosedIn b s (Code.words "self ." ++ name.code) := by
  cases b with
  | self => exact .reference h
  | super =>
      obtain ⟨source, hname⟩ := s.named .self name h
      exact append (wordsBeside rfl) (ident hname)

theorem sibling {name : Ident} (h : name ∈ s.names .super) : ClosedIn b s name.sibling := by
  cases b with
  | super => exact .reference h
  | self =>
      obtain ⟨source, hname⟩ := s.named .super name h
      have hwords : ClosedIn .self s (Code.words "super ::") :=
        append (.plain (by decide)) (.plain (by decide))
      exact append hwords (ident hname)

theorem nat (k : Nat) : ClosedIn b s (Code.nat k) := by
  have hdigits : (toString k).toList = Nat.toDigits 10 k := by simp [toString, Nat.repr]
  refine .plain fun h => ?_
  have hdigit : 's' ∈ Nat.toDigits 10 k := by
    rw [← hdigits, h]
    cases b <;> decide
  exact absurd (Nat.isDigit_of_mem_toDigits (by decide) (by decide) hdigit) (by decide)

/-- What is spelled may stand between closed code, if it is cut off from what follows it. -/
theorem between {before code after : Code} (h : ClosedIn b s before) (hcode : ClosedOrSpelled b s code)
    (h' : ClosedIn b s after) (hafter : after.Separates) : ClosedIn b s (before ++ code ++ after) := by
  obtain hcode | hcode := hcode
  · exact append (append h hcode) h'
  · rw [List.append_assoc]
    exact append h (spelledBefore hcode h' hafter)

/-- A field may stand behind other words. -/
theorem fieldBehind {before text : String} {name : Ident} (h : name ∈ s.names .self)
    (hbefore : ClosedIn b s (Code.words before))
    (htext : Code.words text = Code.words before ++ Code.words "self .") :
    ClosedIn b s (Code.words text ++ name.code) := by
  rw [htext, List.append_assoc]
  exact append hbefore (field h)

/-- Parameters with types that are spelled, in a list that ends with a bracket. -/
theorem parameters {before : Code} (h : ClosedIn b s before) {parameters : List (Ident × Code)}
    (hparameters : ∀ p ∈ parameters, ClosedIn b s p.1.code ∧ s.spelled p.2) (delimiter : Delimiter) :
    ClosedIn b s [.group delimiter
      (before ++ Code.commas (parameters.map fun (name, type) => Code.typed name type))] := by
  induction parameters generalizing before with
  | nil => exact group (append h nil) delimiter
  | cons p rest ih =>
      obtain ⟨⟨hname, htype⟩, hrest⟩ := List.forall_mem_cons.mp hparameters
      have hlabel : ClosedIn b s (before ++ (p.1.code ++ Code.word ":")) :=
        append h (append hname (word rfl))
      cases rest with
      | nil =>
          have hlast := spelledLast hlabel htype delimiter
          rwa [List.append_assoc] at hlast
      | cons second rest =>
          have hcomma : ClosedIn b s (Code.word ",") := word rfl
          have hall := ih (between hlabel (.inr htype) hcomma rfl) hrest
          simp only [List.append_assoc] at hall
          simpa only [List.map_cons, Code.commas, Code.typed, List.append_assoc] using hall

theorem typed {name : Ident} (hname : ClosedIn b s name.code) {type : Code} (htype : ClosedIn b s type) :
    ClosedIn b s (Code.typed name type) :=
  (hname.append (word rfl)).append htype

theorem shared (h : ClosedIn b s inner) : ClosedIn b s (Code.shared inner) :=
  (append (words rfl) h).append (word rfl)

theorem only {condition : Bool} {code : Code} (h : ClosedIn b s code) :
    ClosedIn b s (if condition then code else []) := by
  cases condition with
  | true => exact h
  | false => exact .nil

theorem comment (text : String) : ClosedIn b s (Code.comment text) :=
  append (word rfl) (append (words rfl) (string text)).brackets

end ClosedIn

end Code

end DaoForge
