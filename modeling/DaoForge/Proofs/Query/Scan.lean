import DaoForge.Proofs.Query.Grammar

/-!
# DaoForge.Proofs.Query.Scan

The scanner of SQL text against its grammar (`DaoForge.Proofs.Query.Grammar`).

1. `front_correct`: what the scanner finds at the front of a text is an item, or a fault where the
   text is refused; `front_of_item` and `front_of_refusal` are the converses;
2. `lex_eq_ok_iff`, `lex_eq_error_iff`: so it finds the items of the whole text, or the first place
   that is refused.
-/

namespace DaoForge.Lexeme

open CharClass

/-! ## one rule at a time -/

/- One equation for each rule of the scanner, so that the cascade of tests in `front` is opened here
and nowhere else. -/

theorem front_quote {quote : Char} (hq : quote ∈ quotes) (cs : List Char) :
    front (quote :: cs) =
      literalFront quote
        (if quote = '\'' then .unterminatedLiteral else .unterminatedIdentifier) cs := by
  simp only [quotes, List.mem_cons, List.not_mem_nil, or_false] at hq
  rcases hq with rfl | rfl | rfl <;> simp [front]

theorem front_bracket (cs : List Char) :
    front ('[' :: cs) =
      match bracketBody cs with
      | some (body, rest) => .lexeme (.literal ('[' :: body)) rest
      | none => .fault .unterminatedIdentifier := by
  rfl

theorem front_line (cs : List Char) :
    front ('-' :: '-' :: cs) =
      .lexeme (.comment ('-' :: '-' :: (lineBody cs).1)) (lineBody cs).2 := by
  simp [front, lineBody]

theorem front_block (cs : List Char) :
    front ('/' :: '*' :: cs) =
      match blockBody cs with
      | some (body, rest) => .lexeme (.comment ('/' :: '*' :: body)) rest
      | none => .fault .unterminatedComment := by
  rfl

theorem front_placeholder {first : Char} (cs : List Char) (h : isNameStart first = true) :
    front (':' :: first :: cs) =
      .lexeme (.placeholder (first :: (nameBody cs).1)) (nameBody cs).2 := by
  simp [front, opensName, h, nameBody, isNameContinue_of_isNameStart h]

theorem front_numbered {first : Char} (cs : List Char) (h : isAsciiDigit first = true) :
    front ('?' :: first :: cs) =
      .fault (.unsupported ('?' :: first :: (nameBody cs).1)) := by
  have hcont : isNameContinue first = true := by simp [isNameContinue, h]
  simp [front, opensNumber, h, nameBody, hcont]

theorem front_anonymous {cs : List Char} (h : ∀ c, cs.head? = some c → isAsciiDigit c = false) :
    front ('?' :: cs) = .fault (.anonymous ('?' :: cs)) := by
  cases cs with
  | nil => rfl
  | cons c rest => simp [front, opensNumber, h c rfl]

theorem front_named {sign first : Char} (cs : List Char) (hs : sign = '@' ∨ sign = '$')
    (h : isNameStart first = true) :
    front (sign :: first :: cs) =
      .fault (.unsupported (sign :: first :: (nameBody cs).1)) := by
  have hcont : isNameContinue first = true := isNameContinue_of_isNameStart h
  rcases hs with rfl | rfl <;> simp [front, opensName, h, nameBody, hcont]

/-- Where nothing opens and no other placeholder stands, a character stands for itself. -/
theorem front_other {c : Char} {rest : List Char} (hopens : ¬ Opens (c :: rest))
    (hforeign : ¬ Foreign (c :: rest)) : front (c :: rest) = .lexeme (.other c) rest := by
  have hquote : ∀ quote ∈ quotes, c ≠ quote := fun quote hq h => hopens (h ▸ .literal hq)
  have hsingle : c ≠ '\'' := hquote _ (by decide)
  have hdouble : c ≠ '"' := hquote _ (by decide)
  have hback : c ≠ '\x60' := hquote _ (by decide)
  have hbracket : c ≠ '[' := fun h => hopens (h ▸ .bracket)
  have hmark : c ≠ '?' := fun h => hforeign (h ▸ .mark)
  cases rest with
  | nil => simp [front, hsingle, hdouble, hback, hbracket, hmark, opensName]
  | cons d rest =>
      have hline : ¬ (c = '-' ∧ d = '-') := fun ⟨hc, hd⟩ => hopens (hc ▸ hd ▸ .line)
      have hblock : ¬ (c = '/' ∧ d = '*') := fun ⟨hc, hd⟩ => hopens (hc ▸ hd ▸ .block)
      have hname : ¬ (c = ':' ∧ isNameStart d = true) :=
        fun ⟨hc, hd⟩ => hopens (hc ▸ .placeholder hd)
      have hnamed : ¬ ((c = '@' ∨ c = '$') ∧ isNameStart d = true) :=
        fun ⟨hc, hd⟩ => hforeign (.named hc hd)
      simp only [front, hsingle, hdouble, hback, hbracket, hmark, opensName, List.head?_cons,
        Option.some.injEq, hline, hblock, hname, hnamed, or_self, if_false]

/-! ## what the scanner finds -/

/-- What was found at `cs`, which stands `n` bytes into a text of `bytes` bytes, is right. -/
def Front.Correct (bytes n : Nat) (cs : List Char) : Front → Prop
  | .finished => cs = []
  | .lexeme l rest => Item cs l rest
  | .fault f => Refusal n cs (f.toError bytes)

theorem toError_quote (bytes : Nat) (quote : Char) :
    LexFault.toError bytes
        (if quote = '\'' then .unterminatedLiteral else .unterminatedIdentifier) =
      .unterminated (literalName quote) := by
  by_cases h : quote = '\'' <;> simp [h, LexFault.toError, literalName]

theorem correct_quote {quote : Char} (hq : quote ∈ quotes) (bytes n : Nat) (cs : List Char) :
    (front (quote :: cs)).Correct bytes n (quote :: cs) := by
  rw [front_quote hq, literalFront]
  cases hread : quotedBody quote cs with
  | none =>
      have hopen : ∀ content rest, rest.head? ≠ some quote →
          cs ≠ doubled quote content ++ quote :: rest := by
        intro content rest hrest hcs
        rw [hcs, quotedBody_doubled quote content hrest] at hread
        contradiction
      rw [Front.Correct, toError_quote]
      exact .literal hq hopen
  | some read =>
      obtain ⟨body, rest⟩ := read
      obtain ⟨content, hrest, rfl, rfl⟩ := quotedBody_eq_some_iff.mp hread
      exact .literal hq hrest

theorem correct_bracket (bytes n : Nat) (cs : List Char) :
    (front ('[' :: cs)).Correct bytes n ('[' :: cs) := by
  rw [front_bracket]
  cases hread : bracketBody cs with
  | none => exact .bracket (bracketBody_eq_none_iff.mp hread)
  | some read =>
      obtain ⟨body, rest⟩ := read
      obtain ⟨inner, hinner, rfl, rfl⟩ := bracketBody_eq_some_iff.mp hread
      exact .bracket hinner

theorem correct_line (bytes n : Nat) (cs : List Char) :
    (front ('-' :: '-' :: cs)).Correct bytes n ('-' :: '-' :: cs) := by
  rw [front_line]
  rcases lineBody_cases cs with ⟨body, rest, hbody, rfl⟩ | hbody
  · rw [lineBody_append rest hbody]
    exact .line hbody
  · rw [lineBody_of_not_mem hbody]
    exact .lastLine hbody

theorem correct_block (bytes n : Nat) (cs : List Char) :
    (front ('/' :: '*' :: cs)).Correct bytes n ('/' :: '*' :: cs) := by
  rw [front_block]
  cases hread : blockBody cs with
  | none => exact .block (blockBody_eq_none_iff.mp hread)
  | some read =>
      obtain ⟨body, rest⟩ := read
      obtain ⟨inner, hinner, rfl, rfl⟩ := blockBody_eq_some_iff.mp hread
      exact .block hinner

theorem correct_placeholder {first : Char} (hfirst : isNameStart first = true) (bytes n : Nat)
    (cs : List Char) : (front (':' :: first :: cs)).Correct bytes n (':' :: first :: cs) := by
  obtain ⟨hcs, hname, hends⟩ := nameBody_spec cs
  have hitem := Item.placeholder hfirst hname hends
  rw [← hcs] at hitem
  rw [front_placeholder cs hfirst]
  exact hitem

theorem toError_anonymous {bytes n : Nat} {cs : List Char}
    (hn : n + (String.ofList cs).utf8ByteSize = bytes) :
    (LexFault.anonymous cs).toError bytes = .anonymousPlaceholder n := by
  rw [LexFault.toError, ← hn, Nat.add_sub_cancel]

theorem correct_mark {bytes n : Nat} {cs : List Char}
    (hn : n + (String.ofList ('?' :: cs)).utf8ByteSize = bytes) :
    (front ('?' :: cs)).Correct bytes n ('?' :: cs) := by
  by_cases hnumber : ∃ first rest, cs = first :: rest ∧ isAsciiDigit first = true
  · obtain ⟨first, rest, rfl, hfirst⟩ := hnumber
    obtain ⟨hrest, hname, hends⟩ := nameBody_spec rest
    have hrefused : Refusal n _ _ := .numbered hfirst hname hends
    rw [← hrest] at hrefused
    rw [front_numbered rest hfirst]
    exact hrefused
  · have hnext : ∀ c, cs.head? = some c → isAsciiDigit c = false := by
      intro c hc
      obtain ⟨rest, rfl⟩ := List.head?_eq_some_iff.mp hc
      exact Bool.eq_false_iff.mpr fun h => hnumber ⟨c, rest, rfl, h⟩
    rw [front_anonymous hnext, Front.Correct, toError_anonymous hn]
    exact .anonymous hnext

theorem correct_named {sign first : Char} (hs : sign = '@' ∨ sign = '$')
    (hfirst : isNameStart first = true) (bytes n : Nat) (cs : List Char) :
    (front (sign :: first :: cs)).Correct bytes n (sign :: first :: cs) := by
  obtain ⟨hcs, hname, hends⟩ := nameBody_spec cs
  have hrefused : Refusal n _ _ := .named hs hfirst hname hends
  rw [← hcs] at hrefused
  rw [front_named cs hs hfirst]
  exact hrefused

/-- **The front of a text**: an item is found only where it stands, and a fault only where no item
does. -/
theorem front_correct {bytes n : Nat} {cs : List Char}
    (hn : n + (String.ofList cs).utf8ByteSize = bytes) : (front cs).Correct bytes n cs := by
  by_cases hopens : Opens cs
  · cases hopens with
    | literal hq => exact correct_quote hq bytes n _
    | bracket => exact correct_bracket bytes n _
    | line => exact correct_line bytes n _
    | block => exact correct_block bytes n _
    | placeholder hc => exact correct_placeholder hc bytes n _
  · by_cases hforeign : Foreign cs
    · cases hforeign with
      | mark => exact correct_mark hn
      | named hs hc => exact correct_named hs hc bytes n _
    · cases cs with
      | nil => rfl
      | cons c rest =>
          rw [front_other hopens hforeign]
          exact .other hopens hforeign

/-- The item that stands at the front of a text is found. -/
theorem front_of_item {cs rest : List Char} {l : Lexeme} (h : Item cs l rest) :
    front cs = .lexeme l rest := by
  cases h with
  | literal hq hrest => rw [front_quote hq, literalFront, quotedBody_doubled _ _ hrest]
  | bracket hbody => rw [front_bracket, bracketBody_append rest hbody]
  | line hbody => rw [front_line, lineBody_append rest hbody]
  | lastLine hbody => rw [front_line, lineBody_of_not_mem hbody]
  | block hbody => rw [front_block, blockBody_append rest hbody]
  | placeholder hfirst htail hrest =>
      rw [front_placeholder _ hfirst, nameBody_append htail hrest]
  | other hopens hforeign => exact front_other hopens hforeign

/-- Where a text is refused the scanner finds a fault, with the same error. -/
theorem front_of_refusal {bytes n : Nat} {cs : List Char} {e : BindingError}
    (hn : n + (String.ofList cs).utf8ByteSize = bytes) (h : Refusal n cs e) :
    ∃ f, front cs = .fault f ∧ f.toError bytes = e := by
  cases h with
  | @literal quote rest hq hopen =>
      have hread : quotedBody quote rest = none := by
        rw [Option.eq_none_iff_forall_ne_some]
        rintro ⟨body, tail⟩ hsome
        obtain ⟨content, htail, -, hrest⟩ := quotedBody_eq_some_iff.mp hsome
        exact hopen content tail htail hrest
      refine ⟨_, ?_, toError_quote bytes quote⟩
      rw [front_quote hq, literalFront, hread]
  | bracket hopen =>
      refine ⟨.unterminatedIdentifier, ?_, rfl⟩
      rw [front_bracket, bracketBody_eq_none_iff.mpr hopen]
  | block hopen =>
      refine ⟨.unterminatedComment, ?_, rfl⟩
      rw [front_block, blockBody_eq_none_iff.mpr hopen]
  | anonymous hnext => exact ⟨_, front_anonymous hnext, toError_anonymous hn⟩
  | numbered hfirst htail hrest =>
      refine ⟨_, front_numbered _ hfirst, ?_⟩
      rw [nameBody_append htail hrest, LexFault.toError]
  | named hs hfirst htail hrest =>
      refine ⟨_, front_named _ hs hfirst, ?_⟩
      rw [nameBody_append htail hrest, LexFault.toError]

/-! ## the whole text -/

theorem lex_of_finished {cs : List Char} (h : front cs = .finished) : lex cs = .ok [] := by
  unfold lex
  split <;> simp_all

theorem lex_of_fault {cs : List Char} {f : LexFault} (h : front cs = .fault f) :
    lex cs = .error f := by
  unfold lex
  split <;> simp_all

theorem lex_of_lexeme {cs rest : List Char} {l : Lexeme} (h : front cs = .lexeme l rest) :
    lex cs = (lex rest).map (l :: ·) := by
  rw [lex]
  split <;> simp_all

theorem lex_nil : lex [] = .ok [] := lex_of_finished rfl

/-- An item is its own characters. -/
theorem eq_chars_append_of_item {cs rest : List Char} {l : Lexeme} (h : Item cs l rest) :
    cs = l.chars ++ rest := by
  cases h <;> simp [chars]

theorem chars_ne_nil_of_item {cs rest : List Char} {l : Lexeme} (h : Item cs l rest) :
    l.chars ≠ [] := by
  cases h <;> simp [chars]

/-- The characters of the items are the text that was read. -/
theorem eq_chars_append_of_readsTo {cs rest : List Char} {ls : List Lexeme}
    (h : ReadsTo cs ls rest) : cs = ls.flatMap chars ++ rest := by
  induction h with
  | nil => rfl
  | cons hl _ ih =>
      rw [List.flatMap_cons, List.append_assoc, ← ih]
      exact eq_chars_append_of_item hl

theorem chars_ne_nil_of_readsTo {cs rest : List Char} {ls : List Lexeme} (h : ReadsTo cs ls rest) :
    ∀ l ∈ ls, l.chars ≠ [] := by
  induction h with
  | nil => simp
  | cons hl _ ih => exact List.forall_mem_cons.mpr ⟨chars_ne_nil_of_item hl, ih⟩

/-- Reading goes on behind the items that were read. -/
theorem lex_of_readsTo {cs rest : List Char} {ls : List Lexeme} (h : ReadsTo cs ls rest) :
    lex cs = (lex rest).map (ls ++ ·) := by
  induction h with
  | @nil cs => cases lex cs <;> rfl
  | @cons _ _ _ _ rest hl _ ih =>
      rw [lex_of_lexeme (front_of_item hl), ih]
      cases lex rest <;> rfl

/-- Bytes of a text, counted item by item. -/
theorem utf8ByteSize_append (n : Nat) (cs ds : List Char) :
    n + (String.ofList (cs ++ ds)).utf8ByteSize =
      n + (String.ofList cs).utf8ByteSize + (String.ofList ds).utf8ByteSize := by
  rw [String.ofList_append, String.utf8ByteSize_append, Nat.add_assoc]

/-- **Reading a text**: the scanner stops at its end, or at the first place that is refused. -/
theorem lex_correct {bytes : Nat} (n : Nat) (cs : List Char)
    (hn : n + (String.ofList cs).utf8ByteSize = bytes) :
    (∃ ls, lex cs = .ok ls ∧ Reads cs ls) ∨
      ∃ f ls rest, lex cs = .error f ∧ ReadsTo cs ls rest ∧
        Refusal (n + (String.ofList (ls.flatMap chars)).utf8ByteSize) rest (f.toError bytes) := by
  have hfront := front_correct hn
  cases h : front cs with
  | finished =>
      rw [h] at hfront
      subst hfront
      exact .inl ⟨[], lex_nil, .nil⟩
  | fault f =>
      rw [h] at hfront
      exact .inr ⟨f, [], cs, lex_of_fault h, .nil, by simpa [Front.Correct] using hfront⟩
  | lexeme l rest =>
      rw [h] at hfront
      have hitem : Item cs l rest := hfront
      have hcs := eq_chars_append_of_item hitem
      rw [hcs, utf8ByteSize_append] at hn
      rcases lex_correct (n + (String.ofList l.chars).utf8ByteSize) rest hn with
        ⟨ls, hls, hreads⟩ | ⟨f, ls, last, hls, hreads, hrefused⟩
      · refine .inl ⟨l :: ls, ?_, .cons hitem hreads⟩
        rw [lex_of_lexeme h, hls]
        rfl
      · refine .inr ⟨f, l :: ls, last, ?_, .cons hitem hreads, ?_⟩
        · rw [lex_of_lexeme h, hls]
          rfl
        · rw [List.flatMap_cons, utf8ByteSize_append]
          exact hrefused
termination_by cs.length
decreasing_by exact front_length h

/-- The lexemes of a text are the items that it is. -/
theorem lex_eq_ok_iff {cs : List Char} {ls : List Lexeme} : lex cs = .ok ls ↔ Reads cs ls := by
  constructor
  · intro h
    rcases lex_correct 0 cs rfl with ⟨ls', hls, hreads⟩ | ⟨f, _, _, hf, -⟩
    · rw [h] at hls
      cases hls
      exact hreads
    · rw [h] at hf
      contradiction
  · intro h
    rw [lex_of_readsTo h, lex_nil]
    simp [Except.map]

/-- A fault is found iff reading meets a place that is refused, and the error is that of the place. -/
theorem lex_eq_error_iff {cs : List Char} {e : BindingError} :
    (∃ f, lex cs = .error f ∧ f.toError (String.ofList cs).utf8ByteSize = e) ↔
      ∃ ls rest, ReadsTo cs ls rest ∧
        Refusal (String.ofList (ls.flatMap chars)).utf8ByteSize rest e := by
  constructor
  · rintro ⟨f, hf, rfl⟩
    rcases lex_correct 0 cs rfl with ⟨ls, hls, -⟩ | ⟨f', ls, rest, hf', hreads, hrefused⟩
    · rw [hf] at hls
      contradiction
    · rw [hf] at hf'
      cases hf'
      exact ⟨ls, rest, hreads, by simpa using hrefused⟩
  · rintro ⟨ls, rest, hreads, hrefused⟩
    have hn : (String.ofList (ls.flatMap chars)).utf8ByteSize + (String.ofList rest).utf8ByteSize =
        (String.ofList cs).utf8ByteSize := by
      have happend := utf8ByteSize_append 0 (ls.flatMap chars) rest
      rw [← eq_chars_append_of_readsTo hreads] at happend
      omega
    obtain ⟨f, hf, rfl⟩ := front_of_refusal hn hrefused
    refine ⟨f, ?_, rfl⟩
    rw [lex_of_readsTo hreads, lex_of_fault hf]
    rfl

end DaoForge.Lexeme
