import DaoForge.Text.CharClass

/-!
# DaoForge.Query.Lexeme

SQL text as a sequence of lexemes. At each position the first rule that fits decides:

1. a quote (single, double, or backtick) opens a literal that ends at the next such quote, a doubled
   one standing for the quote itself;
2. `[` opens an identifier that ends at the next `]`;
3. `--` opens a comment that ends after the newline or with the text;
4. `/` and `*` open a comment that ends at the next `*` and `/`;
5. `:` before a letter or underscore opens a placeholder, whose name is the maximal run of letters,
   digits and underscores;
6. `?`, and `@` or `$` before a letter or underscore, are refused: they are placeholders without a
   name of the function's;
7. any other character stands for itself.

`Lexeme.lex` is total; a literal, identifier or block comment that does not end is a fault.
-/

namespace DaoForge

/-- A piece of SQL text. -/
inductive Lexeme where
  /-- A literal or a quoted identifier, delimiters included. -/
  | literal (chars : List Char)
  /-- A comment, delimiters included. -/
  | comment (chars : List Char)
  /-- The placeholder `:name`. -/
  | placeholder (name : List Char)
  /-- Any other character. -/
  | other (c : Char)
  deriving DecidableEq, Repr

/-- Why SQL text has no lexemes. Faults keep the text from the position at which they arise. -/
inductive LexFault where
  | unterminatedLiteral
  | unterminatedIdentifier
  | unterminatedComment
  /-- A `?` without a number. -/
  | anonymous (rest : List Char)
  /-- A numbered `?`, or a name after `@` or `$`; `placeholder` is its text. -/
  | unsupported (placeholder : List Char)
  deriving DecidableEq, Repr

namespace Lexeme

/-- The characters of a lexeme. -/
def chars : Lexeme → List Char
  | .literal chars => chars
  | .comment chars => chars
  | .placeholder name => ':' :: name
  | .other c => [c]

/-- What follows an opening quote, up to and including the closing one, and the rest. -/
def quotedBody (quote : Char) : List Char → Option (List Char × List Char)
  | [] => none
  | [c] => if c = quote then some ([c], []) else none
  | c :: d :: rest =>
    if c = quote then
      if d = quote then (quotedBody quote rest).map fun (body, rest) => (c :: d :: body, rest)
      else some ([c], d :: rest)
    else (quotedBody quote (d :: rest)).map fun (body, rest) => (c :: body, rest)

/-- What follows an opening bracket, up to and including the closing one, and the rest. -/
def bracketBody : List Char → Option (List Char × List Char)
  | [] => none
  | c :: rest =>
    if c = ']' then some ([c], rest)
    else (bracketBody rest).map fun (body, rest) => (c :: body, rest)

/-- A line comment up to and including its newline, and the rest. -/
def lineBody : List Char → List Char × List Char
  | [] => ([], [])
  | c :: rest =>
    if c = '\n' then ([c], rest)
    else
      let (body, rest) := lineBody rest
      (c :: body, rest)

/-- What follows the opening of a block comment, up to and including its end, and the rest. -/
def blockBody : List Char → Option (List Char × List Char)
  | [] => none
  | [_] => none
  | c :: d :: rest =>
    if c = '*' ∧ d = '/' then some ([c, d], rest)
    else (blockBody (d :: rest)).map fun (body, rest) => (c :: body, rest)

/-- The name at the front of a text, and the rest. -/
def nameBody (cs : List Char) : List Char × List Char :=
  (cs.takeWhile CharClass.isNameContinue, cs.dropWhile CharClass.isNameContinue)

/-- What stands at the front of a text. -/
inductive Front where
  | finished
  | lexeme (l : Lexeme) (rest : List Char)
  | fault (f : LexFault)
  deriving DecidableEq, Repr

/-- A literal that `quote` opens. -/
def literalFront (quote : Char) (fault : LexFault) (rest : List Char) : Front :=
  match quotedBody quote rest with
  | some (body, rest) => .lexeme (.literal (quote :: body)) rest
  | none => .fault fault

/-- A name opens at the front of the text. -/
def opensName : List Char → Bool
  | [] => false
  | c :: _ => CharClass.isNameStart c

/-- A digit stands at the front of the text. -/
def opensNumber : List Char → Bool
  | [] => false
  | c :: _ => CharClass.isAsciiDigit c

/-- The first lexeme of a text. -/
def front : List Char → Front
  | [] => .finished
  | c :: rest =>
    if c = '\'' then literalFront c .unterminatedLiteral rest
    else if c = '"' ∨ c = '\x60' then literalFront c .unterminatedIdentifier rest
    else if c = '[' then
      match bracketBody rest with
      | some (body, rest) => .lexeme (.literal (c :: body)) rest
      | none => .fault .unterminatedIdentifier
    else if c = '-' ∧ rest.head? = some '-' then
      let (body, rest) := lineBody rest
      .lexeme (.comment (c :: body)) rest
    else if c = '/' ∧ rest.head? = some '*' then
      match blockBody rest.tail with
      | some (body, rest) => .lexeme (.comment (c :: '*' :: body)) rest
      | none => .fault .unterminatedComment
    else if c = ':' ∧ opensName rest then
      let (name, rest) := nameBody rest
      .lexeme (.placeholder name) rest
    else if c = '?' then
      if opensNumber rest then .fault (.unsupported (c :: (nameBody rest).1))
      else .fault (.anonymous (c :: rest))
    else if (c = '@' ∨ c = '$') ∧ opensName rest then
      .fault (.unsupported (c :: (nameBody rest).1))
    else .lexeme (.other c) rest

/-! ## every lexeme takes a character -/

theorem quotedBody_length {quote : Char} {cs body rest : List Char}
    (h : quotedBody quote cs = some (body, rest)) : rest.length < cs.length := by
  fun_induction quotedBody quote cs generalizing body rest with
  | case1 => simp at h
  | case2 => simp at h; obtain ⟨_, rfl⟩ := h; simp
  | case3 => simp at h
  | case4 tail ih =>
    simp only [Option.map_eq_some_iff, Prod.exists, Prod.mk.injEq] at h
    obtain ⟨b, r, hb, _, rfl⟩ := h
    have := ih hb
    simp only [List.length_cons]; omega
  | case5 d tail hd => simp at h; obtain ⟨_, rfl⟩ := h; simp
  | case6 c d tail hc ih =>
    simp only [Option.map_eq_some_iff, Prod.exists, Prod.mk.injEq] at h
    obtain ⟨b, r, hb, _, rfl⟩ := h
    have := ih hb
    simp only [List.length_cons] at *; omega

theorem bracketBody_length {cs body rest : List Char} (h : bracketBody cs = some (body, rest)) :
    rest.length < cs.length := by
  fun_induction bracketBody cs generalizing body rest with
  | case1 => simp at h
  | case2 tail => simp at h; obtain ⟨_, rfl⟩ := h; simp
  | case3 c tail hc ih =>
    simp only [Option.map_eq_some_iff, Prod.exists, Prod.mk.injEq] at h
    obtain ⟨b, r, hb, _, rfl⟩ := h
    have := ih hb
    simp only [List.length_cons]; omega

theorem lineBody_length (cs : List Char) : (lineBody cs).2.length ≤ cs.length := by
  fun_induction lineBody cs with
  | case1 => simp
  | case2 tail => simp
  | case3 c tail hc body rest hb ih => simp_all; omega

theorem blockBody_length {cs body rest : List Char} (h : blockBody cs = some (body, rest)) :
    rest.length < cs.length := by
  fun_induction blockBody cs generalizing body rest with
  | case1 => simp at h
  | case2 => simp at h
  | case3 c d tail hc => simp at h; obtain ⟨_, rfl⟩ := h; simp only [List.length_cons]; omega
  | case4 c d tail hc ih =>
    simp only [Option.map_eq_some_iff, Prod.exists, Prod.mk.injEq] at h
    obtain ⟨b, r, hb, _, rfl⟩ := h
    have := ih hb
    simp only [List.length_cons] at *; omega

theorem nameBody_length (cs : List Char) : (nameBody cs).2.length ≤ cs.length := by
  simpa [nameBody] using (List.dropWhile_sublist CharClass.isNameContinue).length_le

theorem literalFront_length {quote : Char} {fault : LexFault} {cs rest : List Char} {l : Lexeme}
    (h : literalFront quote fault cs = .lexeme l rest) : rest.length < cs.length := by
  unfold literalFront at h
  split at h
  · next body r hb =>
    simp only [Front.lexeme.injEq] at h
    obtain ⟨_, rfl⟩ := h
    exact quotedBody_length hb
  · simp at h

/-- The rest after a lexeme is shorter than the text. -/
theorem front_length {cs rest : List Char} {l : Lexeme} (h : front cs = .lexeme l rest) :
    rest.length < cs.length := by
  unfold front at h
  split at h
  · simp at h
  · next c tail =>
    simp only [List.length_cons]
    split at h
    · have := literalFront_length h; omega
    split at h
    · have := literalFront_length h; omega
    split at h
    · split at h
      · next hb =>
        simp only [Front.lexeme.injEq] at h
        obtain ⟨_, rfl⟩ := h
        have := bracketBody_length hb; omega
      · simp at h
    split at h
    · simp only [Front.lexeme.injEq] at h
      obtain ⟨_, rfl⟩ := h
      have := lineBody_length tail; omega
    split at h
    · split at h
      · next hb =>
        simp only [Front.lexeme.injEq] at h
        obtain ⟨_, rfl⟩ := h
        have := blockBody_length hb
        simp only [List.length_tail] at this; omega
      · simp at h
    split at h
    · simp only [Front.lexeme.injEq] at h
      obtain ⟨_, rfl⟩ := h
      have := nameBody_length tail; omega
    split at h
    · split at h <;> simp at h
    split at h
    · simp at h
    · simp only [Front.lexeme.injEq] at h
      obtain ⟨_, rfl⟩ := h
      omega

/-- The lexemes of a text, or the first fault in it. -/
def lex (cs : List Char) : Except LexFault (List Lexeme) :=
  match _hf : front cs with
  | .finished => .ok []
  | .fault f => .error f
  | .lexeme l rest => (lex rest).map (l :: ·)
termination_by cs.length
decreasing_by exact front_length _hf

end Lexeme

end DaoForge
