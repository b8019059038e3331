import DaoForge.Query.RawQuery

/-!
# DaoForge.Proofs.Query.Grammar

The grammar of SQL text, stated without the readers of `DaoForge.Query.Lexeme`:

* `Item cs l rest` — the text `cs` begins with the item `l`, and `rest` follows it;
* `ReadsTo cs ls rest` — the items `ls`, one after another, lead from `cs` to `rest`;
* `Refusal n cs e` — no item begins at `cs`, which stands `n` bytes into the text; `e` says why.

Each reader is then shown to find exactly the items of its kind (`quotedBody_eq_some_iff`,
`bracketBody_eq_some_iff`, `lineBody_append`, `blockBody_eq_some_iff`, `nameBody_append`).
-/

namespace DaoForge.Lexeme

open CharClass

/-! ## items -/

/-- The characters that open a literal which ends with the same character. -/
def quotes : List Char := ['\'', '"', '\x60']

/-- A text as it stands between quotes: each quote in it is written twice. -/
def doubled (quote : Char) : List Char → List Char
  | [] => []
  | c :: rest =>
    if c = quote then c :: c :: doubled quote rest else c :: doubled quote rest

/-- The text shows the opening of a literal, a bracket, a comment or a placeholder. -/
inductive Opens : List Char → Prop
  | literal (hq : quote ∈ quotes) : Opens (quote :: rest)
  | bracket : Opens ('[' :: rest)
  | line : Opens ('-' :: '-' :: rest)
  | block : Opens ('/' :: '*' :: rest)
  | placeholder (hc : isNameStart c = true) : Opens (':' :: c :: rest)

/-- The text shows a placeholder that is not a name of the function's. -/
inductive Foreign : List Char → Prop
  | mark : Foreign ('?' :: rest)
  | named (hs : sign = '@' ∨ sign = '$') (hc : isNameStart c = true) : Foreign (sign :: c :: rest)

/-- No character at the front of the text continues a name. -/
def EndsName (rest : List Char) : Prop := ∀ c, rest.head? = some c → isNameContinue c = false

/-- `Item cs l rest`: the item `l` stands at the front of `cs`, and `rest` follows. -/
inductive Item : List Char → Lexeme → List Char → Prop
  | literal (hq : quote ∈ quotes) (hrest : rest.head? ≠ some quote) :
      Item (quote :: (doubled quote content ++ quote :: rest))
        (.literal (quote :: (doubled quote content ++ [quote]))) rest
  | bracket (hbody : ']' ∉ body) :
      Item ('[' :: (body ++ ']' :: rest)) (.literal ('[' :: (body ++ [']']))) rest
  | line (hbody : '\n' ∉ body) :
      Item ('-' :: '-' :: (body ++ '\n' :: rest)) (.comment ('-' :: '-' :: (body ++ ['\n']))) rest
  | lastLine (hbody : '\n' ∉ body) : Item ('-' :: '-' :: body) (.comment ('-' :: '-' :: body)) []
  | block (hbody : ¬ ['*', '/'] <:+: body) :
      Item ('/' :: '*' :: (body ++ '*' :: '/' :: rest))
        (.comment ('/' :: '*' :: (body ++ ['*', '/']))) rest
  | placeholder (hfirst : isNameStart first = true) (htail : ∀ c ∈ tail, isNameContinue c = true)
      (hrest : EndsName rest) :
      Item (':' :: first :: (tail ++ rest)) (.placeholder (first :: tail)) rest
  | other (hopens : ¬ Opens (c :: rest)) (hforeign : ¬ Foreign (c :: rest)) :
      Item (c :: rest) (.other c) rest

/-- `ReadsTo cs ls rest`: `cs` is the items `ls`, followed by `rest`. -/
inductive ReadsTo : List Char → List Lexeme → List Char → Prop
  | nil : ReadsTo cs [] cs
  | cons (hl : Item cs l mid) (hls : ReadsTo mid ls rest) : ReadsTo cs (l :: ls) rest

/-- The text is the items, and nothing else. -/
def Reads (cs : List Char) (ls : List Lexeme) : Prop := ReadsTo cs ls []

/-- What a literal is called in an error. -/
def literalName (quote : Char) : String :=
  if quote = '\'' then "string literal" else "quoted identifier"

/-- `Refusal n cs e`: at `cs`, which stands `n` bytes into the text, no item can be read. -/
inductive Refusal (n : Nat) : List Char → BindingError → Prop
  | literal (hq : quote ∈ quotes)
      (hopen : ∀ content rest, rest.head? ≠ some quote → cs ≠ doubled quote content ++ quote :: rest) :
      Refusal n (quote :: cs) (.unterminated (literalName quote))
  | bracket (hopen : ']' ∉ cs) : Refusal n ('[' :: cs) (.unterminated "quoted identifier")
  | block (hopen : ¬ ['*', '/'] <:+: cs) : Refusal n ('/' :: '*' :: cs) (.unterminated "block comment")
  | anonymous (hnext : ∀ c, cs.head? = some c → isAsciiDigit c = false) :
      Refusal n ('?' :: cs) (.anonymousPlaceholder n)
  | numbered (hfirst : isAsciiDigit first = true) (htail : ∀ c ∈ tail, isNameContinue c = true)
      (hrest : EndsName rest) :
      Refusal n ('?' :: first :: (tail ++ rest))
        (.unsupportedPlaceholder (String.ofList ('?' :: first :: tail)))
  | named (hs : sign = '@' ∨ sign = '$') (hfirst : isNameStart first = true)
      (htail : ∀ c ∈ tail, isNameContinue c = true) (hrest : EndsName rest) :
      Refusal n (sign :: first :: (tail ++ rest))
        (.unsupportedPlaceholder (String.ofList (sign :: first :: tail)))

/-! ## literals -/

theorem quotedBody_doubled (quote : Char) (content : List Char) {rest : List Char}
    (hrest : rest.head? ≠ some quote) :
    quotedBody quote (doubled quote content ++ quote :: rest) =
      some (doubled quote content ++ [quote], rest) := by
  induction content with
  | nil =>
      cases rest with
      | nil => simp [doubled, quotedBody]
      | cons d tail =>
          have hd : d ≠ quote := fun h => hrest (by simp [h])
          simp [doubled, quotedBody, hd]
  | cons c content ih =>
      by_cases hc : c = quote
      · simp [doubled, hc, quotedBody, ih]
      · -- the quote at the end keeps the tail from being empty
        obtain ⟨d, tail, htail⟩ : ∃ d tail, doubled quote content ++ quote :: rest = d :: tail :=
          List.exists_cons_of_ne_nil (by simp)
        rw [doubled, if_neg hc, List.cons_append, htail, quotedBody, if_neg hc, ← htail, ih]
        rfl

/-- The reader of literals finds the first quote that is not doubled. -/
theorem quotedBody_eq_some_iff {quote : Char} {cs body rest : List Char} :
    quotedBody quote cs = some (body, rest) ↔
      ∃ content, rest.head? ≠ some quote ∧ body = doubled quote content ++ [quote] ∧
        cs = doubled quote content ++ quote :: rest := by
  constructor
  · intro h
    fun_induction quotedBody quote cs generalizing body rest with
    | case1 => contradiction
    | case2 =>
        simp only [Option.some.injEq, Prod.mk.injEq] at h
        obtain ⟨rfl, rfl⟩ := h
        exact ⟨[], by simp [doubled]⟩
    | case3 => contradiction
    | case4 tail ih =>
        simp only [Option.map_eq_some_iff, Prod.exists, Prod.mk.injEq] at h
        obtain ⟨b, r, hb, rfl, rfl⟩ := h
        obtain ⟨content, hrest, rfl, rfl⟩ := ih hb
        exact ⟨quote :: content, hrest, by simp [doubled], by simp [doubled]⟩
    | case5 d tail hd =>
        simp only [Option.some.injEq, Prod.mk.injEq] at h
        obtain ⟨rfl, rfl⟩ := h
        exact ⟨[], by simpa using hd, by simp [doubled], by simp [doubled]⟩
    | case6 c d tail hc ih =>
        simp only [Option.map_eq_some_iff, Prod.exists, Prod.mk.injEq] at h
        obtain ⟨b, r, hb, rfl, rfl⟩ := h
        obtain ⟨content, hrest, rfl, hcs⟩ := ih hb
        exact ⟨c :: content, hrest, by simp [doubled, hc], by simp [doubled, hc, hcs]⟩
  · rintro ⟨content, hrest, rfl, rfl⟩
    exact quotedBody_doubled quote content hrest

/-! ## brackets -/

theorem bracketBody_append {inner : List Char} (rest : List Char) (hinner : ']' ∉ inner) :
    bracketBody (inner ++ ']' :: rest) = some (inner ++ [']'], rest) := by
  induction inner with
  | nil => simp [bracketBody]
  | cons c inner ih =>
      simp only [List.mem_cons, not_or] at hinner
      have hc : c ≠ ']' := fun h => hinner.1 h.symm
      simp [bracketBody, hc, ih hinner.2]

/-- The reader of bracketed identifiers finds the first closing bracket. -/
theorem bracketBody_eq_some_iff {cs body rest : List Char} :
    bracketBody cs = some (body, rest) ↔
      ∃ inner, ']' ∉ inner ∧ body = inner ++ [']'] ∧ cs = inner ++ ']' :: rest := by
  constructor
  · intro h
    fun_induction bracketBody cs generalizing body rest with
    | case1 => contradiction
    | case2 tail =>
        simp only [Option.some.injEq, Prod.mk.injEq] at h
        obtain ⟨rfl, rfl⟩ := h
        exact ⟨[], by simp⟩
    | case3 c tail hc ih =>
        simp only [Option.map_eq_some_iff, Prod.exists, Prod.mk.injEq] at h
        obtain ⟨b, r, hb, rfl, rfl⟩ := h
        obtain ⟨inner, hinner, rfl, rfl⟩ := ih hb
        exact ⟨c :: inner, by simp [hinner, Ne.symm hc], rfl, rfl⟩
  · rintro ⟨inner, hinner, rfl, rfl⟩
    exact bracketBody_append rest hinner

/-- A bracketed identifier is unclosed iff no closing bracket follows. -/
theorem bracketBody_eq_none_iff {cs : List Char} : bracketBody cs = none ↔ ']' ∉ cs := by
  fun_induction bracketBody cs with
  | case1 => simp
  | case2 tail => simp
  | case3 c tail hc ih => simp [ih, Ne.symm hc]

/-! ## comments -/

theorem lineBody_append {body : List Char} (rest : List Char) (hbody : '\n' ∉ body) :
    lineBody (body ++ '\n' :: rest) = (body ++ ['\n'], rest) := by
  induction body with
  | nil => simp [lineBody]
  | cons c body ih =>
      simp only [List.mem_cons, not_or] at hbody
      have hc : c ≠ '\n' := fun h => hbody.1 h.symm
      simp [lineBody, hc, ih hbody.2]

theorem lineBody_of_not_mem {body : List Char} (hbody : '\n' ∉ body) :
    lineBody body = (body, []) := by
  induction body with
  | nil => rfl
  | cons c body ih =>
      simp only [List.mem_cons, not_or] at hbody
      have hc : c ≠ '\n' := fun h => hbody.1 h.symm
      simp [lineBody, hc, ih hbody.2]

/-- A line comment ends after the first newline, or with the text. -/
theorem lineBody_cases (cs : List Char) :
    (∃ body rest, '\n' ∉ body ∧ cs = body ++ '\n' :: rest) ∨ '\n' ∉ cs := by
  by_cases h : '\n' ∈ cs
  · obtain ⟨body, rest, hcs, hbody⟩ := List.eq_append_cons_of_mem h
    exact Or.inl ⟨body, rest, hbody, hcs⟩
  · exact Or.inr h

theorem infix_cons_iff_of_ne {c d : Char} {cs : List Char} (h : ¬ (c = '*' ∧ d = '/')) :
    ['*', '/'] <:+: c :: d :: cs ↔ ['*', '/'] <:+: d :: cs := by
  rw [List.infix_cons_iff]
  constructor
  · rintro (hp | hi)
    · obtain ⟨hc, hp⟩ := List.cons_prefix_cons.mp hp
      obtain ⟨hd, -⟩ := List.cons_prefix_cons.mp hp
      exact absurd ⟨hc.symm, hd.symm⟩ h
    · exact hi
  · exact Or.inr

/-- A block comment is unclosed iff no end of a comment follows its opening. -/
theorem blockBody_eq_none_iff {cs : List Char} : blockBody cs = none ↔ ¬ ['*', '/'] <:+: cs := by
  fun_induction blockBody cs with
  | case1 => simp
  | case2 c => simp [List.infix_cons_iff]
  | case3 c d tail hc =>
      obtain ⟨rfl, rfl⟩ := hc
      have hends : ['*', '/'] <:+: '*' :: '/' :: tail := List.IsPrefix.isInfix ⟨tail, rfl⟩
      simp [hends]
  | case4 c d tail hc ih => rw [Option.map_eq_none_iff, ih, infix_cons_iff_of_ne hc]

theorem blockBody_append {inner : List Char} (rest : List Char) (h : ¬ ['*', '/'] <:+: inner) :
    blockBody (inner ++ '*' :: '/' :: rest) = some (inner ++ ['*', '/'], rest) := by
  induction inner with
  | nil => simp [blockBody]
  | cons c inner ih =>
      have htail : ¬ ['*', '/'] <:+: inner := fun hi => h (hi.trans (List.suffix_cons c inner).isInfix)
      cases inner with
      | nil => simp [blockBody]
      | cons d inner =>
          have hcd : ¬ (c = '*' ∧ d = '/') := by
            rintro ⟨rfl, rfl⟩
            exact h (List.IsPrefix.isInfix ⟨inner, rfl⟩)
          have hrest := ih htail
          simp only [List.cons_append] at hrest ⊢
          rw [blockBody, if_neg hcd, hrest]
          rfl

/-- The reader of block comments finds the first end of a comment. -/
theorem blockBody_eq_some_iff {cs body rest : List Char} :
    blockBody cs = some (body, rest) ↔
      ∃ inner, ¬ ['*', '/'] <:+: inner ∧ body = inner ++ ['*', '/'] ∧
        cs = inner ++ '*' :: '/' :: rest := by
  constructor
  · intro h
    fun_induction blockBody cs generalizing body rest with
    | case1 => contradiction
    | case2 => contradiction
    | case3 c d tail hc =>
        simp only [Option.some.injEq, Prod.mk.injEq] at h
        obtain ⟨rfl, rfl⟩ := h
        obtain ⟨rfl, rfl⟩ := hc
        exact ⟨[], by simp⟩
    | case4 c d tail hc ih =>
        simp only [Option.map_eq_some_iff, Prod.exists, Prod.mk.injEq] at h
        obtain ⟨b, r, hb, rfl, rfl⟩ := h
        obtain ⟨inner, hinner, rfl, hcs⟩ := ih hb
        refine ⟨c :: inner, ?_, rfl, by rw [hcs]; rfl⟩
        cases inner with
        | nil => simp [List.infix_cons_iff]
        | cons e inner =>
            have he : d = e := (List.cons.inj hcs).1
            rw [infix_cons_iff_of_ne (he ▸ hc)]
            exact hinner
  · rintro ⟨inner, hinner, rfl, rfl⟩
    exact blockBody_append rest hinner

/-! ## names -/

/-- The reader of names takes the maximal run. -/
theorem nameBody_append {name rest : List Char} (hname : ∀ c ∈ name, isNameContinue c = true)
    (hrest : EndsName rest) : nameBody (name ++ rest) = (name, rest) := by
  have htake : rest.takeWhile isNameContinue = [] := by
    cases rest with
    | nil => rfl
    | cons c rest => simp [hrest c rfl]
  have hdrop : rest.dropWhile isNameContinue = rest := by
    cases rest with
    | nil => rfl
    | cons c rest => simp [hrest c rfl]
  rw [nameBody, List.takeWhile_append_of_pos hname, List.dropWhile_append_of_pos hname, htake,
    hdrop, List.append_nil]

/-- Every text is a maximal run of a name and what ends it. -/
theorem nameBody_spec (cs : List Char) :
    cs = (nameBody cs).1 ++ (nameBody cs).2 ∧ (∀ c ∈ (nameBody cs).1, isNameContinue c = true) ∧
      EndsName (nameBody cs).2 := by
  refine ⟨List.takeWhile_append_dropWhile.symm, List.all_eq_true.mp List.all_takeWhile, ?_⟩
  intro c hc
  have hhead := List.head?_dropWhile_not isNameContinue cs
  rw [show cs.dropWhile isNameContinue = (nameBody cs).2 from rfl, hc] at hhead
  exact hhead

end DaoForge.Lexeme
