import DaoForge.Proofs.Resolve.Operation
import DaoForge.Proofs.Unit.Reference

/-!
# DaoForge.Proofs.Unit.Scope

What the names in the method of a query stand for.

1. `Line`: the method puts the statement into a variable, and gathers the values in another one. Its code
   is that of its lines, which introduce two variables (`MethodBody.code_query`, `introduces_lines`);
2. `Line.begins`: a line introduces a variable iff it begins with `let`;
3. `QueriesUnit.arguments_captured_iff`: every value is pushed by the name of a parameter of the method,
   and is the parameter's unless that has the name of one of the two variables. Nothing keeps a function
   from having such a parameter.
-/

namespace DaoForge

/-! ## lines -/

/-- A line of the method of a query, up to where the statement is run. -/
inductive Line where
  /-- The text of the statement. -/
  | text (sql : String)
  /-- An empty text, to which pieces are appended. -/
  | buffer
  | piece (piece : StatementPiece)
  /-- A list without values. -/
  | values (isMutable : Bool)
  | push (push : Push)
  deriving Repr

namespace Line

/-- The variable that the line introduces. -/
def introduces? : Line → Option String
  | .text _ | .buffer => some "sql"
  | .values _ => some "params"
  | .piece _ | .push _ => none

/-- The parameter whose value the line pushes. -/
def pushed? : Line → Option String
  | .push p => some p.parameter.name
  | _ => none

def code (n : Naming) : Line → Code
  | .text sql => Code.words "let sql =" ++ Code.string sql ++ Code.word ";"
  | .buffer => Code.words "let mut sql = String :: new () ;"
  | .piece p => p.code n
  | .values isMutable =>
    Code.words (if isMutable then "let mut params : Vec <" else "let params : Vec <") ++
      n.runtimePath "SqlValue > = Vec :: new () ;"
  | .push p => p.code n

end Line

/-- The lines that put the text of a statement into a variable. -/
def StatementText.lines : StatementText → List Line
  | .fixed sql => [.text sql]
  | .assembled pieces => .buffer :: pieces.map .piece

/-- The lines of a method, up to where the statement is run. -/
def queryLines (text : StatementText) (pushes : List Push) : List Line :=
  text.lines ++ .values (!pushes.isEmpty) :: pushes.map .push

section Lines

variable (n : Naming) (text : StatementText) (pushes : List Push)

theorem StatementText.setup_eq : text.setup n = text.lines.flatMap (Line.code n) := by
  cases text with
  | fixed sql => simp [setup, lines, Line.code]
  | assembled pieces =>
      rw [setup, lines, List.flatMap_cons, List.flatMap_map]
      rfl

theorem Push.gather_eq :
    gather n pushes = (Line.values (!pushes.isEmpty) :: pushes.map .push).flatMap (Line.code n) := by
  rw [gather, List.flatMap_cons, List.flatMap_map]
  cases pushes <;> rfl

/-- The code of a method is that of its lines, and then runs the statement. -/
theorem MethodBody.code_query (execution : Execution) :
    (MethodBody.query text pushes execution).code n =
      (queryLines text pushes).flatMap (Line.code n) ++ execution.code n text.argument := by
  rw [code, StatementText.setup_eq, Push.gather_eq, queryLines, List.flatMap_append]

/-- A method introduces two variables. -/
theorem introduces_lines : (queryLines text pushes).filterMap Line.introduces? = ["sql", "params"] := by
  have hpushes : (pushes.map Line.push).filterMap Line.introduces? = [] := by
    simp [Line.introduces?]
  have htext : text.lines.filterMap Line.introduces? = ["sql"] := by
    cases text <;> simp [StatementText.lines, Line.introduces?]
  rw [queryLines, List.filterMap_append, htext, List.filterMap_cons, hpushes]
  rfl

theorem pushed_lines :
    (queryLines text pushes).filterMap Line.pushed? = pushes.map fun push => push.parameter.name := by
  have htext : text.lines.filterMap Line.pushed? = [] := by
    cases text <;> simp [StatementText.lines, Line.pushed?]
  have hpushes : (pushes.map Line.push).filterMap Line.pushed? =
      pushes.map fun push => push.parameter.name := by
    rw [List.filterMap_map]
    exact congrFun List.filterMap_eq_map pushes
  rw [queryLines, List.filterMap_append, htext, List.filterMap_cons, hpushes]
  rfl

end Lines

/-! ## where a line begins -/

/-- A line that introduces a variable begins by naming it, and any other line does not begin with `let`. -/
def Line.Begins (n : Naming) (line : Line) : Prop :=
  match line.introduces? with
  | some name =>
    ∃ rest, line.code n = Code.words "let" ++ Code.word name ++ rest ∨
      line.code n = Code.words "let mut" ++ Code.word name ++ rest
  | none => ∃ first rest, line.code n = Code.word first ++ rest ∧ first ≠ "let"

theorem Naming.runtime_of_ofOptions {options : Options} {n : Naming}
    (h : Naming.ofOptions options = .ok n) : ∃ path, n.runtime = Code.word "::" ++ path := by
  unfold ofOptions at h
  obtain ⟨_, -, h⟩ := bind_eq_ok h
  split at h
  · next path _ =>
    cases h
    exact ⟨path, rfl⟩
  · contradiction

theorem Line.begins {options : Options} {n : Naming} (h : Naming.ofOptions options = .ok n)
    (line : Line) : line.Begins n := by
  cases line with
  | text sql => exact ⟨Code.word "=" ++ Code.string sql ++ Code.word ";", .inl rfl⟩
  | buffer => exact ⟨Code.words "= String :: new () ;", .inr rfl⟩
  | piece p =>
      cases p with
      | text piece => exact ⟨"sql", _, rfl, by decide⟩
      | placeholder => exact ⟨"sql", _, rfl, by decide⟩
      | placeholders parameter =>
          obtain ⟨path, hpath⟩ := Naming.runtime_of_ofOptions h
          have hcode : (Line.piece (.placeholders parameter)).code n =
              Code.word "::" ++ path ++ Code.words ":: push_placeholders" ++
                Code.parens (Code.words "& mut sql ," ++ parameter.code ++ Code.words ". len ()") ++
                Code.word ";" := by
            rw [code, StatementPiece.code, Naming.runtimePath, hpath]
            rfl
          exact ⟨"::", _, hcode, by decide⟩
  | values isMutable =>
      cases isMutable with
      | false => exact ⟨_, .inl rfl⟩
      | true => exact ⟨_, .inr rfl⟩
  | push p =>
      cases p with
      | one argument => exact ⟨"params", _, rfl, by decide⟩
      | each parameter isNullable adapter => exact ⟨"params", _, rfl, by decide⟩

/-! ## parameters -/

/-- A place is named in the code that binds its value. -/
theorem Code.Occurs.bindPlace {piece place : Code} (h : Code.Occurs piece place) (n : Naming)
    (isNullable : Bool) (adapter : Option Ident) :
    Code.Occurs piece (Code.bindPlace n place isNullable adapter) := by
  have hreference : Code.Occurs piece (Code.word "&" ++ place) := h.after _
  cases adapter with
  | none => exact hreference.parens.after _
  | some adapter =>
      cases isNullable with
      | false => exact ((hreference.parens.after _).parens).after _
      | true => exact (((h.before _).before _).parens).after _

theorem Push.occurs_parameter (n : Naming) (push : Push) :
    Code.Occurs push.parameter.code (push.code n) := by
  cases push with
  | one argument =>
      have hname : Code.Occurs argument.name.code argument.name.code := .here
      have hbound := hname.bindPlace n argument.isNullable argument.adapter
      exact (hbound.parens.after _).before _
  | each parameter isNullable adapter =>
      have helements : Code.Occurs parameter.code (parameter.code ++ Code.words ". iter () . map") :=
        Code.Occurs.here.before _
      exact ((helements.before _).parens.after _).before _

/-- A value is pushed by a name that an earlier line gives to a variable. -/
def Captures (lines : List Line) : Prop :=
  ∃ before push after, lines = before ++ .push push :: after ∧
    push.parameter.name ∈ before.filterMap Line.introduces?

theorem mem_lines_push_iff {text : StatementText} {pushes : List Push} {push : Push} :
    .push push ∈ queryLines text pushes ↔ push ∈ pushes := by
  have htext : .push push ∉ text.lines := by
    cases text <;> simp [StatementText.lines]
  simp [queryLines, htext]

/-- Both variables are introduced before the first value is pushed. -/
theorem captures_iff {text : StatementText} {pushes : List Push} :
    Captures (queryLines text pushes) ↔
      ∃ push ∈ pushes, push.parameter.name ∈ ["sql", "params"] := by
  constructor
  · rintro ⟨before, push, after, hlines, hname⟩
    have hmem : .push push ∈ queryLines text pushes := by simp [hlines]
    refine ⟨push, mem_lines_push_iff.mp hmem, ?_⟩
    rw [← introduces_lines text pushes, hlines, List.filterMap_append]
    exact List.mem_append_left _ hname
  · rintro ⟨push, hpush, hname⟩
    obtain ⟨earlier, later, rfl⟩ := List.append_of_mem hpush
    refine ⟨text.lines ++ .values (!(earlier ++ push :: later).isEmpty) :: earlier.map .push, push,
      later.map .push, by simp [queryLines], ?_⟩
    rw [← introduces_lines text earlier, queryLines] at hname
    simpa [Line.introduces?] using hname

/-! ## methods -/

/-- The lines are those of the method of a query. Its code is theirs, up to where the statement is run.
The values that they push are named as the query's placeholders are, each of which is the name of a
parameter of the method. -/
structure Method.Pushes (n : Naming) (m : Method) (q : RawQuery) (lines : List Line) : Prop where
  code : ∃ (text : StatementText) (execution : Execution),
    m.body.code n = lines.flatMap (Line.code n) ++ execution.code n text.argument
  begins : ∀ line ∈ lines, line.Begins n
  names : lines.filterMap Line.pushed? = q.bindings
  occurs : ∀ push, .push push ∈ lines → Code.Occurs push.parameter.code (push.code n)
  parameters : ∀ name ∈ q.bindings, ∃ p ∈ m.parameters, p.1.name = name

namespace Operation

variable {o : Operation} {q : RawQuery}

theorem mem_parameterCodes {codes : List (Ident × Code)} (h : o.parameterCodes = .ok codes)
    {p : BoundParameter} (hp : p ∈ o.parameters) : ∃ code ∈ codes, code.1.name = p.name := by
  obtain ⟨code, hcode, hcomposed⟩ := exists_of_forall₂ (forall₂_of_mapM h).flip hp
  obtain ⟨name, hname, hcomposed⟩ := bind_eq_ok hcomposed
  obtain ⟨type, -, hcomposed⟩ := bind_eq_ok hcomposed
  cases hcomposed
  exact ⟨_, hcode, Ident.name_of hname⟩

/-- The method of a query, line by line. -/
theorem pushes_of_method {options : Options} {n : Naming} (hn : Naming.ofOptions options = .ok n)
    {m : Method} (h : o.method = .ok m) (hkind : o.kind = .raw q) (hbinds : o.Binds q) :
    ∃ text pushes, m.Pushes n q (queryLines text pushes) := by
  obtain ⟨function, -, h⟩ := bind_eq_ok h
  obtain ⟨parameters, hparameters, h⟩ := bind_eq_ok h
  obtain ⟨output, -, h⟩ := bind_eq_ok h
  obtain ⟨body, hbody, h⟩ := bind_eq_ok h
  cases h
  obtain ⟨text, pushes, execution, rfl, -, hpushes⟩ := o.body_raw hkind hbody
  have hcounts := o.counts_pushes (fun _ => 0) hbinds hpushes
  refine ⟨text, pushes, ?_⟩
  constructor
  · exact ⟨text, execution, MethodBody.code_query n text pushes execution⟩
  · exact fun line _ => line.begins hn
  · rw [pushed_lines, ← List.map_id q.bindings]
    exact (map_eq_of_forall₂ (hcounts.imp fun _ _ hcount => hcount.1.symm)).symm
  · exact fun push _ => push.occurs_parameter n
  · intro name hname
    obtain ⟨p, hp, -⟩ := hbinds name hname
    obtain ⟨code, hcode, hcodeName⟩ := mem_parameterCodes hparameters (List.mem_of_find?_eq_some hp)
    have hpName : p.name = name := by simpa using List.find?_some hp
    exact ⟨code, hcode, hcodeName.trans hpName⟩

end Operation

theorem binds_of_daoFindings {c : Catalog} {d : Declaration} {dao : Dao}
    (h : c.daoFindings d = .ok dao) {o : Operation} (ho : o ∈ dao.operations) {q : RawQuery}
    (hkind : o.kind = .raw q) : o.Binds q := by
  obtain ⟨f, -, -, mark, -, -, hasks⟩ := exists_of_forall₂ (operations_of_daoFindings h) ho
  cases hasks with
  | query _ hkind' hbinds =>
      obtain rfl := OperationKind.raw.inj (hkind'.symm.trans hkind)
      exact hbinds
  | insert hkind' => cases hkind'.symm.trans hkind
  | update hkind' => cases hkind'.symm.trans hkind
  | delete hkind' => cases hkind'.symm.trans hkind

/-- **Arguments**: in the method of a query every value is pushed by the name of a parameter, which has
the name of its placeholder. It is the parameter's value unless the parameter has the name of one of the
two variables, for these are introduced before any value is pushed. -/
theorem QueriesUnit.arguments_captured_iff {options : Options} {n : Naming} {c : Catalog}
    {d : Declaration} {dao : Dao} {u : QueriesUnit} (hn : Naming.ofOptions options = .ok n)
    (hdao : c.daoFindings d = .ok dao) (hu : QueriesUnit.of n dao = .ok u) :
    List.Forall₂ (fun o m => ∀ q, Operation.kind o = .raw q → ∃ lines, Method.Pushes n m q lines ∧
        (Captures lines ↔ "sql" ∈ q.bindings ∨ "params" ∈ q.bindings))
      dao.operations u.methods := by
  obtain ⟨name, -, hu⟩ := bind_eq_ok hu
  obtain ⟨adapters, -, hu⟩ := bind_eq_ok hu
  obtain ⟨mappers, -, hu⟩ := bind_eq_ok hu
  obtain ⟨methods, hmethods, hu⟩ := bind_eq_ok hu
  obtain ⟨loaders, -, hu⟩ := bind_eq_ok hu
  cases hu
  have hbinds : ∀ o ∈ dao.operations, ∀ q, o.kind = .raw q → o.Binds q :=
    fun o ho q hkind => binds_of_daoFindings hdao ho hkind
  refine ((List.forall₂_and_left _ _).mpr ⟨hbinds, forall₂_of_mapM hmethods⟩).imp ?_
  rintro o m ⟨hbinds, hmethod⟩ q hkind
  obtain ⟨text, pushes, hpushes⟩ := Operation.pushes_of_method hn hmethod hkind (hbinds q hkind)
  refine ⟨_, hpushes, ?_⟩
  rw [captures_iff, ← hpushes.names, pushed_lines]
  simp only [List.mem_map, List.mem_cons, List.not_mem_nil, or_false, ← exists_or, ← and_or_left]

/-- Saved queries, by their texts. -/
def savedCatalog : Catalog where
  declarations :=
    [{ qualifiedName := "app::Saved"
       annotations := [{ name := "Entity" }]
       properties :=
         [{ name := "text", type := .ofName "String", annotations := [{ name := "PrimaryKey" }] }] }]
  nodup := by decide

/-- A DAO that finds saved queries of a text, which it calls `sql`. -/
def savedDao : Declaration where
  qualifiedName := "app::SavedDao"
  kind := .trait
  annotations := [{ name := "Dao" }]
  functions :=
    [{ name := "find"
       parameters := [{ name := "sql", type := .ofName "String" }]
       returnType := some { name := "Vec", arguments := [.ofName "app::Saved"] }
       annotations :=
         [{ name := "Query"
            arguments := [("value", .text "SELECT * FROM Saved WHERE text = :sql")] }] }]

/-- The method binds the text of its own statement. -/
theorem QueriesUnit.arguments_captured_saved :
    ∃ n dao u o m q lines, Naming.ofOptions {} = .ok n ∧ savedCatalog.daoFindings savedDao = .ok dao ∧
      QueriesUnit.of n dao = .ok u ∧ o ∈ dao.operations ∧ m ∈ u.methods ∧ o.kind = .raw q ∧
      m.Pushes n q lines ∧ Captures lines := by
  have hrun : ((Naming.ofOptions {}).toOption.bind fun n =>
      (savedCatalog.daoFindings savedDao).toOption.bind fun dao =>
        (QueriesUnit.of n dao).toOption.map fun _ => dao.operations.map fun o =>
          match o.kind with
          | .raw q => q.bindings
          | _ => []) = some [["sql"]] := by
    decide +kernel
  obtain ⟨n, hn, hrun⟩ := Option.bind_eq_some_iff.mp hrun
  obtain ⟨dao, hdao, hrun⟩ := Option.bind_eq_some_iff.mp hrun
  obtain ⟨u, hu, hbindings⟩ := Option.map_eq_some_iff.mp hrun
  have hnaming := eq_ok_of_toOption hn
  have hresolved := eq_ok_of_toOption hdao
  have hcomposed := eq_ok_of_toOption hu
  have hmethods := QueriesUnit.arguments_captured_iff hnaming hresolved hcomposed
  obtain ⟨o, ho⟩ := List.length_eq_one_iff.mp (by simpa using congrArg List.length hbindings)
  rw [ho, List.forall₂_cons_left_iff] at hmethods
  obtain ⟨m, rest, hmethod, -, hm⟩ := hmethods
  rw [ho, List.map_singleton, List.singleton_inj] at hbindings
  split at hbindings
  · next q hkind =>
    obtain ⟨lines, hpushes, hcaptures⟩ := hmethod q hkind
    refine ⟨n, dao, u, o, m, q, lines, hnaming, hresolved, hcomposed, by simp [ho], by simp [hm],
      hkind, hpushes, hcaptures.mpr (.inl ?_)⟩
    rw [hbindings]
    exact List.mem_singleton_self _
  · cases hbindings

end DaoForge
