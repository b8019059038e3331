import DaoForge.Text.CharClass

/-!
# DaoForge.Query.StatementKind

The family of a statement, from its leading keyword. White space and comments may stand in front of
the keyword. Of several ends that a block comment could have, the earliest counts after which a
keyword is found.
-/

namespace DaoForge

/-- Family of an SQL statement. -/
inductive StatementKind where
  | select
  | insert
  | update
  | delete
  | other
  deriving DecidableEq, Repr, Inhabited

namespace StatementKind

/-- Name of the family in documents. -/
def name : StatementKind → String
  | .select => "select"
  | .insert => "insert"
  | .update => "update"
  | .delete => "delete"
  | .other => "other"

/-- The statement produces rows. -/
def returnsRows (kind : StatementKind) : Bool := kind == .select

mutual

/-- The run of letters after leading white space and comments. -/
def leadingWord : List Char → Option (List Char)
  | [] => none
  | [c] => if CharClass.isAsciiLetter c then some [c] else none
  | c :: d :: rest =>
    if CharClass.isBlank c then leadingWord (d :: rest)
    else if c = '-' ∧ d = '-' then leadingWordAfterLine rest
    else if c = '/' ∧ d = '*' then leadingWordAfterBlock rest
    else if CharClass.isAsciiLetter c then
      some (c :: (d :: rest).takeWhile CharClass.isAsciiLetter)
    else none

/-- The leading word after the next newline. -/
def leadingWordAfterLine : List Char → Option (List Char)
  | [] => none
  | c :: rest => if c = '\n' then leadingWord rest else leadingWordAfterLine rest

/-- The leading word after the earliest end of a block comment that has one. -/
def leadingWordAfterBlock : List Char → Option (List Char)
  | [] => none
  | [_] => none
  | c :: d :: rest =>
    if c = '*' ∧ d = '/' then leadingWord rest <|> leadingWordAfterBlock (d :: rest)
    else leadingWordAfterBlock (d :: rest)

end

/-- The family a keyword in capitals stands for. -/
def ofKeyword (keyword : String) : StatementKind :=
  if ["SELECT", "WITH", "VALUES", "PRAGMA", "EXPLAIN"].contains keyword then .select
  else if ["INSERT", "REPLACE"].contains keyword then .insert
  else if keyword = "UPDATE" then .update
  else if keyword = "DELETE" then .delete
  else .other

/-- The family of a statement. -/
def ofSql (sql : String) : StatementKind :=
  match leadingWord sql.toList with
  | some word => ofKeyword (String.ofList (word.map Char.toUpper))
  | none => .other

end StatementKind

end DaoForge
