import DaoForge.Text.CharClass

/-!
# DaoForge.Text.SnakeCase

Names of modules and fields are written in snake case. A name is cut into words

1. at every character that is neither a letter nor a numeral (the character is dropped),
2. after a lower-case character that an upper-case one follows (`userDao`),
3. before the last capital of a run of capitals that a lower-case character follows (`XMLHttp`),

and the words are written in lower case, joined by underscores. Characters without case take the
side of the characters before them, so `Http2Request` is cut before the `R`.
-/

namespace DaoForge.SnakeCase

/-- The side of the last characters of the open word. -/
inductive Side where
  | open
  | lower
  | upper
  deriving DecidableEq, Repr

/-- Side after reading `c`. -/
def Side.after (side : Side) (c : Char) : Side :=
  if CharClass.isLower c then .lower else if CharClass.isUpper c then .upper else side

/-- Cuts a run of letters and numerals into words. `word` is the open word, reversed. -/
def words (side : Side) (word : List Char) : List Char → List (List Char)
  | [] => []
  | [c] => [(c :: word).reverse]
  | c :: next :: rest =>
    if side.after c = .lower ∧ CharClass.isUpper next then
      (c :: word).reverse :: words .open [] (next :: rest)
    else if side = .upper ∧ CharClass.isUpper c ∧ CharClass.isLower next then
      word.reverse :: words .open [c] (next :: rest)
    else
      words (side.after c) (c :: word) (next :: rest)

/-- The maximal runs of letters and numerals; `run` is the open run, reversed. -/
def runs (run : List Char) : List Char → List (List Char)
  | [] => [run.reverse]
  | c :: rest =>
    if CharClass.isAlphanumeric c then runs (c :: run) rest else run.reverse :: runs [] rest

/-- A word in lower case. A capital sigma at its end takes its final form. -/
def lowerWord : List Char → List Char
  | [] => []
  | [c] => if c.toNat == 0x3A3 then [Char.ofNat 0x3C2] else CharClass.toLower c
  | c :: rest => CharClass.toLower c ++ lowerWord rest

/-- The words of a name, in order. -/
def wordsOf (name : String) : List (List Char) :=
  (runs [] name.toList).flatMap (words .open [])

end DaoForge.SnakeCase

namespace DaoForge

/-- Snake case: `UserDaoImpl` becomes `user_dao_impl`. -/
def snakeCase (name : String) : String :=
  String.ofList (['_'].intercalate ((SnakeCase.wordsOf name).map SnakeCase.lowerWord))

end DaoForge
