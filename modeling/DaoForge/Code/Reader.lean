import DaoForge.Code.Lexeme

/-!
# DaoForge.Code.Reader

Readers of code. A reader takes lexemes from the front of a list and gives the code they are printed as;
it fails where the grammar does not go on, and never goes back: which way to go is told by the lexemes
ahead.

Predicates on lexemes (`starts…`) look ahead; readers named like them take what they see.
-/

namespace DaoForge.Code

/-- Reads something from the front of a list of lexemes. -/
abbrev Reader (α : Type) := StateT (List Lexeme) Option α

/-! ## looking ahead -/

namespace Lexeme

/-- The characters of an operator come next, with nothing between them. -/
def startsChars : List Char → List Lexeme → Bool
  | [], _ => true
  | [c], .punct d _ :: _ => c == d
  | c :: cs, .punct d joint :: rest => c == d && joint && startsChars cs rest
  | _, _ => false

/-- An operator comes next. A longer one may begin with it. -/
def startsOperator (text : String) (lexemes : List Lexeme) : Bool := startsChars text.toList lexemes

/-- A word comes next. -/
def startsWord (word : String) : List Lexeme → Bool
  | .name text :: _ => text == word
  | _ => false

/-- Any of some words comes next. -/
def startsOneOf (words : List String) (lexemes : List Lexeme) : Bool :=
  words.any fun word => startsWord word lexemes

/-- A name or a keyword comes next. -/
def startsWordOfAnyKind : List Lexeme → Bool
  | .name _ :: _ => true
  | _ => false

/-- A name that is no keyword comes next. -/
def startsName : List Lexeme → Bool
  | .name text :: _ => !isKeyword text && text != "_"
  | _ => false

def startsLifetime : List Lexeme → Bool
  | .lifetime _ :: _ => true
  | _ => false

def startsGroup (d : Delimiter) : List Lexeme → Bool
  | .group d' _ :: _ => d == d'
  | _ => false

/-- The text of a number. -/
def isNumber (text : String) : Bool := text.toList.head?.any CharClass.isAsciiDigit

/-- A constant comes next: a literal, a truth value, or a number with its sign. -/
def startsConstant : List Lexeme → Bool
  | .literal _ :: _ => true
  | .name text :: _ => text == "true" || text == "false"
  | .punct '-' _ :: .literal text :: _ => isNumber text
  | _ => false

end Lexeme

namespace Reader

/-! ## single lexemes -/

/-- The lexemes that are left. -/
def ahead : Reader (List Lexeme) := get

def fail {α : Type} : Reader α := fun _ => none

/-- What a predicate says of the lexemes that are left. -/
def sees (starts : List Lexeme → Bool) : Reader Bool := starts <$> ahead

def atEnd : Reader Bool := sees List.isEmpty

/-- Takes one lexeme. -/
def next : Reader Lexeme := fun
  | [] => none
  | lexeme :: rest => some (lexeme, rest)

/-- Takes an operator. -/
def operator (text : String) : Reader Code := do
  if ← sees (Lexeme.startsOperator text) then
    set ((← ahead).drop text.length)
    return Code.word text
  else fail

/-- Takes a certain word. -/
def keyword (text : String) : Reader Code := do
  if ← sees (Lexeme.startsWord text) then
    let _ ← next
    return Code.word text
  else fail

/-- Takes a name or a keyword. -/
def anyWord : Reader Code := do
  match ← next with
  | .name text => return Code.word text
  | _ => fail

/-- Takes a name that is no keyword. -/
def name : Reader Code := do
  if ← sees Lexeme.startsName then anyWord else fail

def lifetime : Reader Code := do
  match ← next with
  | .lifetime text => return Code.word text
  | _ => fail

/-- Takes a constant: a literal, a truth value, or a number with its sign, which stands apart. -/
def constant : Reader Code := do
  if ← sees Lexeme.startsConstant then
    match ← next with
    | .literal text | .name text => return Code.word text
    | _ =>
      match ← next with
      | .literal text => return Code.word "-" ++ Code.word text
      | _ => fail
  else fail

/-! ## brackets -/

/-- Takes a bracket, all of whose content a reader must read. -/
def inside {α : Type} (d : Delimiter) (reader : Reader α) : Reader α := do
  match ← next with
  | .group d' content =>
    if d = d' then
      match reader content with
      | some (value, []) => return value
      | _ => fail
    else fail
  | _ => fail

/-- Takes a bracket with the code inside of it. -/
def grouped (d : Delimiter) (reader : Reader Code) : Reader Code := do
  return [.group d (← inside d reader)]

/-- Takes a bracket, whatever is in it. -/
def anyGroup : Reader Code := do
  match ← next with
  | .group d content => return [.group d (Lexeme.written content)]
  | _ => fail

/-- What a reader takes, as it was written. -/
def asWritten {α : Type} (reader : Reader α) : Reader Code := do
  let before ← ahead
  let _ ← reader
  let after ← ahead
  return Lexeme.written (before.take (before.length - after.length))

/-! ## options and repetitions -/

/-- Reads something if it begins here. -/
def optional (starts : List Lexeme → Bool) (reader : Reader Code) : Reader Code := do
  if ← sees starts then reader else return []

def optionalOperator (text : String) : Reader Code :=
  optional (Lexeme.startsOperator text) (operator text)

def optionalWord (text : String) : Reader Code := optional (Lexeme.startsWord text) (keyword text)

def optionalLifetime : Reader Code := optional Lexeme.startsLifetime lifetime

/-- Rounds of a repetition, as many as `fuel` at most. -/
def rounds (starts : List Lexeme → Bool) (reader : Reader Code) : Nat → Reader Code
  | 0 => fail
  | fuel + 1 => do
    if ← sees starts then return (← reader) ++ (← rounds starts reader fuel) else return []

/-- Reads something as often as it begins here. Every round takes a lexeme, so that their number bounds
the rounds. -/
def repeated (starts : List Lexeme → Bool) (reader : Reader Code) : Reader Code := do
  rounds starts reader ((← ahead).length + 1)

/-- An item of a list, and the separator after it, if it has one. -/
structure Item (α : Type) where
  value : α
  separator : Code

/-- Items of a list, as many as `fuel` at most. -/
def items {α : Type} (stops : List Lexeme → Bool) (separator : String) (item : Reader α) :
    Nat → Reader (List (Item α))
  | 0 => fail
  | fuel + 1 => do
    if ← sees stops then return []
    let value ← item
    if ← sees stops then return [⟨value, []⟩]
    let mark ← operator separator
    return ⟨value, mark⟩ :: (← items stops separator item fuel)

/-- Items with a separator between them, up to where the list stops; one may stand after the last. -/
def listed {α : Type} (stops : List Lexeme → Bool) (separator : String) (item : Reader α) :
    Reader (List (Item α)) := do
  items stops separator item ((← ahead).length + 1)

/-- The code of a list. -/
def listedCode (stops : List Lexeme → Bool) (separator : String) (item : Reader Code) :
    Reader Code := do
  return (← listed stops separator item).flatMap fun i => i.value ++ i.separator

/-- Items with commas between them, up to the end. -/
def commaList (item : Reader Code) : Reader Code := listedCode List.isEmpty "," item

end Reader

end DaoForge.Code
