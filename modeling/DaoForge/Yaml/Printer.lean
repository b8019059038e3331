import DaoForge.Decimal.Shortest
import DaoForge.Tree.Basic
import DaoForge.Yaml.Cursor
import DaoForge.Yaml.Plain

/-!
# DaoForge.Yaml.Printer

YAML text of a data tree, in blocks that are indented by two spaces a level. A list below a key is not
indented further; an empty list or mapping is written in brackets.

A text is written plain where it reads back as that text, in single quotes where it would read as
something else, as a literal block if it has several lines, and in double quotes where nothing else can
hold it. A variant's name is a tag. One value cannot have two tags, so a variant directly inside of a
variant has no YAML text.
-/

namespace DaoForge.Yaml

/-! ## what a text holds -/

/-- A character that can be written as it is. -/
def isShown (c : Char) : Bool :=
  let n := c.toNat
  n == 10 || (0x20 ≤ n && n ≤ 0x7e) || (0xa0 ≤ n && n ≤ 0xfffd && n != 0xfeff) || 0x10000 ≤ n

/-- Somewhere a character of the first kind stands before one of the second. -/
def hasPair (first second : Char → Bool) : List Char → Bool
  | c :: d :: rest => (first c && second d) || hasPair first second (d :: rest)
  | _ => false

/-- Everything is shown, and no blank stands before a line break. -/
def isSmooth (cs : List Char) : Bool := cs.all isShown && !hasPair (· == ' ') isBreak cs

/-- Single quotes can hold the text. -/
def fitsQuotes (cs : List Char) : Bool := isSmooth cs && !hasPair isBreak (· == ' ') cs

/-- A literal block can hold the text. -/
def fitsLiteral (cs : List Char) : Bool := isSmooth cs && cs.getLast? != some ' '

/-- No colon and no number sign among the characters has a meaning of its own. -/
def hasNoMark (afterBlank : Bool) : List Char → Bool
  | [] => true
  | c :: rest =>
    !(c == ':' && startsBlank rest) && !(c == '#' && afterBlank) && hasNoMark (c == ' ') rest

/-- A plain text may begin like this. -/
def opensPlain : List Char → Bool
  | [] => false
  | '-' :: rest => !startsBlank rest && rest.take 2 != ['-', '-']
  | '.' :: rest => rest.take 2 != ['.', '.']
  | '?' :: rest | ':' :: rest => !startsBlank rest
  | c :: _ => !isIndicator c

/-- The characters can be written without quotes. -/
def fitsPlain (cs : List Char) : Bool :=
  opensPlain cs && hasNoMark false cs && cs.all (fun c => isShown c && !isBreak c) &&
    cs.head? != some ' ' && cs.getLast? != some ' '

/-- Written plain, the text would be read as something else. -/
def isAmbiguous (text : String) : Bool :=
  isPadded text.toList || PlainValue.ofText text != .text

/-! ## scalars -/

/-- Blanks up to a column. -/
def indentation (column : Nat) : List Char := List.replicate column ' '

/-- The characters, with every line that a break opens indented to a column. `opens` tells whether a
line opens here. A line without characters is not indented unless it is the last one and `always` is
set. -/
def indented (column : Nat) (always opens : Bool) : List Char → List Char
  | [] => if opens && always then indentation column else []
  | c :: rest =>
    if isBreak c then c :: indented column always true rest
    else (if opens then indentation column else []) ++ c :: indented column always false rest

/-- A text in single quotes. The quote is written twice. -/
def singleQuoted (column : Nat) (text : String) : String :=
  let cs := text.toList.flatMap fun c => if c = '\'' then ['\'', '\''] else [c]
  "'" ++ String.ofList (indented column true false cs) ++ "'"

/-- The last digits of a number in base 16, in upper case. -/
def hexDigits : Nat → Nat → List Char
  | 0, _ => []
  | width + 1, n =>
    hexDigits width (n / 16) ++ ["0123456789ABCDEF".toList.getD (n % 16) '0']

/-- A character in double quotes. -/
def doubleQuotedChar (c : Char) : List Char :=
  match c with
  | '"' => ['\\', '"']
  | '\\' => ['\\', '\\']
  | '\x00' => ['\\', '0']
  | '\x07' => ['\\', 'a']
  | '\x08' => ['\\', 'b']
  | '\t' => ['\\', 't']
  | '\n' => ['\\', 'n']
  | '\x0b' => ['\\', 'v']
  | '\x0c' => ['\\', 'f']
  | '\r' => ['\\', 'r']
  | '\x1b' => ['\\', 'e']
  | '\u0085' => ['\\', 'N']
  | '\u2028' => ['\\', 'L']
  | '\u2029' => ['\\', 'P']
  | _ =>
    if isShown c then [c]
    else if c.toNat < 0x100 then '\\' :: 'x' :: hexDigits 2 c.toNat
    else if c.toNat < 0x10000 then '\\' :: 'u' :: hexDigits 4 c.toNat
    else '\\' :: 'U' :: hexDigits 8 c.toNat

def doubleQuoted (text : String) : String :=
  "\"" ++ String.ofList (text.toList.flatMap doubleQuotedChar) ++ "\""

/-- A text of several lines as a literal block at a column. The mark tells how it begins and ends. -/
def literal (column : Nat) (text : String) : String :=
  let cs := text.toList
  let start := if cs.head?.any fun c => c == ' ' || isBreak c then "2" else ""
  let finish :=
    match cs.reverse with
    | c :: d :: _ => if !isBreak c then "-" else if isBreak d then "+" else ""
    | [c] => if isBreak c then "+" else "-"
    | [] => "-"
  "|" ++ start ++ finish ++ "\n" ++ String.ofList (indented column false true cs)

/-- A text in the simplest form that holds it. `column` is where its further lines start. -/
def scalarText (column : Nat) (text : String) : String :=
  let cs := text.toList
  if cs.contains '\n' then if fitsLiteral cs then literal column text else doubleQuoted text
  else if !isAmbiguous text && fitsPlain cs then text
  else if fitsQuotes cs then singleQuoted column text
  else doubleQuoted text

/-! ## lines -/

/-- A line behind a text, at a column. -/
def onLine (column : Nat) (text line : String) : String :=
  let lineEnd := if text.toList.getLast?.any isBreak then "" else "\n"
  text ++ lineEnd ++ String.ofList (indentation column) ++ line

/-- Lines at a column, of which the first one is not indented. -/
def lines (column : Nat) : List String → String
  | [] => ""
  | first :: rest => rest.foldl (onLine column) first

/-- A double as a plain scalar. -/
def floatText (x : Double) : String :=
  if x.isFinite then x.pointText
  else if x.isNaN then ".nan"
  else if x.isNegative then "-.inf"
  else ".inf"

/-- A key with its colon. -/
def keyText (key : Key) : String :=
  let name := key.text
  (if !isAmbiguous name && fitsPlain name.toList then name else doubleQuoted name) ++ ":"

/-- A tag, if there is one, and what it stands before. -/
def behindTag (tag text : String) : String := if tag.isEmpty then " " ++ text else " " ++ tag ++ " " ++ text

/-- The lines of a list or mapping. The first one stands behind the mark of an item, unless there is a
tag. -/
def opened (isItem : Bool) (column : Nat) (tag : String) (inner : List String) : String :=
  let text := lines column inner
  if !tag.isEmpty then onLine column (" " ++ tag) text
  else if isItem then " " ++ text
  else onLine column "" text

end Yaml

namespace Tree

/-! ## blocks -/

mutual

/-- What follows a key, or the mark of an item, that stands at a column. -/
def yamlAfter (isItem : Bool) (column : Nat) (tag : String) : Tree → Option String
  | .null => some (Yaml.behindTag tag "null")
  | .bool value => some (Yaml.behindTag tag (if value then "true" else "false"))
  | .int value => some (Yaml.behindTag tag (toString value))
  | .float value => some (Yaml.behindTag tag (Yaml.floatText value))
  | .text value => some (Yaml.behindTag tag (Yaml.scalarText (column + 2) value))
  | .list [] => some (Yaml.behindTag tag "[]")
  | .mapping [] => some (Yaml.behindTag tag "\x7b\x7d")
  | .list (item :: rest) => do
    let inner := if isItem then column + 2 else column
    let first ← yamlAfter true inner "" item
    let others ← yamlItems inner rest
    some (Yaml.opened isItem inner tag (("-" ++ first) :: others))
  | .mapping ((key, value) :: rest) => do
    let first ← yamlAfter false (column + 2) "" value
    let others ← yamlEntries (column + 2) rest
    some (Yaml.opened isItem (column + 2) tag ((Yaml.keyText key ++ first) :: others))
  | .tagged name value => if tag.isEmpty then yamlAfter isItem column ("!" ++ name) value else none

/-- The lines of a list at a column, without their indentation. -/
def yamlItems (column : Nat) : List Tree → Option (List String)
  | [] => some []
  | item :: rest => do
    let first ← yamlAfter true column "" item
    return ("-" ++ first) :: (← yamlItems column rest)

/-- The lines of a mapping at a column, without their indentation. -/
def yamlEntries (column : Nat) : List (Key × Tree) → Option (List String)
  | [] => some []
  | (key, value) :: rest => do
    let first ← yamlAfter false column "" value
    return (Yaml.keyText key ++ first) :: (← yamlEntries column rest)

end

/-- The YAML text of a mapping. -/
def toYaml? : Tree → Option String
  | .mapping (entry :: rest) => do
    let texts ← yamlEntries 0 (entry :: rest)
    some (Yaml.onLine 0 (Yaml.lines 0 texts) "")
  | _ => none

end Tree

end DaoForge
