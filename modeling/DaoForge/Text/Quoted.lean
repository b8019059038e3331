import DaoForge.Text.CharClass

/-!
# DaoForge.Text.Quoted

Texts in double quotes, so that every character can be seen: the quote and the backslash stand behind a
backslash, control characters have a letter or are written by number, and so is everything else that
has no shape of its own.
-/

namespace DaoForge

/-- Digits of a character's code point in base 16, lower case. -/
def codePointDigits (c : Char) : List Char := Nat.toDigits 16 c.toNat

/-- A character inside of quotes. -/
def quotedChar (c : Char) : List Char :=
  if c = '\x00' then "\\0".toList
  else if c = '\t' then "\\t".toList
  else if c = '\n' then "\\n".toList
  else if c = '\r' then "\\r".toList
  else if c = '"' then "\\\"".toList
  else if c = '\\' then "\\\\".toList
  else if CharClass.isShownAsIs c then [c]
  else "\\u\x7b".toList ++ codePointDigits c ++ "\x7d".toList

/-- A text in quotes. -/
def quotedText (text : String) : String :=
  "\"" ++ String.ofList (text.toList.flatMap quotedChar) ++ "\""

end DaoForge
