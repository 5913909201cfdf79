import LineShell.Text.Basic
import LineShell.Text.Printable

/-!
# Quoted text

Text between quotes, in which everything that has no printed form is spelled with an escape.  Single
quotes are preferred; double quotes are taken when only they save an escape.
-/

namespace LineShell

namespace Quoted

/-- The hexadecimal digits of a number, padded with zeros on the left. -/
def hex (width number : Nat) : Text :=
  let digits := Nat.toDigits 16 number
  List.replicate (width - digits.length) '0' ++ digits

/-- The quote that a text is put in. -/
def quoteFor (text : Text) : Char :=
  if text.contains '\'' && !text.contains '"' then '"' else '\''

/-- One character as it stands between the given quotes. -/
def escape (quote character : Char) : Text :=
  if character = quote ∨ character = '\\' then ['\\', character]
  else if character = '\n' then "\\n"
  else if character = '\r' then "\\r"
  else if character = '\t' then "\\t"
  else if isPrintable character then [character]
  else if character.toNat < 0x100 then "\\x" ++ hex 2 character.toNat
  else if character.toNat < 0x10000 then "\\u" ++ hex 4 character.toNat
  else "\\U" ++ hex 8 character.toNat

end Quoted

/-- The text in quotes, with escapes. -/
def Text.quoted (text : Text) : Text :=
  let quote := Quoted.quoteFor text
  quote :: text.flatMap (Quoted.escape quote) ++ [quote]

end LineShell
