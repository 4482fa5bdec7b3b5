import FleetConsole.Text.Digits
import FleetConsole.Text.Printable

/-!
# Texts shown in quotes

How a message shows a text it complains about: between double quotes, with a backslash before a
quote or a backslash, letters for the commonest controls, and the code point in hexadecimal for
every other character that cannot be shown.
-/

namespace FleetConsole.Text

/-- A character inside quotes. -/
def quotedChar (c : Char) : String :=
  if c = '"' then "\\\""
  else if c = '\\' then "\\\\"
  else if c = '\n' then "\\n"
  else if c = '\r' then "\\r"
  else if c = '\t' then "\\t"
  else if c = '\x00' then "\\0"
  else if isPrintable c then c.toString
  else "\\u\x7b" ++ hexDigits c.toNat ++ "\x7d"

/-- A text between double quotes. -/
def quoted (text : String) : String :=
  "\"" ++ String.join (text.toList.map quotedChar) ++ "\""

end FleetConsole.Text
