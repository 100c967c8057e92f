import EntityGraph.Text.Hexadecimal
import EntityGraph.Text.Printable

/-!
# Quoted text

Messages show text between double quotes. Quotes, backslashes and the usual controls
are written with a backslash, and every other character that is not printable by its
code point.
-/

namespace EntityGraph.Text

/-- One character between quotes. -/
def quotedChar (c : Char) : String :=
  if c = '"' then "\\\""
  else if c = '\\' then "\\\\"
  else if c = '\n' then "\\n"
  else if c = '\t' then "\\t"
  else if c = '\r' then "\\r"
  else if c.toNat = 0 then "\\0"
  else if isPrintable c then c.toString
  else "\\u\x7b" ++ String.ofList (hexDigits c.toNat) ++ "\x7d"

/-- A text between quotes. -/
def quoted (text : String) : String :=
  "\"" ++ String.join (text.toList.map quotedChar) ++ "\""

end EntityGraph.Text
