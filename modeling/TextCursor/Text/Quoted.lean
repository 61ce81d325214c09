import TextCursor.Text.Printable

/-!
# Quoted text

A text quoted for a reader stands between double quotes.  The double quote and
the backslash take a backslash, four control characters have short names, and any
other character that cannot be shown on its own is given by its code point.
-/

namespace TextCursor.Text

/-- The spelling of one character between double quotes. -/
def quotedChar (char : Char) : String :=
  if char = '"' then "\\\""
  else if char = '\\' then "\\\\"
  else if char = '\n' then "\\n"
  else if char = '\r' then "\\r"
  else if char = '\t' then "\\t"
  else if char = '\x00' then "\\0"
  else if isPrintable char then char.toString
  else "\\u\x7b" ++ String.ofList (Nat.toDigits 16 char.toNat) ++ "\x7d"

/-- A text between double quotes. -/
def quoted (text : String) : String :=
  "\"" ++ String.join (text.toList.map quotedChar) ++ "\""

end TextCursor.Text
