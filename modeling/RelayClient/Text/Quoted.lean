import RelayClient.Text.Printable

/-!
# Quoted text

A text between quotes, with escapes for the quote, the backslash, the common
controls, and by number for every character that is not shown as itself. A
single character is quoted the same way between apostrophes.
-/

namespace RelayClient.Text

/-- A number in lower-case hexadecimal without leading zeros. -/
def hexNumber (value : Nat) : String :=
  String.ofList (Nat.toDigits 16 value)

/-- The characters that stand for one character inside quotes of the given kind. -/
def escaped (quote c : Char) : String :=
  if c = '\x00' then "\\0"
  else if c = '\t' then "\\t"
  else if c = '\r' then "\\r"
  else if c = '\n' then "\\n"
  else if c = '\\' then "\\\\"
  else if c = quote then "\\" ++ String.singleton quote
  else if isShown c then String.singleton c
  else "\\u\x7b" ++ hexNumber c.toNat ++ "\x7d"

def quoted (text : String) : String :=
  "\"" ++ String.join (text.toList.map (escaped '"')) ++ "\""

/-- A character between apostrophes. -/
def quotedChar (c : Char) : String :=
  "'" ++ escaped '\'' c ++ "'"

end RelayClient.Text
