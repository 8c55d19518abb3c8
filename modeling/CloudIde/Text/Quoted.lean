import CloudIde.Text.Unshown

/-!
# Quoted texts

Messages quote the texts they speak of. A quoted text stands between double quotes, on one line, and
every character of it can be told apart: the quote and the backslash have a backslash in front, tab,
line feed, carriage return and NUL are `\t`, `\n`, `\r` and `\0`, and every other character that
would not be seen is its number, `\u{301}`.
-/

namespace CloudIde

/-- A number in lower-case hexadecimal digits. -/
def hexadecimal (n : Nat) : String := String.ofList (Nat.toDigits 16 n)

/-- A character as it stands in a quoted text. -/
def quotedChar (c : Char) : String :=
  if c = '"' then "\\\""
  else if c = '\\' then "\\\\"
  else if c = '\t' then "\\t"
  else if c = '\n' then "\\n"
  else if c = '\r' then "\\r"
  else if c.toNat = 0 then "\\0"
  else if isUnshown c then "\\u\x7b" ++ hexadecimal c.toNat ++ "\x7d"
  else c.toString

/-- A text in double quotes. -/
def quoted (text : String) : String :=
  "\"" ++ String.join (text.toList.map quotedChar) ++ "\""

end CloudIde
