import TelemetryLog.Text.Hidden

/-!
# Quoted text

A text between double quotes, the way messages show one: quotes and backslashes are escaped, line
ends, tabs and NUL have their short escapes, and a character without a shape of its own is shown
by its code point.

Paths in descriptions and keys in complaints about settings are shown like this.  The result is one
line whatever the text holds, and it can be told where it begins and ends.  This is not the quoting
of JSON, whose texts are written by `Json.escape` and escape other characters.
-/

set_option autoImplicit false

namespace TelemetryLog
namespace Text

/-- The code point of a character in lower-case hexadecimal digits. -/
def hexDigits (c : Char) : List Char := Nat.toDigits 16 c.toNat

/-- One character of a quoted text. -/
def quoteChar (c : Char) : List Char :=
  if c = '"' then ['\\', '"']
  else if c = '\\' then ['\\', '\\']
  else if c = '\n' then ['\\', 'n']
  else if c = '\r' then ['\\', 'r']
  else if c = '\t' then ['\\', 't']
  else if c = '\x00' then ['\\', '0']
  else if isHidden c then ['\\', 'u', '\x7b'] ++ hexDigits c ++ ['\x7d']
  else [c]

/-- The text between double quotes, on one line and with every character visible. -/
def quoted (s : String) : String :=
  String.ofList ('"' :: (s.toList.flatMap quoteChar ++ ['"']))

end Text
end TelemetryLog
