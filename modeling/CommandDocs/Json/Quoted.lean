import CommandDocs.Text.Quoted
import CommandDocs.Text.Utf16

/-!
# JSON strings

A string is written in ASCII. Quotes, backslashes and five controls have short escapes; every
other character outside the printable ASCII range is written by its UTF-16 units.
-/

namespace CommandDocs.Json

def units (c : Char) : List Nat :=
  let n := c.toNat
  if n < 0x10000 then [n]
  else [0xD800 + (n - 0x10000) / 1024, 0xDC00 + (n - 0x10000) % 1024]

def escapeChar (c : Char) : List Char :=
  if c == '"' then ['\\', '"']
  else if c == '\\' then ['\\', '\\']
  else if c == '\n' then ['\\', 'n']
  else if c == '\r' then ['\\', 'r']
  else if c == '\t' then ['\\', 't']
  else if c.toNat == 8 then ['\\', 'b']
  else if c.toNat == 12 then ['\\', 'f']
  else if 0x20 ≤ c.toNat && c.toNat < 0x7F then [c]
  else (units c).flatMap fun n => '\\' :: 'u' :: Text.Quoted.hex 4 n

/-- A text as a JSON string. -/
def quote (s : List Char) : List Char :=
  '"' :: s.flatMap escapeChar ++ ['"']

end CommandDocs.Json
