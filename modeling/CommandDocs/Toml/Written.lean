import CommandDocs.Text.Quoted
import CommandDocs.Toml.Value

/-!
# Writing values

Strings are written as basic strings on one line: quotes, backslashes and control characters are
escaped, everything else stands as it is. Arrays of strings are written on one line.
-/

namespace CommandDocs.Toml

/-- One character inside quotes. -/
def writeChar (c : Char) : List Char :=
  if c == '"' || c == '\\' then ['\\', c]
  else if c == '\x08' then ['\\', 'b']
  else if c == '\t' then ['\\', 't']
  else if c == '\n' then ['\\', 'n']
  else if c == '\x0C' then ['\\', 'f']
  else if c == '\r' then ['\\', 'r']
  else if c.toNat < 32 || c.toNat == 127 then '\\' :: 'u' :: Text.Quoted.hex 4 c.toNat
  else [c]

def writeString (s : String) : List Char :=
  '"' :: s.toList.flatMap writeChar ++ ['"']

def writeInteger (n : Int) : List Char :=
  (toString n).toList

/-- Texts with a comma and a space between them. -/
def separate : List (List Char) → List Char
  | [] => []
  | [item] => item
  | item :: rest => item ++ ',' :: ' ' :: separate rest

def writeStrings (items : List String) : List Char :=
  '[' :: separate (items.map writeString) ++ [']']

end CommandDocs.Toml
