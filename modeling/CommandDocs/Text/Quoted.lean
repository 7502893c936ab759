import CommandDocs.Text.Printable

/-!
# Quoted text

Text shown as a value stands in single quotes, or in double quotes when it holds a single quote
and no double quote. Backslashes and the chosen quote are escaped, and so are characters that
are not printable, with as few hexadecimal digits as their size needs.
-/

namespace CommandDocs.Text.Quoted

/-- The lower-case hexadecimal digits of a number, padded with zeros to a width. -/
def hex (width n : Nat) : List Char :=
  let digits := Nat.toDigits 16 n
  List.replicate (width - digits.length) '0' ++ digits

def quoteOf (s : List Char) : Char :=
  if s.contains '\'' && !s.contains '"' then '"' else '\''

def escapeChar (quote c : Char) : List Char :=
  if c == quote || c == '\\' then ['\\', c]
  else if c == '\t' then ['\\', 't']
  else if c == '\n' then ['\\', 'n']
  else if c == '\r' then ['\\', 'r']
  else if isPrintable c then [c]
  else if c.toNat < 0x100 then '\\' :: 'x' :: hex 2 c.toNat
  else if c.toNat < 0x10000 then '\\' :: 'u' :: hex 4 c.toNat
  else '\\' :: 'U' :: hex 8 c.toNat

def quote (s : List Char) : List Char :=
  quoteOf s :: s.flatMap (escapeChar (quoteOf s)) ++ [quoteOf s]

def quoteString (s : String) : String :=
  String.ofList (quote s.toList)

def quoteList (items : List String) : String :=
  "[" ++ ", ".intercalate (items.map quoteString) ++ "]"

end CommandDocs.Text.Quoted
