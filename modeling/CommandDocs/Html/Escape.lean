/-!
# Escaping for HTML

The three markup characters become entities, so that a line of usage such as
`Get-Foo <Name>` reads literally. Quotes are left alone.
-/

namespace CommandDocs.Html

def escapeChar (c : Char) : List Char :=
  if c == '&' then "&amp;".toList
  else if c == '<' then "&lt;".toList
  else if c == '>' then "&gt;".toList
  else [c]

def escape (s : String) : String :=
  String.ofList (s.toList.flatMap escapeChar)

theorem escapeChar_of_plain {c : Char} (amp : c ≠ '&') (lt : c ≠ '<') (gt : c ≠ '>') :
    escapeChar c = [c] := by
  simp [escapeChar, amp, lt, gt]

end CommandDocs.Html
