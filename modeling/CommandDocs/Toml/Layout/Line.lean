import CommandDocs.Toml.Layout.Literal

/-!
# Lines that keep their text

A document is written in lines: white space, remarks, entries and headers. A value may take more
than one line.
-/

namespace CommandDocs.Toml.Layout

/-- A line of a document. A header has an indentation, says whether it opens an item of an array,
and keeps the rest of its line. -/
inductive Line where
  | node (node : Node)
  | header (indent : List Char) (array : Bool) (key : List Part) (tail : List Char)
  deriving Repr

/-- The end of a line after an entry or a header: a gap, perhaps a comment, and the line feed. -/
structure Tail where
  gap : List Char
  comment : List Char
  feed : List Char

/-- The end of the line that opens a text. -/
def readTail (s : List Char) : Scan Tail :=
  let gap := s.takeWhile Text.isGap
  match s.dropWhile Text.isGap with
  | [] => .ok (⟨[], [], gap⟩, [])
  | '\n' :: rest => .ok (⟨[], [], gap ++ ['\n']⟩, rest)
  | '#' :: rest =>
      let comment := rest.takeWhile (· != '\n')
      let after := rest.dropWhile (· != '\n')
      if comment.any isIllegal then .error .refused
      else .ok (⟨gap, '#' :: comment, after.take 1⟩, after.drop 1)
  | rest => .error (.unexpected rest)

/-- The text at the end of a line. Blanks that belong to a value stand in place of a gap before a
comment. -/
def Tail.text (t : Tail) (blanks : List Char) : List Char :=
  (if blanks.isEmpty then t.gap else blanks) ++ t.comment ++ t.feed

/-- The header that opens a text after an indentation. The bracket that closes the header of an
array is followed by one more character, whatever it is. -/
def readHeader (indent s : List Char) : Scan Line :=
  let (array, inside) := match s with
    | '[' :: rest => (true, rest)
    | _ => (false, s)
  match readKey inside with
  | .error stop => .error stop
  | .ok (key, ']' :: rest) =>
      (readTail (if array then rest.drop 1 else rest)).map fun (tail, after) =>
        (.header indent array key (tail.text []), after)
  | .ok (_, rest) => .error (.unexpected rest)

/-- The entry that opens a text after an indentation. -/
def readEntry (fuel : Nat) (indent s : List Char) : Scan Line :=
  match readKey s with
  | .error stop => .error stop
  | .ok (key, rest) =>
      match readEquals rest with
      | .error stop => .error stop
      | .ok (equals, start) =>
          match readValue fuel depthLimit start with
          | .error stop => .error stop
          | .ok (value, after) =>
              (readTail after).map fun (tail, next) =>
                (.node (entryNode (indent ++ spellingOf key ++ equals) value.text
                  (tail.text value.gap) key), next)

/-- The line that opens a text. -/
def readLine (fuel : Nat) (s : List Char) : Scan Line :=
  let indent := s.takeWhile Text.isGap
  match s.dropWhile Text.isGap with
  | [] => .ok (.node (.space indent), [])
  | '\n' :: rest => .ok (.node (.space (indent ++ ['\n'])), rest)
  | '#' :: rest =>
      (readTail ('#' :: rest)).map fun (tail, after) =>
        (.node (.remark (indent ++ tail.text [])), after)
  | '[' :: rest => readHeader indent rest
  | rest => readEntry fuel indent rest

/-- The lines of a text. The fuel bounds their number and the steps that a value takes. -/
def linesOf? : Nat → List Char → Option (List Line)
  | _, [] => some []
  | 0, _ => none
  | fuel + 1, s =>
      match readLine fuel s with
      | .error _ => none
      | .ok (line, rest) => (linesOf? fuel rest).map (line :: ·)

end CommandDocs.Toml.Layout
