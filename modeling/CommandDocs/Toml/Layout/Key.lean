import CommandDocs.Toml.Layout.Node
import CommandDocs.Toml.Layout.Quoted

/-!
# Keys that keep their spelling

The parts of a key stand between dots, with gaps around them. A tab may stand inside a bare part.
-/

namespace CommandDocs.Toml.Layout

/-- Why reading stops: what stands there is refused, or it is not what has to follow. In the
second case an array that is open may still be closed there. -/
inductive Stop where
  | refused
  | unexpected (rest : List Char)
  deriving DecidableEq, Repr

/-- What is read from the start of a text, and the rest of the text. -/
abbrev Scan (α : Type) := Except Stop (α × List Char)

/-- The most parts that a key may have, and the deepest that values may be nested. -/
def depthLimit : Nat := 100

def readBare (s : List Char) : Scan Part :=
  let spelling := s.takeWhile fun c => isBare c || Text.isGap c
  let name := Text.trimGaps spelling
  if name.isEmpty || name.contains ' ' then .error .refused
  else .ok (⟨name.map Char.toNat, spelling⟩, s.drop spelling.length)

def readPart (s : List Char) : Scan Part :=
  let gap := s.takeWhile Text.isGap
  match s.dropWhile Text.isGap with
  | c :: rest =>
      if c == '"' || c == '\'' then
        match readQuoted? c rest with
        | none => .error .refused
        | some (found, after) =>
            if found.long then .error (.unexpected after)
            else
              .ok (⟨found.points, gap ++ found.text ++ after.takeWhile Text.isGap⟩,
                after.dropWhile Text.isGap)
      else readBare s
  | [] => .error .refused

/-- A key of at most a given number of parts. -/
def readParts : Nat → List Char → Scan (List Part)
  | 0, _ => .error .refused
  | most + 1, s =>
      match readPart s with
      | .error stop => .error stop
      | .ok (part, '.' :: rest) =>
          (readParts most rest).map fun (parts, after) => (part :: parts, after)
      | .ok (part, rest) => .ok ([part], rest)

def readKey (s : List Char) : Scan (List Part) :=
  readParts depthLimit s

def spellingOf : List Part → List Char
  | [] => []
  | [part] => part.spelling
  | part :: rest => part.spelling ++ '.' :: spellingOf rest

def readEquals (s : List Char) : Scan (List Char) :=
  let text := s.takeWhile fun c => c == '=' || Text.isGap c
  let rest := s.drop text.length
  match text.count '=' with
  | 0 => .error (.unexpected rest)
  | 1 => .ok (text, rest)
  | _ => .error .refused

def entryNode (lead value tail : List Char) : List Part → Node
  | [] => .space []
  | [part] => .entry part lead value tail
  | part :: rest => .table part [] .dotted [entryNode lead value tail rest]

end CommandDocs.Toml.Layout
