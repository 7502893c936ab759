import CommandDocs.Console.Width

/-!
# Marked texts

A text on the screen in which stretches are marked with a style. The ends of the stretches cut the
text into spans, and the cells of every span are counted for themselves, since no character is
joined to one of another span. An empty stretch cuts the text as well, until the text is divided
into lines. Some characters are never sent to the screen.
-/

namespace CommandDocs.Console

/-- The characters that are never sent to the screen: bell, backspace, vertical tab, form feed and
carriage return. -/
def isUnsent (c : Char) : Bool :=
  c.toNat == 7 || c.toNat == 8 || (11 ≤ c.toNat && c.toNat ≤ 13)

/-- A text without the characters that are never sent. -/
def sent (s : List Char) : List Char :=
  s.filter fun c => !isUnsent c

/-- A stretch of a text, from a place on and up to another. -/
structure Mark where
  start : Nat
  stop : Nat
  deriving DecidableEq, Repr

structure Marked where
  text : List Char
  marks : List Mark := []
  deriving DecidableEq, Repr

namespace Marked

/-- What a stretch marks of a piece of the text, if anything. -/
def markWithin? (offset size : Nat) (m : Mark) : Option Mark :=
  let start := m.start - offset
  let stop := min (m.stop - offset) size
  if start < stop then some ⟨start, stop⟩ else none

/-- The pieces of a marked text from a place on, with as many characters as `gap` says left out
between them. -/
def piecesFrom (gap offset : Nat) (marks : List Mark) : List (List Char) → List Marked
  | [] => []
  | piece :: rest =>
      ⟨piece, marks.filterMap (markWithin? offset piece.length)⟩ ::
        piecesFrom gap (offset + piece.length + gap) marks rest

def pieces (gap : Nat) (t : Marked) : List (List Char) → List Marked
  | [_] => [t]
  | texts => piecesFrom gap 0 t.marks texts

/-- Some pieces from a place on put together. -/
def joinFrom (offset : Nat) : List Marked → Marked
  | [] => ⟨[], []⟩
  | t :: rest =>
      let joined := joinFrom (offset + t.text.length) rest
      ⟨t.text ++ joined.text,
        t.marks.map (fun m => ⟨m.start + offset, m.stop + offset⟩) ++ joined.marks⟩

def shorten (t : Marked) (s : List Char) : Marked :=
  let size := s.length
  ⟨s, (t.marks.filter (·.start < size)).map fun m => { m with stop := min size m.stop }⟩

/-- The parts of a text between some places in order, from an offset on. -/
def cutAt (offset : Nat) : (places : List Nat) → List Char → List (List Char)
  | [], s => [s]
  | place :: rest, s =>
      if place ≤ offset then cutAt offset rest s
      else s.take (place - offset) :: cutAt place rest (s.drop (place - offset))

def spans (t : Marked) : List (List Char) :=
  cutAt 0 ((t.marks.flatMap fun m => [m.start, m.stop]).mergeSort) t.text

def cells (t : Marked) : Nat :=
  t.spans.foldl (fun sum span => sum + width span) 0

end Marked

end CommandDocs.Console
