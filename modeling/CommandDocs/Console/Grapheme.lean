import CommandDocs.Console.Width

/-!
# Graphemes

A text is made up of graphemes: characters with those that mark them, or that are joined to them.
A line is only cut between graphemes; a wide one that is cut leaves a space in its place.
-/

namespace CommandDocs.Console

/-- A grapheme and the number of cells that it takes. -/
structure Grapheme where
  text : List Char
  cells : Nat
  deriving DecidableEq, Repr

namespace Grapheme

def append (g : Grapheme) (more : List Char) : Grapheme :=
  ⟨g.text ++ more, g.cells⟩

/-- The graphemes of a text, given those before it, the latest first, and the last character that
may still grow. -/
def listFrom (done : List Grapheme) (last : Option Char) : List Char → List Grapheme
  | [] => done.reverse
  | c :: rest =>
      let n := if c == joiner || c == selector then 0 else charWidth c
      let next := if n == 0 then last else some c
      match done with
      | [] => listFrom [⟨[c], n⟩] next rest
      | g :: before =>
          if c == joiner then
            match rest with
            | [] => listFrom (g.append [c] :: before) last []
            | d :: more => listFrom (g.append [c, d] :: before) last more
          else if c == selector then
            listFrom (⟨g.text ++ [c], g.cells + growth last⟩ :: before)
              (if growth last == 0 then last else none) rest
          else if n == 0 then listFrom (g.append [c] :: before) last rest
          else listFrom (⟨[c], n⟩ :: done) next rest

def listOf (s : List Char) : List Grapheme :=
  listFrom [] none s

/-- The start of a text of a given width. -/
def takeCells : (limit : Nat) → List Grapheme → List Char
  | _, [] => []
  | limit, g :: rest =>
      if limit == 0 then []
      else if limit < g.cells then [' ']
      else g.text ++ takeCells (limit - g.cells) rest

end Grapheme

/-- A line brought to a width: it is filled up with spaces or cut. -/
def resize (limit : Nat) (line : List Char) : List Char :=
  let cells := width line
  if limit < cells then Grapheme.takeCells limit (Grapheme.listOf line)
  else line ++ List.replicate (limit - cells) ' '

/-- A word cut into pieces of a width, given the reversed graphemes that are in the first piece
already and their width. -/
def cutGraphemes (limit : Nat) (piece : List Grapheme) (cells : Nat) :
    List Grapheme → List (List Char)
  | [] => [piece.reverse.flatMap Grapheme.text]
  | g :: rest =>
      if limit < cells + g.cells then
        piece.reverse.flatMap Grapheme.text :: cutGraphemes limit [g] g.cells rest
      else cutGraphemes limit (g :: piece) (cells + g.cells) rest

def cutWord (limit : Nat) (word : List Char) : List (List Char) :=
  cutGraphemes limit [] 0 (Grapheme.listOf word)

end CommandDocs.Console
