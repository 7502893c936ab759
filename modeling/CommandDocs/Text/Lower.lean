import CommandDocs.Text.Fold
import CommandDocs.Text.Interval

/-!
# Small letters

The small form of a text (Unicode version 14). It differs from the folded form where a small letter
folds to others and where a capital letter folds to several or to itself.
-/

namespace CommandDocs.Text

def foldedSmallLetters : List (Nat × Nat) :=
  [
    (0xB5, 0xB5), (0x17F, 0x17F), (0x345, 0x345), (0x3C2, 0x3C2), (0x3D0, 0x3D1),
    (0x3D5, 0x3D6), (0x3F0, 0x3F1), (0x3F5, 0x3F5), (0x13F8, 0x13FD), (0x1C80, 0x1C88),
    (0x1E9B, 0x1E9B), (0x1FBE, 0x1FBE), (0xAB70, 0xABBF)
  ]

/-- Capital letters whose small form is not their folded form: first, last, stride and offset of
each run. -/
def smallRuns : List (Nat × Nat × Nat × Int) :=
  [
    (0x13A0, 0x13EF, 1, 38864), (0x13F0, 0x13F5, 1, 8), (0x1E9E, 0x1E9E, 1, -7615),
    (0x1F88, 0x1F8F, 1, -8), (0x1F98, 0x1F9F, 1, -8), (0x1FA8, 0x1FAF, 1, -8),
    (0x1FBC, 0x1FBC, 1, -9), (0x1FCC, 0x1FCC, 1, -9), (0x1FFC, 0x1FFC, 1, -9)
  ]

def lowerChar (c : Char) : List Char :=
  if c.toNat == 0x130 then ['i', Char.ofNat 0x307]
  else if inIntervals foldedSmallLetters c then [c]
  else [((shifted? smallRuns c).orElse fun _ => shifted? foldRuns c).getD c]

def lower (s : List Char) : List Char :=
  s.flatMap lowerChar

end CommandDocs.Text
