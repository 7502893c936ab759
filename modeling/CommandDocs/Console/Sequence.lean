import CommandDocs.Text.Line

/-!
# Control sequences

A control sequence steers a terminal: an escape and a bracket, parameters, intermediate
characters, and one final character. A report that is not written to a terminal is written
without them.
-/

namespace CommandDocs.Console

def isParameter (c : Char) : Bool :=
  '0' ≤ c && c ≤ '?'

/-- A character between the parameters and the end of a control sequence. -/
def isIntermediate (c : Char) : Bool :=
  ' ' ≤ c && c ≤ '/'

def isFinal (c : Char) : Bool :=
  '@' ≤ c && c ≤ '~'

def sequenceLength? (s : List Char) : Option Nat :=
  let parameters := s.takeWhile isParameter
  let rest := s.drop parameters.length
  let intermediates := rest.takeWhile isIntermediate
  match rest.drop intermediates.length with
  | c :: _ => if isFinal c then some (parameters.length + intermediates.length + 1) else none
  | [] => none

/-- A text without control sequences. The first characters can be skipped, since they belong to
the sequence before them. -/
def withoutSequencesFrom : (skipped : Nat) → List Char → List Char
  | _, [] => []
  | skipped + 1, _ :: rest => withoutSequencesFrom skipped rest
  | 0, c :: rest =>
      match c, rest with
      | '\x1b', '[' :: more =>
          match sequenceLength? more with
          | some n => withoutSequencesFrom (n + 1) rest
          | none => c :: withoutSequencesFrom 0 rest
      | _, _ => c :: withoutSequencesFrom 0 rest

def withoutSequences (s : List Char) : List Char :=
  withoutSequencesFrom 0 s

end CommandDocs.Console
