import CommandDocs.Text.Fold

/-!
# Similar texts

Two texts are as similar as they have characters in common blocks: the longest common block, then
the longest ones on either side of it, and so on. The main statement is that a block lies within
the first text, which is why the search ends.
-/

namespace CommandDocs.Text

def sharedStart : List Char → List Char → Nat
  | a :: s, b :: t => if a == b then sharedStart s t + 1 else 0
  | _, _ => 0

/-- A common block of two texts: where it begins in each of them, and its size. -/
structure Block where
  left : Nat
  right : Nat
  size : Nat
  deriving DecidableEq, Repr

/-- The longest block at the start of the first text, and the first such place in the second. -/
def startBlock (s : List Char) : List Char → Block
  | [] => ⟨0, 0, 0⟩
  | b :: t =>
      let later := startBlock s t
      let size := sharedStart s (b :: t)
      if size < later.size then { later with right := later.right + 1 } else ⟨0, 0, size⟩

/-- The longest common block, and the first one of that size. -/
def longestBlock : List Char → List Char → Block
  | [], _ => ⟨0, 0, 0⟩
  | a :: s, t =>
      let later := longestBlock s t
      let block := startBlock (a :: s) t
      if block.size < later.size then { later with left := later.left + 1 } else block

theorem sharedStart_le (s t : List Char) : sharedStart s t ≤ s.length := by
  fun_induction sharedStart s t <;> simp_all

theorem startBlock_left (s t : List Char) : (startBlock s t).left = 0 := by
  fun_induction startBlock s t with
  | case1 => rfl
  | case2 b t later size h ih => exact ih
  | case3 b t later size h ih => rfl

theorem startBlock_size_le (s t : List Char) : (startBlock s t).size ≤ s.length := by
  fun_induction startBlock s t with
  | case1 => simp
  | case2 b t later size h ih => exact ih
  | case3 b t later size h ih => exact sharedStart_le s (b :: t)

theorem longestBlock_le (s t : List Char) :
    (longestBlock s t).left + (longestBlock s t).size ≤ s.length := by
  fun_induction longestBlock s t with
  | case1 => simp
  | case2 a s t later block h ih =>
      change (longestBlock s t).left + 1 + (longestBlock s t).size ≤ s.length + 1
      omega
  | case3 a s t later block h ih =>
      have size := startBlock_size_le (a :: s) t
      have left := startBlock_left (a :: s) t
      change (startBlock (a :: s) t).left + (startBlock (a :: s) t).size ≤ (a :: s).length
      omega

def commonCount (s t : List Char) : Nat :=
  let block := longestBlock s t
  if block.size = 0 then 0
  else
    commonCount (s.take block.left) (t.take block.right) + block.size +
      commonCount (s.drop (block.left + block.size)) (t.drop (block.right + block.size))
termination_by s.length
decreasing_by
  all_goals
    have bound := longestBlock_le s t
    have same : block.size = (longestBlock s t).size := rfl
    simp only [List.length_take, List.length_drop]
    omega

/-- How similar two texts are: twice the number of common characters, out of all characters. -/
structure Similarity where
  common : Nat
  total : Nat
  deriving DecidableEq, Repr

namespace Similarity

def ofTexts (s t : List Char) : Similarity :=
  ⟨2 * commonCount s t, s.length + t.length⟩

/-- Whether the texts count as similar: three fifths of the characters are common. -/
def isClose (x : Similarity) : Bool :=
  3 * x.total ≤ 5 * x.common

def atLeast (x y : Similarity) : Bool :=
  y.common * x.total ≤ x.common * y.total

end Similarity

/-- Which of two candidates comes first: the more similar one, or of equals the later one in the
order of code points. -/
def closerFirst (x y : String × Similarity) : Bool :=
  if x.2.atLeast y.2 then
    if y.2.atLeast x.2 then codePointLe y.1.toList x.1.toList else true
  else false

def suggestionLimit : Nat := 3

def closest (word : String) (candidates : List String) : List String :=
  let scored := candidates.map fun c => (c, Similarity.ofTexts c.toList word.toList)
  (((scored.filter (·.2.isClose)).mergeSort closerFirst).take suggestionLimit).map (·.1)

end CommandDocs.Text
