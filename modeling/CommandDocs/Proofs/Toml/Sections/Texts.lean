import CommandDocs.Toml.Layout.Text

/-!
# Texts of nodes put together

The text of some nodes is that of the first ones followed by that of the others, up to a line feed
where a header would stand on a line that is still open.
-/

namespace CommandDocs.Toml.Layout

/-! ## Open lines -/

theorem leavesOpen_feed (opened : Bool) (s : List Char) :
    leavesOpen opened (s ++ ['\n']) = false := by
  simp [leavesOpen]

/-- Whether a line is open is carried on from one text to the next. -/
theorem leavesOpen_append (opened : Bool) (s t : List Char) :
    leavesOpen opened (s ++ t) = leavesOpen (leavesOpen opened s) t := by
  unfold leavesOpen
  rw [List.reverse_append, List.dropWhile_append]
  cases cut : t.reverse.dropWhile (· == ' ') with
  | nil => simp
  | cons c rest => simp

theorem leavesOpen_replicate (feeds : Nat) (s : List Char) :
    leavesOpen false (List.replicate feeds '\n' ++ s) = leavesOpen false s := by
  rw [leavesOpen_append]
  cases feeds with
  | zero => rfl
  | succ feeds => rw [List.replicate_succ', leavesOpen_feed]

theorem leavesOpen_cons (opened : Bool) (s : List Char) :
    leavesOpen opened ('\n' :: s) = leavesOpen false s :=
  leavesOpen_append opened ['\n'] s

section Nodes

variable {outer : Option (List Char)} {opened : Bool} {nodes front : List Node} {node other : Node}
  {more : List Char}

theorem textOf_append (outer : Option (List Char)) (opened : Bool) (nodes others : List Node) :
    textOf outer opened (nodes ++ others) =
      textOf outer opened nodes ++
        textOf outer (leavesOpen opened (textOf outer opened nodes)) others := by
  induction nodes generalizing opened with
  | nil => simp [textOf, leavesOpen]
  | cons node nodes ih =>
      rw [List.cons_append, textOf, textOf]
      simp only [ih, leavesOpen_append, List.append_assoc]

/-- A node after which no line feed is missing. -/
theorem textOf_concat (shut : leavesOpen opened (textOf outer opened nodes) = false) :
    textOf outer opened (nodes ++ [node]) = textOf outer opened nodes ++ node.text outer := by
  simp [textOf_append, shut, textOf]

/-- The last node can grow at its end. -/
theorem textOf_grown (same : other.opensLine = node.opensLine)
    (grown : other.text outer = node.text outer ++ more) :
    textOf outer opened (front ++ [other]) = textOf outer opened (front ++ [node]) ++ more := by
  simp only [textOf_append, textOf, same, grown, List.append_nil, List.append_assoc]
  split <;> simp

theorem leavesOpen_last (opens : node.opensLine = true) :
    leavesOpen opened (textOf outer opened (front ++ [node])) =
      leavesOpen false (node.text outer) := by
  rw [textOf_append, leavesOpen_append]
  cases leavesOpen opened (textOf outer opened front) <;>
    simp [textOf, opens, leavesOpen_cons]

theorem textOfItems_append (key : List Char) (items others : List Node) :
    textOfItems key (items ++ others) = textOfItems key items ++ textOfItems key others := by
  induction items with
  | nil => simp [textOfItems]
  | cons item items ih => cases item <;> simp [textOfItems, ih]

theorem text_tables_append (part : Part) (items others : List Node) :
    (Node.tables part (items ++ others)).text outer =
      (Node.tables part items).text outer ++ (Node.tables part others).text outer := by
  simp [Node.text, textOfItems_append]

end Nodes

/-! ## The spelling of keys -/

def spellingIn : Option (List Char) → List Part → List Char
  | none, parts => spellingOf parts
  | some key, parts => key ++ '.' :: spellingOf parts

theorem spellingIn_singleton (outer : Option (List Char)) (part : Part) :
    spellingIn outer [part] = below outer part := by
  cases outer <;> rfl

theorem spellingIn_cons (outer : Option (List Char)) (part next : Part) (rest : List Part) :
    spellingIn outer (part :: next :: rest) =
      spellingIn (some (below outer part)) (next :: rest) := by
  cases outer with
  | none => rfl
  | some key => simp [spellingIn, spellingOf, below]

end CommandDocs.Toml.Layout
