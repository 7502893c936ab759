import CommandDocs.Text.Line

/-!
# Ways to end a line

A line can be ended by a line feed, by a carriage return, or by both.  Unifying these breaks is to
drop the carriage returns before line feeds and then to turn the others into line feeds; it gives
back the text with line feeds alone, whatever was chosen for each of its lines.
-/

namespace CommandDocs.Text

/-- How a line is ended. -/
inductive Break where
  | feed
  | pair
  | carriage
  deriving DecidableEq, Repr

def Break.chars : Break → List Char
  | .feed => ['\n']
  | .pair => ['\r', '\n']
  | .carriage => ['\r']

/-- A text in which the line feeds, numbered from a number on, are replaced by the breaks that are
chosen for their numbers. -/
def rebreak (choose : Nat → Break) : Nat → List Char → List Char
  | _, [] => []
  | k, c :: rest =>
      if c = '\n' then (choose k).chars ++ rebreak choose (k + 1) rest
      else c :: rebreak choose k rest

/-- The choices under which no carriage return comes to stand before a line feed by chance. -/
def Separate (choose : Nat → Break) : Prop :=
  ∀ k, choose k = .carriage → choose (k + 1) ≠ .feed

theorem separate_of_ne_carriage {choose : Nat → Break} (never : ∀ k, choose k ≠ .carriage) :
    Separate choose :=
  fun k carriage => absurd carriage (never k)

theorem separate_of_eq_carriage {choose : Nat → Break} (always : ∀ k, choose k = .carriage) :
    Separate choose := by
  intro k _
  rw [always (k + 1)]
  decide

theorem rebreak_feed (choose : Nat → Break) (k : Nat) (rest : List Char) :
    rebreak choose k ('\n' :: rest) = (choose k).chars ++ rebreak choose (k + 1) rest :=
  if_pos rfl

theorem rebreak_cons {c : Char} (apart : c ≠ '\n') (choose : Nat → Break) (k : Nat)
    (rest : List Char) : rebreak choose k (c :: rest) = c :: rebreak choose k rest :=
  if_neg apart

/-! ## Two replacements -/

def feedFor (c : Char) : Char :=
  if c == '\r' then '\n' else c

/-- Unifying the breaks is two replacements, one after the other. -/
theorem unifyBreaks_eq_map_dropReturns (s : List Char) :
    unifyBreaks s = (dropReturns s).map feedFor := by
  fun_induction unifyBreaks s with
  | case1 => rfl
  | case2 rest ih =>
      rw [dropReturns, List.map_cons, ih]
      rfl
  | case3 c rest other ih =>
      rw [dropReturns, List.map_cons, ih]
      · rfl
      · exact other

theorem dropReturns_cons {c : Char} (apart : c ≠ '\r') (rest : List Char) :
    dropReturns (c :: rest) = c :: dropReturns rest := by
  rw [dropReturns]
  rintro others rfl
  exact absurd rfl apart

theorem dropReturns_append {s : List Char} (free : '\r' ∉ s) (rest : List Char) :
    dropReturns (s ++ rest) = s ++ dropReturns rest := by
  induction s with
  | nil => rfl
  | cons c s ih =>
      simp only [List.mem_cons, not_or] at free
      obtain ⟨apart, others⟩ := free
      rw [List.cons_append, dropReturns_cons (Ne.symm apart), ih others, List.cons_append]

/-- Without further carriage returns every line break is a line feed. -/
theorem unifyBreaks_of_dropReturns {s : List Char} (free : '\r' ∉ dropReturns s) :
    unifyBreaks s = dropReturns s := by
  rw [unifyBreaks_eq_map_dropReturns]
  refine (List.map_congr_left fun c member => ?_).trans (List.map_id _)
  have apart : c ≠ '\r' := fun same => free (same ▸ member)
  simp [feedFor, apart]

theorem dropReturns_carriage {rest : List Char} (apart : rest.head? ≠ some '\n') :
    dropReturns ('\r' :: rest) = '\r' :: dropReturns rest := by
  rw [dropReturns]
  rintro others _ rfl
  exact absurd rfl apart

/-- Unless a line feed is chosen for the next line feed, none comes next. -/
theorem head?_rebreak {choose : Nat → Break} {k : Nat} (other : choose k ≠ .feed)
    (s : List Char) : (rebreak choose k s).head? ≠ some '\n' := by
  cases s with
  | nil => exact fun same => by cases same
  | cons c rest =>
      by_cases feed : c = '\n'
      · rw [feed, rebreak_feed]
        cases chosen : choose k with
        | feed => exact absurd chosen other
        | pair => exact fun same => absurd (Option.some.inj same) (by decide)
        | carriage => exact fun same => absurd (Option.some.inj same) (by decide)
      · rw [rebreak_cons feed]
        exact fun same => feed (Option.some.inj same)

/-- What is left of a break when carriage returns before line feeds have been dropped. -/
def Break.dropped : Break → Break
  | .feed => .feed
  | .pair => .feed
  | .carriage => .carriage

/-- The first replacement makes every pair a line feed and leaves the other breaks alone. -/
theorem dropReturns_rebreak {choose : Nat → Break} (separate : Separate choose) (k : Nat)
    {s : List Char} (free : '\r' ∉ s) :
    dropReturns (rebreak choose k s) = rebreak (fun k => (choose k).dropped) k s := by
  induction s generalizing k with
  | nil => rfl
  | cons c rest ih =>
      simp only [List.mem_cons, not_or] at free
      obtain ⟨apart, free⟩ := free
      by_cases feed : c = '\n'
      · rw [feed, rebreak_feed, rebreak_feed, ← ih (k + 1) free]
        cases chosen : choose k with
        | feed => exact dropReturns_cons (by decide) _
        | pair => rfl
        | carriage => exact dropReturns_carriage (head?_rebreak (separate k chosen) rest)
      · rw [rebreak_cons feed, rebreak_cons feed, dropReturns_cons (Ne.symm apart), ih k free]

/-- The second replacement turns what is left into line feeds. -/
theorem map_feedFor_rebreak {choose : Nat → Break} (single : ∀ k, choose k ≠ .pair) (k : Nat)
    {s : List Char} (free : '\r' ∉ s) : (rebreak choose k s).map feedFor = s := by
  induction s generalizing k with
  | nil => rfl
  | cons c rest ih =>
      simp only [List.mem_cons, not_or] at free
      obtain ⟨apart, free⟩ := free
      by_cases feed : c = '\n'
      · rw [feed, rebreak_feed, List.map_append, ih (k + 1) free]
        cases chosen : choose k with
        | feed => rfl
        | pair => exact absurd chosen (single k)
        | carriage => rfl
      · have kept : feedFor c = c := if_neg (by simpa using Ne.symm apart)
        rw [rebreak_cons feed, List.map_cons, ih k free, kept]

/-- **Unifying breaks gives back the text**, whatever its lines are ended by. -/
theorem unifyBreaks_rebreak {choose : Nat → Break} (separate : Separate choose) (k : Nat)
    {s : List Char} (free : '\r' ∉ s) : unifyBreaks (rebreak choose k s) = s := by
  have single (k : Nat) : (choose k).dropped ≠ .pair := by cases choose k <;> decide
  rw [unifyBreaks_eq_map_dropReturns, dropReturns_rebreak separate k free,
    map_feedFor_rebreak single k free]

/-! ## Listings -/

theorem isBreak_of_mem_breakLines {s line : List Char} (member : line ∈ breakLines s) {c : Char}
    (here : c ∈ line) : isBreak c = false := by
  fun_induction breakLines s generalizing line with
  | case1 => cases member
  | case2 rest ih =>
      rcases List.mem_cons.mp member with rfl | later
      · cases here
      · exact ih later here
  | case3 first rest _ breaks ih =>
      rcases List.mem_cons.mp member with rfl | later
      · cases here
      · exact ih later here
  | case4 first rest _ plain empty ih =>
      rw [List.mem_singleton.mp member] at here
      rw [List.mem_singleton.mp here]
      exact Bool.eq_false_iff.mpr plain
  | case5 first rest _ plain next others split ih =>
      rw [split] at ih
      rcases List.mem_cons.mp member with rfl | later
      · rcases List.mem_cons.mp here with rfl | inside
        · exact Bool.eq_false_iff.mpr plain
        · exact ih List.mem_cons_self inside
      · exact ih (List.mem_cons_of_mem _ later) here

end CommandDocs.Text
