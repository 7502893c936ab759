import CommandDocs.Proofs.Text.Lines
import CommandDocs.Proofs.Toml.Literals
import CommandDocs.Toml.Document

/-!
# Flat documents

A flat document has no tables: every row is empty, a remark, or an entry with one key and a
literal.  Only the last row may lack its line feed.
-/

namespace CommandDocs.Toml

/-! ## Parts of a row -/

def IsSpace (s : List Char) : Prop :=
  ∀ c ∈ s, Text.isGap c = true

theorem isSpace_nil : IsSpace [] :=
  List.forall_mem_nil _

def IsWords (s : List Char) : Prop :=
  ∀ c ∈ s, isIllegal c = false

/-- What may stand on a row after an entry. -/
inductive IsTail : List Char → Prop where
  | space {gap : List Char} (white : IsSpace gap) : IsTail gap
  | remark {gap words : List Char} (white : IsSpace gap) (legal : IsWords words) :
      IsTail (gap ++ '#' :: words)

theorem isTail_nil : IsTail [] :=
  .space isSpace_nil

/-- The points of a name. -/
def pointsOf (name : String) : List Nat :=
  name.toList.map Char.toNat

/-- A text that both readers see as a key of one part, up to the equals sign. -/
structure IsKey (spelling : List Char) (name : String) : Prop where
  opens : ∃ c rest, spelling = c :: rest ∧ Text.isGap c = false ∧ c ∉ ['\n', '#', '[']
  single : '\r' ∉ spelling
  read : ∀ fuel rest, readKey (fuel + 1) (spelling ++ '=' :: rest) = .ok ([name], '=' :: rest)
  kept : ∀ rest, Layout.readKey (spelling ++ '=' :: rest) =
    .ok ([⟨pointsOf name, spelling⟩], '=' :: rest)

/-- An entry as it is written: a key and a literal with space around them, and what follows on the
row. -/
structure Entry where
  indent : List Char
  spelling : List Char
  space : List Char
  value : List Char
  tail : List Char
  name : String
  content : Value
  indented : IsSpace indent
  key : IsKey spelling name
  spaced : IsSpace space
  literal : IsLiteral value content
  ended : IsTail tail

def Entry.lead (e : Entry) : List Char :=
  e.indent ++ e.spelling ++ '=' :: e.space

inductive Line where
  | blank (gap : List Char) (white : IsSpace gap)
  | remark (gap words : List Char) (white : IsSpace gap) (legal : IsWords words)
  | entry (e : Entry)

namespace Line

/-- The text of a row without its line feed. -/
def text : Line → List Char
  | .blank gap _ => gap
  | .remark gap words _ _ => gap ++ '#' :: words
  | .entry e => e.lead ++ e.value ++ e.tail

def entry? : Line → Option Entry
  | .entry e => some e
  | _ => none

end Line

/-- A row with its line feed, unless that is missing. -/
structure Row where
  line : Line
  closed : Bool

namespace Row

def feed (row : Row) : List Char :=
  if row.closed then ['\n'] else []

def text (row : Row) : List Char :=
  row.line.text ++ row.feed

end Row

def rowsText (rows : List Row) : List Char :=
  rows.flatMap Row.text

def entriesOf (rows : List Row) : List Entry :=
  rows.filterMap fun row => row.line.entry?

def tableOf (rows : List Row) : Table :=
  (entriesOf rows).map fun e => (e.name, e.content)

/-- Whether every row but the last has its line feed, and the last one shows. -/
def Orderly : List Row → Prop
  | [] => True
  | [row] => row.text ≠ []
  | row :: next :: rest => row.closed = true ∧ Orderly (next :: rest)

/-- Rows in order, each of which defines something else. -/
structure IsFlat (rows : List Row) : Prop where
  orderly : Orderly rows
  distinct : ((entriesOf rows).map Entry.name).Nodup

/-! ## The ends of rows -/

/-- What may follow the text of a row: a line feed, or the end. -/
inductive Follows : List Char → List Char → Prop where
  | feed (rest : List Char) : Follows ('\n' :: rest) rest
  | nothing : Follows [] []

theorem Follows.head? {after rest : List Char} (follows : Follows after rest) {c : Char}
    (opens : after.head? = some c) : c = '\n' := by
  cases follows with
  | feed => exact (Option.some.inj opens).symm
  | nothing => cases opens

theorem isIllegal_feed : isIllegal '\n' = true := by decide

section Cutting

variable {gap words s after rest : List Char}

theorem dropWhile_space (white : IsSpace gap) (dark : ∀ c ∈ s.head?, Text.isGap c = false) :
    (gap ++ s).dropWhile Text.isGap = s :=
  Text.dropWhile_append_of_head white dark

theorem takeWhile_space (white : IsSpace gap) (dark : ∀ c ∈ s.head?, Text.isGap c = false) :
    (gap ++ s).takeWhile Text.isGap = gap :=
  Text.takeWhile_append_of_head white dark

theorem not_gap_cons {d : Char} (dark : Text.isGap d = false) (s : List Char) :
    ∀ c ∈ (d :: s).head?, Text.isGap c = false := by
  intro c opens
  cases opens
  exact dark

theorem Follows.not_gap (follows : Follows after rest) : ∀ c ∈ after.head?, Text.isGap c = false := by
  intro c opens
  rw [follows.head? opens]
  decide

theorem ne_feed_of_words (legal : IsWords words) : ∀ c ∈ words, (c != '\n') = true := by
  intro c member
  have own := legal c member
  simp only [bne_iff_ne, ne_eq]
  rintro rfl
  rw [isIllegal_feed] at own
  cases own

theorem Follows.feed_first (follows : Follows after rest) :
    ∀ c ∈ after.head?, (c != '\n') = false := by
  intro c opens
  simp [follows.head? opens]

theorem takeWhile_words (legal : IsWords words) (follows : Follows after rest) :
    (words ++ after).takeWhile (· != '\n') = words :=
  Text.takeWhile_append_of_head (ne_feed_of_words legal) follows.feed_first

theorem dropWhile_words (legal : IsWords words) (follows : Follows after rest) :
    (words ++ after).dropWhile (· != '\n') = after :=
  Text.dropWhile_append_of_head (ne_feed_of_words legal) follows.feed_first

theorem any_isIllegal_words (legal : IsWords words) : words.any isIllegal = false := by
  rw [List.any_eq_false]
  intro c member
  simp [legal c member]

end Cutting

theorem afterLine_remark {words after rest : List Char} (legal : IsWords words)
    (follows : Follows after rest) : afterLine ('#' :: (words ++ after)) = .ok rest := by
  have own : ('#' :: (words ++ after)).dropWhile Text.isGap = '#' :: (words ++ after) :=
    List.dropWhile_cons_of_neg (by decide)
  unfold afterLine
  rw [own]
  simp only [takeWhile_words legal follows, dropWhile_words legal follows, any_isIllegal_words legal]
  cases follows <;> rfl

/-- What stands on a row after an entry is passed over. -/
theorem afterLine_tail {tail after rest : List Char} (ended : IsTail tail)
    (follows : Follows after rest) : afterLine (tail ++ after) = .ok rest := by
  cases ended with
  | space white =>
      unfold afterLine
      rw [dropWhile_space white follows.not_gap]
      cases follows <;> rfl
  | @remark gap words white legal =>
      have passed := afterLine_remark legal follows
      unfold afterLine at passed ⊢
      rw [List.append_assoc, List.cons_append, dropWhile_space white (not_gap_cons rfl _)]
      rwa [List.dropWhile_cons_of_neg (by decide)] at passed

theorem endsNumber_of_isGap {c : Char} (gap : Text.isGap c = true) :
    Layout.endsNumber c = true := by
  simp [Layout.endsNumber, isSpaceOrFeed, gap]

theorem ends_space {gap s : List Char} (white : IsSpace gap) (ends : Ends s) : Ends (gap ++ s) := by
  cases gap with
  | nil => exact ends
  | cons d gap =>
      intro c opens
      cases opens
      exact endsNumber_of_isGap (white d List.mem_cons_self)

/-- A value can be followed by what stands on its row. -/
theorem ends_tail {tail after rest : List Char} (ended : IsTail tail)
    (follows : Follows after rest) : Ends (tail ++ after) := by
  cases ended with
  | space white =>
      refine ends_space white ?_
      intro c opens
      rw [follows.head? opens]
      decide
  | remark white legal =>
      rw [List.append_assoc]
      refine ends_space white ?_
      intro c opens
      cases opens
      decide

theorem IsLiteral.not_gap {value : List Char} {content : Value} (literal : IsLiteral value content)
    (s : List Char) : ∀ c ∈ (value ++ s).head?, Text.isGap c = false := by
  obtain ⟨d, rest, rfl, dark, _⟩ := literal.opens
  intro c opens
  cases opens
  exact dark

theorem IsKey.not_gap {spelling : List Char} {name : String} (key : IsKey spelling name)
    (s : List Char) : ∀ c ∈ (spelling ++ s).head?, Text.isGap c = false := by
  obtain ⟨d, rest, rfl, dark, _⟩ := key.opens
  intro c opens
  cases opens
  exact dark

/-- A key opens neither an empty row nor a remark nor a header. -/
theorem IsKey.exists_cons {spelling : List Char} {name : String} (key : IsKey spelling name) :
    ∃ c rest, spelling = c :: rest ∧ c ≠ '\n' ∧ c ≠ '#' ∧ c ≠ '[' := by
  obtain ⟨c, rest, same, _, plain⟩ := key.opens
  refine ⟨c, rest, same, ?_, ?_, ?_⟩
  · rintro rfl
    exact plain (by simp)
  · rintro rfl
    exact plain (by simp)
  · rintro rfl
    exact plain (by simp)

/-! ## The strict reader -/

theorem Entry.text_append (e : Entry) (after : List Char) :
    (Line.entry e).text ++ after =
      e.indent ++ (e.spelling ++ '=' :: (e.space ++ (e.value ++ (e.tail ++ after)))) := by
  simp [Line.text, Entry.lead]

theorem readEntry_entry (e : Entry) {after rest : List Char} (follows : Follows after rest) :
    readEntry (e.spelling ++ '=' :: (e.space ++ (e.value ++ (e.tail ++ after)))) =
      .ok (.entry [e.name] e.content, rest) := by
  have start := dropWhile_space e.spaced (e.literal.not_gap (e.tail ++ after))
  have read := e.literal.read (2 * (e.value ++ (e.tail ++ after)).length + 2) (e.tail ++ after)
    (by rw [List.length_append]; omega) (ends_tail e.ended follows)
  unfold readEntry
  rw [e.key.read]
  simp only [start, read, afterLine_tail e.ended follows]
  rfl

theorem readItem_line (line : Line) {after rest : List Char} (follows : Follows after rest) :
    readItem (line.text ++ after) =
      .ok (line.entry?.map fun e => .entry [e.name] e.content, rest) := by
  cases line with
  | blank gap white =>
      unfold readItem
      rw [Line.text, dropWhile_space white follows.not_gap]
      cases follows <;> rfl
  | remark gap words white legal =>
      have passed := afterLine_remark legal follows
      unfold readItem
      rw [Line.text, List.append_assoc, List.cons_append, dropWhile_space white (not_gap_cons rfl _)]
      simp only [passed]
      rfl
  | entry e =>
      have read := readEntry_entry e follows
      obtain ⟨c, spelling, same, feed, mark, bracket⟩ := e.key.exists_cons
      rw [Entry.text_append]
      unfold readItem
      rw [dropWhile_space e.indented (e.key.not_gap _)]
      rw [same, List.cons_append] at read ⊢
      split
      · rename_i empty
        cases empty
      · rename_i impossible
        exact absurd (List.cons.inj impossible).1 feed
      · rename_i impossible
        exact absurd (List.cons.inj impossible).1 mark
      · rename_i impossible
        exact absurd (List.cons.inj impossible).1 bracket
      · rw [read]
        rfl

end CommandDocs.Toml
