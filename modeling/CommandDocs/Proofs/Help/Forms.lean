import CommandDocs.Proofs.Help.Sections
import CommandDocs.Proofs.Text.Classes
import CommandDocs.Proofs.Text.Lines

/-!
# Forms of lines

What a header, a labelled line, an indented line and the two kinds of anchors look like, each as
one equation for the whole line.  The readers of lines accept exactly these forms.
-/

namespace CommandDocs.Help.Layout

def IsHeaderLine (header : String) (line : Line) : Prop :=
  ∃ gaps, isGapLine gaps = true ∧ line = header.toList ++ gaps

/-- A line that starts, perhaps after some gaps, with a label, and what stands after the label. -/
def IsLabelled (label : String) (line rest : Line) : Prop :=
  ∃ gaps, isGapLine gaps = true ∧ line = gaps ++ (label.toList ++ rest)

/-- A line that is indented by gaps, with no blank right behind them. -/
def IsIndented (line : Line) : Prop :=
  ∃ indent c rest, IsIndent indent ∧ Text.isBlank c = false ∧ line = indent ++ c :: rest

/-- The anchor of a parameter: at most four gaps, a dash, a letter that starts the longest run of
name characters, and the type, which is the rest of the line without its gaps. -/
structure IsParameterAnchor (line name type : Line) : Prop where
  letter : ∃ c ∈ name.head?, c.isAlpha = true
  shape : ∃ gaps rest, isGapLine gaps = true ∧ gaps.length ≤ 4 ∧
    line = gaps ++ '-' :: (name ++ rest) ∧ (∀ c ∈ name.tail, isNameChar c = true) ∧
    (∀ c ∈ rest.head?, isNameChar c = false) ∧ type = Text.trimGaps rest

/-- The anchor of an example: perhaps some gaps, a rule of dashes, perhaps some gaps, the word,
some gaps, and the longest run of decimal digits, which is not empty. -/
structure IsExampleAnchor (line digits : Line) : Prop where
  nonempty : digits ≠ []
  decimal : ∀ c ∈ digits, Text.isDecimal c = true
  shape : ∃ before rule between after rest, isGapLine before = true ∧
    rule ≠ [] ∧ (∀ c ∈ rule, c = '-') ∧ isGapLine between = true ∧ IsIndent after ∧
    (∀ c ∈ rest.head?, Text.isDecimal c = false) ∧
    line = before ++ (rule ++ (between ++ ("EXAMPLE".toList ++ (after ++ (digits ++ rest)))))

/-! ## Headers and labels -/

theorem isHeader_iff {header : String} {line : Line} :
    isHeader header line = true ↔ IsHeaderLine header line := by
  unfold isHeader IsHeaderLine
  cases start : Text.afterStart? header.toList line with
  | none =>
      simp only [Bool.false_eq_true, false_iff]
      rintro ⟨gaps, _, rfl⟩
      rw [Text.afterStart?_eq_some_iff.mpr rfl] at start
      cases start
  | some rest =>
      rw [Text.afterStart?_eq_some_iff] at start
      subst start
      constructor
      · exact fun gaps => ⟨rest, gaps, rfl⟩
      · rintro ⟨gaps, all, same⟩
        rwa [List.append_cancel_left same]

/-- A run of gaps at the start of a line. -/
theorem exists_gaps_dropWhile (line : Line) :
    ∃ gaps, isGapLine gaps = true ∧ line = gaps ++ line.dropWhile Text.isGap :=
  ⟨line.takeWhile Text.isGap, List.all_takeWhile, List.takeWhile_append_dropWhile.symm⟩

theorem afterLabel?_eq_some_iff {label : String} (solid : isUnindented label.toList = true)
    {line rest : Line} : afterLabel? label line = some rest ↔ IsLabelled label line rest := by
  unfold afterLabel? IsLabelled
  rw [Text.afterStart?_eq_some_iff]
  constructor
  · intro start
    obtain ⟨gaps, all, same⟩ := exists_gaps_dropWhile line
    exact ⟨gaps, all, same.trans (by rw [start])⟩
  · rintro ⟨gaps, all, rfl⟩
    rw [dropWhile_gaps_append all]
    exact dropWhile_of_isUnindented (isUnindented_append solid rest)

theorem isCommonParameters_iff {line : Line} :
    isCommonParameters line = true ↔ ∃ rest, IsLabelled "<CommonParameters>" line rest := by
  rw [isCommonParameters, Option.isSome_iff_exists]
  exact exists_congr fun rest => afterLabel?_eq_some_iff (by decide)

/-! ## Indented lines -/

theorem IsIndented.solid {line : Line} (indented : IsIndented line) : isGapLine line = false := by
  obtain ⟨indent, c, rest, _, solid, rfl⟩ := indented
  cases gaps : isGapLine (indent ++ c :: rest) with
  | false => rfl
  | true =>
      have gap := List.all_eq_true.mp gaps c (by simp)
      rw [Text.isBlank_of_isGap gap] at solid
      cases solid

theorem isIndented_iff {c : Char} {rest : Line} :
    IsIndented (c :: rest) ↔
      Text.isGap c = true ∧ isUnindented ((c :: rest).dropWhile Text.isGap) = true := by
  constructor
  · rintro ⟨indent, d, others, indented, solid, same⟩
    have start : isUnindented (d :: others) = true := by simp [isUnindented, solid]
    rw [same, dropWhile_gaps_append indented.2, dropWhile_of_isUnindented start]
    obtain ⟨g, more, rfl, gap⟩ := indented.exists_cons
    cases same
    exact ⟨gap, start⟩
  · rintro ⟨gap, start⟩
    cases inside : (c :: rest).dropWhile Text.isGap with
    | nil =>
        rw [inside] at start
        cases start
    | cons d others =>
        rw [inside, isUnindented, Bool.not_eq_true'] at start
        refine ⟨(c :: rest).takeWhile Text.isGap, d, others, ⟨?_, List.all_takeWhile⟩, start, ?_⟩
        · rw [List.takeWhile_cons_of_pos gap]
          exact List.cons_ne_nil _ _
        · rw [← inside, List.takeWhile_append_dropWhile]

/-! ## Anchors -/

theorem isParameterAnchor_of_anchor? {line name type : Line}
    (read : anchor? line = some (name, type)) : IsParameterAnchor line name type := by
  unfold anchor? at read
  split at read
  · rename_i c rest start
    split at read
    · rename_i fits
      rw [Bool.and_eq_true, decide_eq_true_iff] at fits
      cases read
      refine ⟨⟨c, rfl, fits.2⟩, line.takeWhile Text.isGap, rest.dropWhile isNameChar,
        List.all_takeWhile, fits.1, ?_, fun d => List.mem_takeWhile_imp,
        fun d => Text.not_of_mem_head?_dropWhile, rfl⟩
      rw [List.cons_append, List.takeWhile_append_dropWhile, ← start,
        List.takeWhile_append_dropWhile]
    · cases read
  · cases read

theorem IsParameterAnchor.anchor? {line name type : Line}
    (anchor : IsParameterAnchor line name type) : anchor? line = some (name, type) := by
  obtain ⟨⟨c, first, alpha⟩, gaps, rest, all, short, rfl, names, ends, rfl⟩ := anchor
  obtain ⟨more, rfl⟩ := List.head?_eq_some_iff.mp first
  rw [List.tail_cons] at names
  have gapped := List.all_eq_true.mp all
  have dash : ∀ d ∈ ('-' :: (c :: more ++ rest)).head?, Text.isGap d = false := by
    rintro d ⟨⟩
    decide
  unfold Layout.anchor?
  rw [Text.dropWhile_append_of_head gapped dash, Text.takeWhile_append_of_head gapped dash]
  simp only [List.cons_append]
  rw [if_pos (by simp [short, alpha]), Text.takeWhile_append_of_head names ends,
    Text.dropWhile_append_of_head names ends]

theorem anchor?_eq_some_iff {line name type : Line} :
    anchor? line = some (name, type) ↔ IsParameterAnchor line name type :=
  ⟨isParameterAnchor_of_anchor?, IsParameterAnchor.anchor?⟩

theorem isExampleAnchor_of_exampleDigits? {line digits : Line}
    (read : exampleDigits? line = some digits) : IsExampleAnchor line digits := by
  unfold exampleDigits? at read
  split at read
  · rename_i rest start
    split at read
    · rename_i c more labelled
      dsimp only at read
      split at read
      · rename_i proper
        cases read
        rw [Bool.and_eq_true, Bool.not_eq_true', List.isEmpty_eq_false_iff] at proper
        obtain ⟨between, inner, same⟩ := (afterLabel?_eq_some_iff (by decide)).mp labelled
        refine ⟨proper.2, fun d => List.mem_takeWhile_imp, line.takeWhile Text.isGap,
          '-' :: rest.takeWhile (· == '-'), between, (c :: more).takeWhile Text.isGap,
          ((c :: more).dropWhile Text.isGap).dropWhile Text.isDecimal, List.all_takeWhile,
          List.cons_ne_nil _ _, ?_, inner, ⟨?_, List.all_takeWhile⟩,
          fun d => Text.not_of_mem_head?_dropWhile, ?_⟩
        · intro d member
          rcases List.mem_cons.mp member with rfl | later
          · rfl
          · exact eq_of_beq (List.mem_takeWhile_imp (p := (· == '-')) later)
        · rw [List.takeWhile_cons_of_pos proper.1]
          exact List.cons_ne_nil _ _
        · rw [List.takeWhile_append_dropWhile, List.takeWhile_append_dropWhile, ← same,
            List.cons_append, List.takeWhile_append_dropWhile, ← start,
            List.takeWhile_append_dropWhile]
      · cases read
    · cases read
  · cases read

/-- The word of an example anchor, with perhaps some gaps before it, ends its rule. -/
theorem not_dash_of_mem_head? {gaps : Line} (all : isGapLine gaps = true) (rest : Line) :
    ∀ c ∈ (gaps ++ ("EXAMPLE".toList ++ rest)).head?, (c == '-') = false := by
  cases gaps with
  | nil =>
      rintro c ⟨⟩
      rfl
  | cons g gaps =>
      have gap := List.all_eq_true.mp all g List.mem_cons_self
      rintro c ⟨⟩
      rw [beq_eq_false_iff_ne]
      rintro rfl
      cases gap

theorem IsExampleAnchor.exampleDigits? {line digits : Line}
    (anchor : IsExampleAnchor line digits) : exampleDigits? line = some digits := by
  obtain ⟨nonempty, decimal, before, rule, between, after, rest, gaps, ruled, dashes, inner, indent,
    ends, rfl⟩ := anchor
  obtain ⟨first, others, rfl⟩ := List.exists_cons_of_ne_nil ruled
  obtain rfl : first = '-' := dashes first List.mem_cons_self
  obtain ⟨gap, more, rfl, opens⟩ := indent.exists_cons
  let number : Line := digits ++ rest
  let labelled : Line := between ++ ("EXAMPLE".toList ++ (gap :: (more ++ number)))
  have inside : (before ++ ('-' :: (others ++ labelled))).dropWhile Text.isGap =
      '-' :: (others ++ labelled) := by
    rw [dropWhile_gaps_append gaps, List.dropWhile_cons_of_neg (by decide)]
  have afterRule : (others ++ labelled).dropWhile (· == '-') = labelled :=
    Text.dropWhile_append_of_head
      (fun c member => by simpa using dashes c (List.mem_cons_of_mem _ member))
      (not_dash_of_mem_head? inner _)
  have label : afterLabel? "EXAMPLE" labelled = some (gap :: (more ++ number)) :=
    (afterLabel?_eq_some_iff (by decide)).mpr ⟨between, inner, rfl⟩
  have solid : ∀ c ∈ number.head?, Text.isGap c = false := by
    obtain ⟨d, run, rfl⟩ := List.exists_cons_of_ne_nil nonempty
    rintro c ⟨⟩
    exact Text.isGap_of_isDecimal (decimal d List.mem_cons_self)
  have start : (gap :: (more ++ number)).dropWhile Text.isGap = number :=
    Text.dropWhile_append_of_head (List.all_eq_true.mp indent.2) solid
  have run : number.takeWhile Text.isDecimal = digits :=
    Text.takeWhile_append_of_head decimal ends
  have filled : digits.isEmpty = false := List.isEmpty_eq_false_iff.mpr nonempty
  have line : Layout.exampleDigits? (before ++ ('-' :: (others ++ labelled))) = some digits := by
    simp only [Layout.exampleDigits?, inside, afterRule, label, start, run, opens, filled]
    rfl
  exact line

theorem exampleDigits?_eq_some_iff {line digits : Line} :
    exampleDigits? line = some digits ↔ IsExampleAnchor line digits :=
  ⟨isExampleAnchor_of_exampleDigits?, IsExampleAnchor.exampleDigits?⟩

end CommandDocs.Help.Layout
