import CommandDocs.Page
import CommandDocs.Proofs.Page.Shown
import Std.Data.String.ToInt

/-!
# Pages lose nothing

Two help texts with the same page say the same, up to blanks at the end of a type.  Most lines of
a page hold one value between fixed ends.  The body of an example may take several lines, but
what follows a line feed in it is a blank, so that nothing in a body can be taken for the heading
of the next example.
-/

namespace CommandDocs.Page

open Help

/-! ## Lines of a page -/

def ended (lines : List String) : List Char :=
  lines.flatMap fun line => line.toList ++ ['\n']

theorem toList_endLines (lines : List String) : (endLines lines).toList = ended lines := by
  rw [endLines, String.toList_join, List.flatMap_map]
  simp [ended]

theorem ended_cons (line : String) (rest : List String) :
    ended (line :: rest) = line.toList ++ '\n' :: ended rest := by
  simp [ended]

theorem ended_append (first second : List String) :
    ended (first ++ second) = ended first ++ ended second :=
  List.flatMap_append

theorem flat_line_inj {line other : String} (flat : IsFlat line) (flatOther : IsFlat other)
    {rest more : List Char} (same : line.toList ++ '\n' :: rest = other.toList ++ '\n' :: more) :
    line = other ∧ rest = more := by
  have lines := congrArg (List.takeWhile (· != '\n')) same
  have rests := congrArg (List.dropWhile (· != '\n')) same
  have plain {s : String} (h : IsFlat s) : ∀ c ∈ s.toList, (c != '\n') = true := by
    intro c member
    exact bne_iff_ne.mpr fun feed => h (feed ▸ member)
  rw [List.takeWhile_append_of_pos (plain flat), List.takeWhile_append_of_pos (plain flatOther)]
    at lines
  rw [List.dropWhile_append_of_pos (plain flat), List.dropWhile_append_of_pos (plain flatOther)]
    at rests
  simp only [List.takeWhile_cons, bne_self_eq_false, Bool.false_eq_true, if_false,
    List.append_nil] at lines
  simp only [List.dropWhile_cons, bne_self_eq_false, Bool.false_eq_true, if_false,
    List.cons.injEq, true_and] at rests
  exact ⟨String.toList_inj.mp lines, rests⟩

theorem flat_lines_inj {lines others : List String} (long : lines.length = others.length)
    (flat : ∀ line ∈ lines, IsFlat line) (flatOthers : ∀ line ∈ others, IsFlat line)
    {rest more : List Char} (same : ended lines ++ rest = ended others ++ more) :
    lines = others ∧ rest = more := by
  induction lines generalizing others with
  | nil =>
      cases others with
      | nil => exact ⟨rfl, same⟩
      | cons other others => cases long
  | cons line lines ih =>
      cases others with
      | nil => cases long
      | cons other others =>
          rw [ended_cons, ended_cons, List.append_assoc, List.append_assoc, List.cons_append,
            List.cons_append] at same
          obtain ⟨first, later⟩ :=
            flat_line_inj (flat line List.mem_cons_self) (flatOthers other List.mem_cons_self) same
          obtain ⟨rest, ends⟩ := ih (Nat.succ.inj long)
            (fun source member => flat source (List.mem_cons_of_mem _ member))
            (fun source member => flatOthers source (List.mem_cons_of_mem _ member)) later
          exact ⟨by rw [first, rest], ends⟩

/-- A hanging text cannot reach past a line feed that is followed by another character than a
blank. -/
theorem hanging_inj {text other rest more : List Char} (hangs : text.IsChain Hangs)
    (hangsOther : other.IsChain Hangs) (solid : ∀ c ∈ rest.head?, Text.isBlank c = false)
    (solidMore : ∀ c ∈ more.head?, Text.isBlank c = false)
    (same : text ++ '\n' :: rest = other ++ '\n' :: more) : text = other ∧ rest = more := by
  -- the longer text would hold the line feed and what follows it in the other
  have short {a r m t : List Char} (hangs : (t ++ a).IsChain Hangs)
      (solid : ∀ c ∈ r.head?, Text.isBlank c = false) (h : '\n' :: r = a ++ '\n' :: m) :
      a = [] ∧ r = m := by
    cases a with
    | nil => exact ⟨rfl, (List.cons.inj h).2⟩
    | cons c a =>
        obtain ⟨feed, tail⟩ := List.cons.inj h
        subst feed
        cases a with
        | nil =>
            have feed := solid '\n' (by rw [tail]; rfl)
            exact absurd feed (by decide)
        | cons d a =>
            have blank : Text.isBlank d = true :=
              (List.isChain_cons_cons.mp hangs.right_of_append).1 rfl
            have other := solid d (by rw [tail]; rfl)
            rw [blank] at other
            cases other
  rcases List.append_eq_append_iff.mp same with ⟨a, whole, tail⟩ | ⟨a, whole, tail⟩
  · obtain ⟨empty, ends⟩ := short (whole ▸ hangsOther) solid tail
    exact ⟨by rw [whole, empty, List.append_nil], ends⟩
  · obtain ⟨empty, ends⟩ := short (whole ▸ hangs) solidMore tail
    exact ⟨by rw [whole, empty, List.append_nil], ends.symm⟩

/-! ## Parameters -/

theorem isFlat_append {s t : String} (first : IsFlat s) (second : IsFlat t) : IsFlat (s ++ t) := by
  simpa [IsFlat] using And.intro first second

theorem isFlat_framed {opening value closing : String} (flat : IsFlat value)
    (frame : IsFlat (opening ++ closing)) : IsFlat (opening ++ value ++ closing) := by
  have parts : IsFlat opening ∧ IsFlat closing := by simpa [IsFlat] using frame
  exact isFlat_append (isFlat_append parts.1 flat) parts.2

theorem isFlat_row {label value : String} (flat : IsFlat value) (known : IsFlat label) :
    IsFlat (row label value) :=
  isFlat_framed flat (isFlat_append (isFlat_framed known (by decide)) (by decide))

theorem length_parameterLines (p : Parameter) : (parameterLines p).length = 9 :=
  rfl

theorem isFlat_of_mem_parameterLines {p : Parameter} (legible : p.IsLegible) {line : String}
    (member : line ∈ parameterLines p) : IsFlat line := by
  have shown : IsFlat p.htmlName := Html.isFlat_escape (isFlat_displayName legible)
  simp only [parameterLines, List.mem_cons, List.not_mem_nil, or_false] at member
  rcases member with rfl | rfl | rfl | rfl | rfl | rfl | rfl | rfl | rfl
  · exact isFlat_framed shown (by decide)
  · decide
  · exact isFlat_row legible.description (by decide)
  · exact isFlat_row legible.required (by decide)
  · exact isFlat_row legible.position (by decide)
  · exact isFlat_row legible.defaultValue (by decide)
  · exact isFlat_row legible.pipelineInput (by decide)
  · exact isFlat_row legible.wildcards (by decide)
  · decide

theorem alike_of_parameterLines_eq {p q : Parameter} (hp : p.IsLegible) (hq : q.IsLegible)
    (same : parameterLines p = parameterLines q) : p.Alike q := by
  simp only [parameterLines, row, List.cons.injEq, String.append_left_inj, String.append_right_inj,
    and_true, true_and] at same
  obtain ⟨shown, description, required, position, defaultValue, pipelineInput, wildcards⟩ := same
  obtain ⟨name, typeHint⟩ := displayName_inj hp.name hq.name (Html.eq_of_escape_eq shown)
  exact {
    name, typeHint, description, required, position, defaultValue, pipelineInput, wildcards
  }

theorem parameters_inj {ps qs : List Parameter} (hp : ∀ p ∈ ps, p.IsLegible)
    (hq : ∀ q ∈ qs, q.IsLegible) {rest more : List Char}
    (ends : rest.take 4 ≠ "<h3>".toList) (endsMore : more.take 4 ≠ "<h3>".toList)
    (same : ended (ps.flatMap parameterLines) ++ rest =
      ended (qs.flatMap parameterLines) ++ more) :
    List.Forall₂ Parameter.Alike ps qs ∧ rest = more := by
  have heading (p : Parameter) (others : List Parameter) (tail : List Char) :
      (ended ((p :: others).flatMap parameterLines) ++ tail).take 4 = "<h3>".toList := by
    simp [parameterLines, ended_cons]
  induction ps generalizing qs with
  | nil =>
      cases qs with
      | nil => exact ⟨.nil, same⟩
      | cons q qs =>
          refine absurd ?_ ends
          rw [← heading q qs more, ← same]
          rfl
  | cons p ps ih =>
      cases qs with
      | nil =>
          refine absurd ?_ endsMore
          rw [← heading p ps rest, same]
          rfl
      | cons q qs =>
          rw [List.flatMap_cons, List.flatMap_cons, ended_append, ended_append, List.append_assoc,
            List.append_assoc] at same
          have legible := hp p List.mem_cons_self
          have legibleOther := hq q List.mem_cons_self
          obtain ⟨lines, later⟩ := flat_lines_inj
            ((length_parameterLines p).trans (length_parameterLines q).symm)
            (fun _ => isFlat_of_mem_parameterLines legible)
            (fun _ => isFlat_of_mem_parameterLines legibleOther) same
          obtain ⟨alike, tail⟩ := ih (fun r member => hp r (List.mem_cons_of_mem _ member))
            (fun r member => hq r (List.mem_cons_of_mem _ member)) later
          exact ⟨.cons (alike_of_parameterLines_eq legible legibleOther lines) alike, tail⟩

/-! ## Examples -/

theorem isFlat_toString (number : Int) : IsFlat (toString number) := by
  have digits (n : Nat) : '\n' ∉ n.repr.toList := by
    intro member
    rw [Nat.toList_repr] at member
    exact absurd (Nat.isDigit_of_mem_toDigits (by decide) (by decide) member) (by decide)
  cases number with
  | ofNat n => exact digits n
  | negSucc n =>
      have sign : IsFlat "-" := by decide
      exact isFlat_append sign (digits (n + 1))

theorem isChain_pre {body : String} (hanging : IsHanging body) :
    ("<pre>" ++ body ++ "</pre>").toList.IsChain Hangs := by
  have opens : "<pre>".toList.IsChain Hangs := isChain_of_not_mem (by decide)
  have closes : "</pre>".toList.IsChain Hangs := isChain_of_not_mem (by decide)
  rw [String.toList_append, String.toList_append]
  refine (opens.append hanging.chain ?_).append closes ?_
  · intro c last d _ feed
    have same : '>' = c := Option.some.inj last
    subst same
    cases feed
  · intro c last d _ feed
    subst feed
    rw [Option.mem_def, List.getLast?_append] at last
    cases final : body.toList.getLast? with
    | none =>
        rw [final] at last
        cases last
    | some c =>
        rw [final] at last
        exact absurd (Option.some.inj last) (hanging.ended c final)

theorem ended_examples_cons (e : Example) (rest : List Example) :
    ended ((e :: rest).flatMap exampleLines) =
      ("<h2>Example " ++ toString e.number ++ "</h2>").toList ++ '\n' ::
        (("<pre>" ++ e.body ++ "</pre>").toList ++ '\n' ::
          ended (rest.flatMap exampleLines)) := by
  rw [List.flatMap_cons, ended_append, exampleLines, ended_cons, ended_cons]
  simp [ended]

/-- Examples are told apart by their headings and texts. -/
theorem examples_inj {es fs : List Example} (he : ∀ e ∈ es, IsHanging e.body)
    (hf : ∀ f ∈ fs, IsHanging f.body)
    (same : ended (es.flatMap exampleLines) = ended (fs.flatMap exampleLines)) : es = fs := by
  have solid (others : List Example) :
      ∀ c ∈ (ended (others.flatMap exampleLines)).head?, Text.isBlank c = false := by
    intro c first
    cases others with
    | nil => cases first
    | cons e others =>
        simp [exampleLines, ended_cons] at first
        rw [← first]
        decide
  induction es generalizing fs with
  | nil =>
      cases fs with
      | nil => rfl
      | cons f fs => simp [exampleLines, ended] at same
  | cons e es ih =>
      cases fs with
      | nil => simp [exampleLines, ended] at same
      | cons f fs =>
          rw [ended_examples_cons, ended_examples_cons] at same
          have flat (number : Int) : IsFlat ("<h2>Example " ++ toString number ++ "</h2>") :=
            isFlat_framed (isFlat_toString number) (by decide)
          obtain ⟨heading, later⟩ := flat_line_inj (flat e.number) (flat f.number) same
          obtain ⟨text, rest⟩ := hanging_inj (isChain_pre (he e List.mem_cons_self))
            (isChain_pre (hf f List.mem_cons_self)) (solid es) (solid fs) later
          have number : e.number = f.number := by
            rw [String.append_left_inj, String.append_right_inj] at heading
            exact Int.repr_injective heading
          have body : e.body = f.body := by
            have whole := String.toList_inj.mp text
            rwa [String.append_left_inj, String.append_right_inj] at whole
          have examples := ih (fun g member => he g (List.mem_cons_of_mem _ member))
            (fun g member => hf g (List.mem_cons_of_mem _ member)) rest
          rw [examples]
          cases e
          cases f
          cases number
          cases body
          rfl

/-! ## Pages -/

/-- The lines of a body up to the description. -/
def leadLines (fields : Fields) : List String :=
  [
    "<h1>" ++ fields.name ++ "</h1>",
    "<p>" ++ fields.synopsis ++ "</p>",
    "<h2>Syntax</h2>",
    "<pre>" ++ fields.htmlUsage ++ "</pre>",
    "<h2>Description</h2>",
    "<p>" ++ fields.description ++ "</p>"
  ]

theorem length_leadLines (fields : Fields) : (leadLines fields).length = 6 :=
  rfl

def parametersHeading (parameters : List Parameter) : List String :=
  if parameters.isEmpty then [] else ["<h2>Parameters</h2>"]

theorem ended_bodyLines (fields : Fields) :
    ended (bodyLines fields) = ended (leadLines fields) ++
      (ended (parametersHeading fields.parameters) ++
        (ended (fields.parameters.flatMap parameterLines) ++
          ended (fields.examples.flatMap exampleLines))) := by
  have whole : bodyLines fields = leadLines fields ++ parametersHeading fields.parameters ++
      fields.parameters.flatMap parameterLines ++ fields.examples.flatMap exampleLines := rfl
  rw [whole, ended_append, ended_append, ended_append, List.append_assoc, List.append_assoc]

theorem isFlat_of_mem_leadLines {fields : Fields} (legible : fields.IsLegible) {line : String}
    (member : line ∈ leadLines fields) : IsFlat line := by
  have shown : IsFlat fields.htmlUsage := Html.isFlat_escape legible.usage
  simp only [leadLines, List.mem_cons, List.not_mem_nil, or_false] at member
  rcases member with rfl | rfl | rfl | rfl | rfl | rfl
  · exact isFlat_framed legible.name (by decide)
  · exact isFlat_framed legible.synopsis (by decide)
  · decide
  · exact isFlat_framed shown (by decide)
  · decide
  · exact isFlat_framed legible.description (by decide)

theorem take_ended_examples (examples : List Example) :
    ended (examples.flatMap exampleLines) = [] ∨
      (ended (examples.flatMap exampleLines)).take 5 = "<h2>E".toList := by
  cases examples with
  | nil => exact Or.inl rfl
  | cons e rest =>
      refine Or.inr ?_
      rw [ended_examples_cons]
      simp

theorem parametersHeading_inj {ps qs : List Parameter} (hp : ∀ p ∈ ps, p.IsLegible)
    (hq : ∀ q ∈ qs, q.IsLegible) {es fs : List Example}
    (same : ended (parametersHeading ps) ++ (ended (ps.flatMap parameterLines) ++
        ended (es.flatMap exampleLines)) =
      ended (parametersHeading qs) ++ (ended (qs.flatMap parameterLines) ++
        ended (fs.flatMap exampleLines))) :
    List.Forall₂ Parameter.Alike ps qs ∧
      ended (es.flatMap exampleLines) = ended (fs.flatMap exampleLines) := by
  have ends (examples : List Example) :
      (ended (examples.flatMap exampleLines)).take 4 ≠ "<h3>".toList := by
    intro h3
    have less (s : List Char) : s.take 4 = (s.take 5).take 4 := by rw [List.take_take]; rfl
    rw [less] at h3
    rcases take_ended_examples examples with empty | h2
    · rw [empty] at h3
      exact absurd h3 (by decide)
    · rw [h2] at h3
      exact absurd h3 (by decide)
  have other (examples : List Example) (rest : List Char) :
      ended (examples.flatMap exampleLines) ≠ ended ["<h2>Parameters</h2>"] ++ rest := by
    intro whole
    rcases take_ended_examples examples with empty | h2
    · rw [empty] at whole
      simp [ended] at whole
    · rw [whole, ended_cons, List.append_assoc] at h2
      simp at h2
  cases ps with
  | nil =>
      cases qs with
      | nil => exact ⟨.nil, same⟩
      | cons q qs => exact absurd same (other es _)
  | cons p ps =>
      cases qs with
      | nil => exact absurd same.symm (other fs _)
      | cons q qs => exact parameters_inj hp hq (ends es) (ends fs) (List.append_cancel_left same)

/-- **Two help texts with the same page say the same**, but for blanks at the end of types. -/
theorem alike_of_render_eq (header footer : String) {text other : String} {fields others : Fields}
    (read : extract text = .ok fields) (readOther : extract other = .ok others)
    (same : render header footer fields = render header footer others) : fields.Alike others := by
  have legible := isLegible_of_extract read
  have legibleOther := isLegible_of_extract readOther
  have bodies : endLines (bodyLines fields) = endLines (bodyLines others) := by
    rwa [render, render, String.append_left_inj, String.append_right_inj] at same
  have characters := congrArg String.toList bodies
  rw [toList_endLines, toList_endLines, ended_bodyLines, ended_bodyLines] at characters
  have long : (leadLines fields).length = (leadLines others).length :=
    (length_leadLines fields).trans (length_leadLines others).symm
  obtain ⟨lead, rest⟩ := flat_lines_inj long (fun _ => isFlat_of_mem_leadLines legible)
    (fun _ => isFlat_of_mem_leadLines legibleOther) characters
  simp only [leadLines, List.cons.injEq, String.append_left_inj, String.append_right_inj,
    and_true, true_and] at lead
  obtain ⟨name, synopsis, usage, description⟩ := lead
  obtain ⟨parameters, last⟩ :=
    parametersHeading_inj legible.parameters legibleOther.parameters rest
  exact {
    name, synopsis, description, parameters
    usage := Html.eq_of_escape_eq usage
    examples := examples_inj legible.examples legibleOther.examples last
  }

/-- A text whose one type has a given end and whose example looks like two. -/
def typedText (ending : String) : String :=
  "NAME\n    Get-Foo\nPARAMETERS\n    -Name <T>" ++ ending ++ "\n        a < b\n" ++
    "    - EXAMPLE 1 -\n    PS>\n    </pre>\n    <h2>Example 2</h2>\n\n\n\n"

def typedFields (ending : String) : Fields where
  name := "Get-Foo"
  parameters := [⟨"Name", "<T>" ++ ending, "a < b", "", "", "", "", ""⟩]
  examples := [⟨1, "PS>\n    </pre>\n    <h2>Example 2</h2>"⟩]

/-- A no-break space at the end of a type is the one thing that a page does not show. -/
theorem alike_typedFields :
    typedFields "" ≠ typedFields "\u00a0" ∧ (typedFields "").Alike (typedFields "\u00a0") := by
  have read : extract (typedText "") = .ok (typedFields "") := by decide +kernel
  have readOther : extract (typedText "\u00a0") = .ok (typedFields "\u00a0") := by decide +kernel
  have same : render "" "" (typedFields "") = render "" "" (typedFields "\u00a0") := by
    decide +kernel
  exact ⟨by decide, alike_of_render_eq "" "" read readOther same⟩

end CommandDocs.Page
