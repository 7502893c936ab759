import CommandDocs.Proofs.Help.Values

/-!
# What a page shows of a name

Escaping a text keeps it apart from all other texts.  The shown name of a parameter gives back
its name and, but for blanks at the end, its type.
-/

namespace CommandDocs

namespace Html

/-! ## Escaped text -/

/-- Replaces the entities of the three markup characters by the characters. -/
def unescape : List Char → List Char
  | [] => []
  | '&' :: 'a' :: 'm' :: 'p' :: ';' :: rest => '&' :: unescape rest
  | '&' :: 'l' :: 't' :: ';' :: rest => '<' :: unescape rest
  | '&' :: 'g' :: 't' :: ';' :: rest => '>' :: unescape rest
  | c :: rest => c :: unescape rest

theorem unescape_cons_of_ne {c : Char} (plain : c ≠ '&') (rest : List Char) :
    unescape (c :: rest) = c :: unescape rest := by
  rw [unescape]
  all_goals
    intro _ same
    exact absurd same plain

theorem unescape_flatMap_escapeChar (s : List Char) : unescape (s.flatMap escapeChar) = s := by
  induction s with
  | nil => rfl
  | cons c rest ih =>
      rw [List.flatMap_cons]
      by_cases amp : c = '&'
      · subst amp
        exact congrArg ('&' :: ·) ih
      · by_cases lt : c = '<'
        · subst lt
          exact congrArg ('<' :: ·) ih
        · by_cases gt : c = '>'
          · subst gt
            exact congrArg ('>' :: ·) ih
          · rw [escapeChar_of_plain amp lt gt, List.singleton_append, unescape_cons_of_ne amp, ih]

/-- Different texts have different escaped forms. -/
theorem eq_of_escape_eq {s t : String} (same : escape s = escape t) : s = t := by
  have characters := congrArg String.toList same
  simp only [escape, String.toList_ofList] at characters
  have whole := congrArg unescape characters
  rw [unescape_flatMap_escapeChar, unescape_flatMap_escapeChar] at whole
  exact String.toList_inj.mp whole

theorem not_mem_escapeChar {c : Char} (other : c ≠ '\n') : '\n' ∉ escapeChar c := by
  unfold escapeChar
  split
  · decide
  · split
    · decide
    · split
      · decide
      · simpa using other.symm

/-- Escaping makes no line feed. -/
theorem isFlat_escape {s : String} (flat : Help.IsFlat s) : Help.IsFlat (escape s) := by
  rw [Help.IsFlat, escape, String.toList_ofList]
  intro member
  obtain ⟨c, inside, here⟩ := List.mem_flatMap.mp member
  exact not_mem_escapeChar (fun same => flat (same ▸ inside)) here

end Html

namespace Help

open Layout

/-! ## Shown names -/

/-- Two parameters that differ at most in blanks at the end of their types. -/
structure Parameter.Alike (p q : Parameter) : Prop where
  name : p.name = q.name
  typeHint : Text.dropEndWhile Text.isBlank p.typeHint.toList =
    Text.dropEndWhile Text.isBlank q.typeHint.toList
  description : p.description = q.description
  required : p.required = q.required
  position : p.position = q.position
  defaultValue : p.defaultValue = q.defaultValue
  pipelineInput : p.pipelineInput = q.pipelineInput
  wildcards : p.wildcards = q.wildcards

/-- Values that differ at most in blanks at the end of types. -/
structure Fields.Alike (f g : Fields) : Prop where
  name : f.name = g.name
  synopsis : f.synopsis = g.synopsis
  usage : f.usage = g.usage
  description : f.description = g.description
  parameters : List.Forall₂ Parameter.Alike f.parameters g.parameters
  examples : f.examples = g.examples

theorem isBlank_of_isNameChar {c : Char} (h : isNameChar c = true) : Text.isBlank c = false := by
  cases blank : Text.isBlank c with
  | false => rfl
  | true =>
      simp only [isNameChar, Text.isWord_of_isBlank blank, Bool.false_or, beq_iff_eq] at h
      rw [h] at blank
      exact absurd blank (by decide)

def shownType (type : Line) : Line :=
  if Text.dropEndWhile Text.isBlank type = [] then []
  else ' ' :: Text.dropEndWhile Text.isBlank type

theorem dropEndWhile_space_cons (type : Line) :
    Text.dropEndWhile Text.isBlank (' ' :: type) = shownType type := by
  unfold shownType Text.dropEndWhile
  rw [List.reverse_cons, List.dropWhile_append]
  by_cases blank : type.reverse.dropWhile Text.isBlank = []
  · rw [blank]
    rfl
  · rw [if_neg (by simpa using blank), if_neg (by simpa using blank)]
    simp

theorem displayName_toList {p : Parameter} (name : p.name.toList.all isNameChar = true) :
    p.displayName.toList = '-' :: p.name.toList ++ shownType p.typeHint.toList := by
  have solid : Text.dropEndWhile Text.isBlank ('-' :: p.name.toList) = '-' :: p.name.toList := by
    refine List.rdropWhile_eq_self_iff.mpr fun nonempty => ?_
    have all : ∀ c ∈ '-' :: p.name.toList, Text.isBlank c = false := by
      intro c member
      rcases List.mem_cons.mp member with rfl | member
      · decide
      · exact isBlank_of_isNameChar (List.all_eq_true.mp name c member)
    simp [all _ (List.getLast_mem nonempty)]
  rw [Parameter.displayName, String.toList_ofList, ← dropEndWhile_space_cons, Text.dropEndWhile,
    List.reverse_append, List.dropWhile_append]
  by_cases blank : (' ' :: p.typeHint.toList).reverse.dropWhile Text.isBlank = []
  · rw [if_pos (by simpa using blank)]
    unfold Text.dropEndWhile at solid ⊢
    rw [solid, blank]
    simp
  · rw [if_neg (by simpa using blank)]
    simp [Text.dropEndWhile]

theorem shownType_inj {type other : Line} (same : shownType type = shownType other) :
    Text.dropEndWhile Text.isBlank type = Text.dropEndWhile Text.isBlank other := by
  unfold shownType at same
  split at same
  · split at same
    · rename_i first second
      rw [first, second]
    · cases same
  · split at same
    · cases same
    · exact (List.cons.inj same).2

/-- A shown name gives back the name and the type, but for blanks at the end of the type. -/
theorem displayName_inj {p q : Parameter} (hp : p.name.toList.all isNameChar = true)
    (hq : q.name.toList.all isNameChar = true) (same : p.displayName = q.displayName) :
    p.name = q.name ∧ Text.dropEndWhile Text.isBlank p.typeHint.toList =
      Text.dropEndWhile Text.isBlank q.typeHint.toList := by
  have shown := congrArg String.toList same
  rw [displayName_toList hp, displayName_toList hq, List.cons_append, List.cons_append] at shown
  have whole := (List.cons.inj shown).2
  have stops (type : Line) : (shownType type).takeWhile isNameChar = [] ∧
      (shownType type).dropWhile isNameChar = shownType type := by
    unfold shownType
    split
    · exact ⟨rfl, rfl⟩
    · exact ⟨List.takeWhile_cons_of_neg (by decide), List.dropWhile_cons_of_neg (by decide)⟩
  have names := congrArg (List.takeWhile isNameChar) whole
  rw [List.takeWhile_append_of_pos (List.all_eq_true.mp hp),
    List.takeWhile_append_of_pos (List.all_eq_true.mp hq), (stops _).1, (stops _).1,
    List.append_nil, List.append_nil] at names
  have types := congrArg (List.dropWhile isNameChar) whole
  rw [List.dropWhile_append_of_pos (List.all_eq_true.mp hp),
    List.dropWhile_append_of_pos (List.all_eq_true.mp hq), (stops _).2, (stops _).2] at types
  exact ⟨String.toList_inj.mp names, shownType_inj types⟩

theorem isFlat_displayName {p : Parameter} (legible : p.IsLegible) : IsFlat p.displayName := by
  intro member
  rw [Parameter.displayName, String.toList_ofList] at member
  have inside := (List.rdropWhile_prefix Text.isBlank _).sublist.subset member
  simp only [List.cons_append, List.mem_cons, List.mem_append] at inside
  rcases inside with same | name | same | type
  · exact absurd same (by decide)
  · have solid := isBlank_of_isNameChar (List.all_eq_true.mp legible.name '\n' name)
    exact absurd solid (by decide)
  · exact absurd same (by decide)
  · exact legible.typeHint type

end Help

end CommandDocs
