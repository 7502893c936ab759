import CommandDocs.Proofs.Toml.Flat.Strict
import CommandDocs.Proofs.Toml.Merge.Cuts
import CommandDocs.Toml.Layout.Line

/-!
# What stands before the first header

The lines before the first header of a document are empty, remarks, or entries.  Each of them is
read whatever follows it, and the value of an entry can be another one.
-/

namespace CommandDocs.Toml

/-! ## Lines -/

/-- Whether a line is read as an entry, whatever follows it. -/
def ReadsAs (lead value tail : List Char) (key : List String) (content : Value) : Prop :=
  ∀ after rest, Follows after rest →
    readItem (lead ++ value ++ tail ++ after) = .ok (some (.entry key content), rest) ∧
      cutEntry ((lead ++ value ++ tail ++ after).dropWhile Text.isGap) = (value, tail ++ after)

/-- An entry as it is written, with a key of any number of parts.  Any literal can stand in the
place of its value. -/
structure Field where
  key : List String
  parts : List Layout.Part
  lead : List Char
  value : List Char
  tail : List Char
  content : Value
  shown : key ≠ []
  named : parts.map Layout.Part.name = key.map pointsOf
  ended : IsTail tail
  own : ReadsAs lead value tail key content
  other : ∀ {text : List Char} {found : Value}, IsLiteral text found →
    ReadsAs lead text tail key found

/-- What stands on a line. -/
inductive Piece where
  | blank (gap : List Char) (white : IsSpace gap)
  | remark (gap words : List Char) (white : IsSpace gap) (legal : IsWords words)
  | field (f : Field)

namespace Piece

/-- The text of a line without its line feed. -/
def text : Piece → List Char
  | .blank gap _ => gap
  | .remark gap words _ _ => gap ++ '#' :: words
  | .field f => f.lead ++ f.value ++ f.tail

/-- What a line says. -/
def item? : Piece → Option Item
  | .field f => some (.entry f.key f.content)
  | _ => none

/-- The entry on a line. -/
def field? : Piece → Option Field
  | .field f => some f
  | _ => none

/-- A line cut into the value of its entry and what stands beside it. -/
def cut (feed : List Char) : Piece → Cut
  | .field f => ⟨some (.entry f.key f.content), f.value, f.tail ++ feed⟩
  | piece => ⟨none, [], piece.text ++ feed⟩

end Piece

/-- A line with its line feed, unless that is missing. -/
structure Strip where
  piece : Piece
  closed : Bool

namespace Strip

def feed (strip : Strip) : List Char :=
  if strip.closed then ['\n'] else []

def text (strip : Strip) : List Char :=
  strip.piece.text ++ strip.feed

def cut (strip : Strip) : Cut :=
  strip.piece.cut strip.feed

end Strip

/-- The text of some lines. -/
def stripsText (strips : List Strip) : List Char :=
  strips.flatMap Strip.text

/-- What some lines say. -/
def itemsOn (strips : List Strip) : List Item :=
  strips.filterMap fun strip => strip.piece.item?

/-- Whether every line has its line feed.  The last one may lack it, if it shows and the document
ends there. -/
def Ordered (ends : Prop) : List Strip → Prop
  | [] => True
  | strip :: rest =>
      (strip.closed = true ∨ strip.piece.text ≠ [] ∧ rest = [] ∧ ends) ∧ Ordered ends rest

/-! ## The strict reader -/

theorem taken_append (s rest : List Char) : taken (s ++ rest) rest = s := by
  simp [taken]

theorem Follows.taken_append {after rest : List Char} (follows : Follows after rest) :
    taken after rest ++ rest = after := by
  cases follows with
  | feed rest => rw [← List.singleton_append, Toml.taken_append]
  | nothing => rfl

/-- A line is read up to the next one. -/
theorem readItem_piece (piece : Piece) {after rest : List Char} (follows : Follows after rest) :
    readItem (piece.text ++ after) = .ok (piece.item?, rest) ∧
      cutOf (piece.text ++ after) piece.item? rest = piece.cut (taken after rest) := by
  have whole (text : List Char) : taken (text ++ after) rest = text ++ taken after rest := by
    rw [← follows.taken_append, ← List.append_assoc, taken_append, follows.taken_append]
  cases piece with
  | blank gap white =>
      refine ⟨readItem_line (.blank gap white) follows, ?_⟩
      rw [cutOf, whole]
      · rfl
      · rintro key content ⟨⟩
  | remark gap words white legal =>
      refine ⟨readItem_line (.remark gap words white legal) follows, ?_⟩
      rw [cutOf, whole]
      · rfl
      · rintro key content ⟨⟩
  | field f =>
      obtain ⟨read, cut⟩ := f.own after rest follows
      refine ⟨read, ?_⟩
      simp only [cutOf, Piece.item?, Piece.text, cut, whole]
      rfl

section Order

variable {ends : Prop} {strip : Strip} {rest : List Strip} {body : List Char}

theorem stripsText_cons (strip : Strip) (rest : List Strip) (body : List Char) :
    stripsText (strip :: rest) ++ body =
      strip.piece.text ++ (strip.feed ++ (stripsText rest ++ body)) := by
  simp [stripsText, Strip.text]

/-- Each line is followed by the next one. -/
theorem Ordered.follows (ordered : Ordered ends (strip :: rest)) (empty : ends → body = []) :
    Follows (strip.feed ++ (stripsText rest ++ body)) (stripsText rest ++ body) := by
  rcases ordered.1 with closed | ⟨-, rfl, ended⟩
  · rw [Strip.feed, if_pos closed]
    exact .feed _
  · rw [empty ended, Strip.feed]
    split
    · exact .feed _
    · exact .nothing

theorem Ordered.mono {ends' : Prop} (ordered : Ordered ends rest) (sooner : ends → ends') :
    Ordered ends' rest := by
  induction rest with
  | nil => trivial
  | cons strip rest ih =>
      refine ⟨ordered.1.imp_right fun opened => ?_, ih ordered.2⟩
      exact ⟨opened.1, opened.2.1, sooner opened.2.2⟩

theorem Ordered.text_ne_nil (ordered : Ordered ends (strip :: rest)) : strip.text ≠ [] := by
  rcases ordered.1 with closed | ⟨shown, -⟩
  · simp [Strip.text, Strip.feed, closed]
  · simp [Strip.text, shown]

end Order

/-- A document is cut into its lines before the first header, and what follows them. -/
theorem cuts_stripsText {ends : Prop} {strips : List Strip} {body : List Char}
    (ordered : Ordered ends strips) (empty : ends → body = []) :
    cuts (stripsText strips ++ body) = (strips.map Strip.cut ++ (cuts body).1, (cuts body).2) := by
  induction strips with
  | nil => rfl
  | cons strip rest ih =>
      obtain ⟨read, cut⟩ := readItem_piece strip.piece (ordered.follows empty)
      have shown : stripsText (strip :: rest) ++ body ≠ [] := by
        simp [stripsText, ordered.text_ne_nil]
      rw [← stripsText_cons] at read cut
      rw [cuts_of_readItem shown read, ih ordered.2, cut, taken_append]
      rfl

theorem itemsIn_append (front back : List Cut) :
    itemsIn (front ++ back) = itemsIn front ++ itemsIn back :=
  List.filterMap_append

theorem itemsIn_map_cut (strips : List Strip) :
    itemsIn (strips.map Strip.cut) = itemsOn strips := by
  rw [itemsIn, itemsOn, List.filterMap_map]
  refine List.filterMap_congr fun strip _ => ?_
  cases strip with
  | mk piece closed => cases piece <;> rfl

end CommandDocs.Toml
