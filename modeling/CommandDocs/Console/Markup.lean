import CommandDocs.Console.Emoji
import CommandDocs.Console.Marked
import CommandDocs.Console.Style

/-!
# Markup

A text for the console can hold tags in square brackets. A tag starts a style or, with a slash,
ends one; it is not shown. Backslashes before a tag are shown by halves, and a last odd one shows
the tag as it stands. Brackets that hold no tag are shown as they are. Between the tags, and within
a tag that is shown, codes of emoji are replaced. A text is read as the segments that make it up,
with nothing left out between them.
-/

namespace CommandDocs.Console.Markup

/-- Whether a character can be the first one of a tag. -/
def opensTag (c : Char) : Bool :=
  ('a'.toNat ≤ c.toNat && c.toNat ≤ 'z'.toNat) || c == '#' || c == '/' || c == '@'

/-- A text up to its first closing bracket, with no opening one before it. -/
def upToClosing? : List Char → Option (List Char)
  | [] => none
  | c :: rest =>
      if c == ']' then some []
      else if c == '[' then none
      else (upToClosing? rest).map (c :: ·)

def tagBody? : List Char → Option (List Char)
  | [] => none
  | c :: rest => if opensTag c then (upToClosing? rest).map (c :: ·) else none

/-- A run of backslashes with what follows it: a tag, another character, or the end. -/
inductive Segment where
  | tag (slashes : Nat) (body : List Char)
  | plain (slashes : Nat) (next : Option Char)
  deriving DecidableEq, Repr

namespace Segment

def slashRun (n : Nat) : List Char :=
  List.replicate n '\\'

def bracketed (body : List Char) : List Char :=
  '[' :: body ++ [']']

/-- The text that a segment was read from. -/
def source : Segment → List Char
  | .tag slashes body => slashRun slashes ++ bracketed body
  | .plain slashes next => slashRun slashes ++ next.toList

end Segment

/-- The segments of a text after some backslashes. The first characters can be skipped, since they
belong to the tag before them. -/
def segmentsFrom (slashes : Nat) : (skipped : Nat) → List Char → List Segment
  | _, [] => if slashes = 0 then [] else [.plain slashes none]
  | skipped + 1, _ :: rest => segmentsFrom slashes skipped rest
  | 0, c :: rest =>
      if c == '\\' then segmentsFrom (slashes + 1) 0 rest
      else match if c == '[' then tagBody? rest else none with
        | some body => .tag slashes body :: segmentsFrom 0 (body.length + 1) rest
        | none => .plain slashes (some c) :: segmentsFrom 0 0 rest

def segments (s : List Char) : List Segment :=
  segmentsFrom 0 0 s

theorem eq_append_of_upToClosing? {s body : List Char} (h : upToClosing? s = some body) :
    s = body ++ ']' :: s.drop (body.length + 1) := by
  induction s generalizing body with
  | nil => simp [upToClosing?] at h
  | cons c rest ih =>
      by_cases hclose : c = ']'
      · have hbody : [] = body := by simpa [upToClosing?, hclose] using h
        subst hbody
        simp [hclose]
      · by_cases hopen : c = '['
        · simp [upToClosing?, hopen] at h
        · simp only [upToClosing?, beq_iff_eq, hclose, hopen, if_false] at h
          obtain ⟨inner, hinner, rfl⟩ := Option.map_eq_some_iff.1 h
          simpa using ih hinner

theorem eq_append_of_tagBody? {s body : List Char} (h : tagBody? s = some body) :
    s = body ++ ']' :: s.drop (body.length + 1) := by
  cases s with
  | nil => simp [tagBody?] at h
  | cons c rest =>
      by_cases hopens : opensTag c = true
      · simp only [tagBody?, hopens, if_true] at h
        obtain ⟨inner, hinner, rfl⟩ := Option.map_eq_some_iff.1 h
        simpa using eq_append_of_upToClosing? hinner
      · simp [tagBody?, hopens] at h

theorem flatMap_source_segmentsFrom (slashes skipped : Nat) (s : List Char) :
    (segmentsFrom slashes skipped s).flatMap Segment.source =
      Segment.slashRun slashes ++ s.drop skipped := by
  fun_induction segmentsFrom slashes skipped s with
  | case1 skipped => simp [Segment.slashRun]
  | case2 slashes skipped h => simp [Segment.source]
  | case3 slashes skipped c rest ih => simpa using ih
  | case4 slashes c rest hslash ih =>
      rw [ih, eq_of_beq hslash]
      simp [Segment.slashRun, List.replicate_succ']
  | case5 slashes c rest hslash body hbody ih =>
      by_cases hopen : c = '['
      · have htag : tagBody? rest = some body := by simpa [hopen] using hbody
        rw [List.flatMap_cons, ih, hopen]
        have hrest := eq_append_of_tagBody? htag
        simp only [Segment.source, Segment.bracketed, Segment.slashRun, List.replicate_zero,
          List.nil_append, List.drop_zero, List.append_assoc, List.cons_append]
        rw [← hrest]
      · simp [hopen] at hbody
  | case6 slashes c rest hslash hbody ih =>
      rw [List.flatMap_cons, ih]
      simp [Segment.source, Segment.slashRun]

/-- No character is lost between the segments of a text. -/
theorem flatMap_source_segments (s : List Char) : (segments s).flatMap Segment.source = s := by
  simpa [segments, Segment.slashRun] using flatMap_source_segmentsFrom 0 0 s

/-- A segment that is shown as it was before: a tag gets its backslashes doubled and one more. -/
def Segment.escaped : Segment → List Char
  | .tag slashes body => slashRun (2 * slashes + 1) ++ bracketed body
  | .plain slashes next => slashRun slashes ++ next.toList

/-- Whether a text ends in exactly one backslash. -/
def endsInSlash (s : List Char) : Bool :=
  match s.reverse with
  | '\\' :: '\\' :: _ => false
  | '\\' :: _ => true
  | _ => false

/-- A text with its tags escaped. A single backslash at the end is doubled, so that it does not
escape what comes after it. -/
def escape (s : List Char) : List Char :=
  let escaped := (segments s).flatMap Segment.escaped
  if endsInSlash escaped then escaped ++ ['\\'] else escaped

/-- Why a tag is refused: a closing one ends nothing, or a color holds a number that is none. -/
inductive Fault where
  | unmatched (body : String) (position : Nat)
  | nothingToClose (position : Nat)
  | number (fault : Text.NumberFault)
  deriving DecidableEq, Repr

/-- The text of a refusal. -/
def Fault.message : Fault → String
  | .unmatched body position =>
      "closing tag '[" ++ body ++ "]' at position " ++ toString position ++
        " doesn't match any open tag"
  | .nothingToClose position =>
      "closing tag '[/]' at position " ++ toString position ++ " has nothing to close"
  | .number fault => fault.message

/-- A style that is open, known by the normal form of its description, and the place where it
starts. -/
structure Opened where
  name : List Char
  start : Nat
  deriving DecidableEq, Repr

/-- What a tag with a given body marks, and what it does to the styles that are open, the latest
first. The tag has a position in the text with tags and a place in the text that is shown. What
follows the equals sign of a tag that starts with `@` is taken as it is: it is not looked at whether
it is a literal that can be evaluated, without which closing the tag would be an error. -/
def applyTag (position place : Nat) (body : List Char) (opened : List Opened) :
    Except Fault (List Mark × List Opened) :=
  match body.takeWhile (· != '=') with
  | '/' :: closing =>
      if (Text.trim closing).isEmpty then
        match opened with
        | [] => .error (.nothingToClose position)
        | latest :: before => .ok ([⟨latest.start, place⟩], before)
      else
        match Style.normalForm closing with
        | .error fault => .error (.number fault)
        | .ok name =>
            match opened.find? (·.name == name) with
            | none => .error (.unmatched (String.ofList body) position)
            | some found =>
                .ok ([⟨found.start, place⟩], opened.eraseP (·.name == name))
  | description =>
      match Style.normalForm description with
      | .error fault => .error (.number fault)
      | .ok name => .ok ([], ⟨name, place⟩ :: opened)

/-- What is shown of a run of backslashes and the character after it. A bracket takes the
backslash before it away. -/
def showPlain (slashes : Nat) (next : Option Char) : List Char :=
  if next == some '[' then Segment.slashRun (slashes - 1) ++ ['[']
  else Segment.slashRun slashes ++ next.toList

def showText (s : List Char) : List Char :=
  sent (Emoji.replace s)

/-- What is shown of some segments from a position on, while some styles are open. The plain text
before them, last character first, is still to be shown from a place on. -/
def showSegments (position place : Nat) (opened : List Opened) (pending : List Char) :
    List Segment → Except Fault Marked
  | [] =>
      let text := showText pending.reverse
      .ok ⟨text, opened.map fun style => ⟨style.start, place + text.length⟩⟩
  | segment :: rest =>
      let next := position + segment.source.length
      match segment with
      | .plain slashes c =>
          showSegments next place opened ((showPlain slashes c).reverse ++ pending) rest
      | .tag slashes body =>
          let before := showText pending.reverse ++ Segment.slashRun (slashes / 2)
          if slashes % 2 = 1 then do
            let text := before ++ showText (Segment.bracketed body)
            let shown ← showSegments next (place + text.length) opened [] rest
            return { shown with text := text ++ shown.text }
          else do
            let here := place + before.length
            let (marks, now) ← applyTag (position + slashes) here body opened
            let shown ← showSegments next here now [] rest
            return ⟨before ++ shown.text, marks ++ shown.marks⟩

/-- What is shown of a text with tags. -/
def render (s : List Char) : Except Fault Marked :=
  showSegments 0 0 [] [] (segments s)

end CommandDocs.Console.Markup
