import CommandDocs.Toml.Layout.Key
import CommandDocs.Toml.Layout.Moment
import CommandDocs.Toml.Layout.Numeral

/-!
# Values that keep their spelling

Arrays and inline tables may run over several lines, with comments, and may end in a comma. An
item of an array that stops at the bracket which closes the array is left out.
-/

namespace CommandDocs.Toml.Layout

/-- The spelling of a value, and the blanks after a date up to the next tab, line end, comment or
end of a collection. -/
structure Literal where
  text : List Char
  gap : List Char := []
  deriving DecidableEq, Repr

def readTruth (s : List Char) : Scan Literal :=
  match s with
  | 't' :: 'r' :: 'u' :: 'e' :: rest => .ok (⟨['t', 'r', 'u', 'e'], []⟩, rest)
  | 'f' :: 'a' :: 'l' :: 's' :: 'e' :: rest => .ok (⟨['f', 'a', 'l', 's', 'e'], []⟩, rest)
  | _ => .error (.unexpected s)

def readNumber (s : List Char) : Scan Literal :=
  let text := s.takeWhile fun c => !endsNumber c
  if isNumber text then .ok (⟨text, []⟩, s.drop text.length) else .error .refused

/-- A date that may be followed by a time of day, after a space. -/
def readDated (date rest : List Char) : Scan Literal :=
  let isPart := fun c => c == ' ' || !endsNumber c
  let more := rest.takeWhile isPart
  let clock := Text.dropEndWhile Text.isBlank more
  if clock.isEmpty || isDateTime (date ++ clock) then
    .ok (⟨date ++ clock, more.drop clock.length⟩, rest.drop more.length)
  else .error .refused

/-- A number or a point in time. -/
def readDigits (s : List Char) : Scan Literal :=
  let text := s.takeWhile fun c => !endsNumber c
  let rest := s.drop text.length
  if isDate text then readDated text rest
  else if isDateTime text || isClock text then .ok (⟨text, []⟩, rest)
  else readNumber s

def opensNumber : List Char → Bool
  | c :: rest =>
      c == '+' || c == '-' ||
        let word := (c :: rest).takeWhile fun c => !endsNumber c
        word == ['i', 'n', 'f'] || word == ['n', 'a', 'n']
  | [] => false

/-- White space, line feeds and comments. -/
def readSpace : Nat → List Char → Scan (List Char)
  | 0, _ => .error .refused
  | fuel + 1, s =>
      let space := s.takeWhile isSpaceOrFeed
      match s.drop space.length with
      | '#' :: rest =>
          let comment := rest.takeWhile (· != '\n')
          if comment.any isIllegal then .error .refused
          else
            (readSpace fuel (rest.drop comment.length)).map fun (more, after) =>
              (space ++ '#' :: comment ++ more, after)
      | rest => .ok (space, rest)

/-- Whether a member may stand at a place in an inline table: not after another one without a
comma. -/
inductive Place where
  | first
  | afterComma
  | afterMember
  deriving DecidableEq, Repr

/-- The bracket that closes an array, if it opens a text. -/
def closeItems : List Char → Scan (List Char)
  | ']' :: after => .ok ([']'], after)
  | rest => .error (.unexpected rest)

mutual

/-- The value that opens a text, nested at most `depth` deep. The fuel bounds the number of
steps. -/
def readValue : Nat → (depth : Nat) → List Char → Scan Literal
  | 0, _, _ => .error .refused
  | _, _, [] => .error (.unexpected [])
  | fuel + 1, depth, c :: rest =>
      if c == '"' || c == '\'' then
        match readQuoted? c rest with
        | none => .error .refused
        | some (found, after) => .ok (⟨found.text, []⟩, after)
      else if c == 't' || c == 'f' then readTruth (c :: rest)
      else if c == '[' || c == '\x7b' then
        match depth with
        | 0 => .error .refused
        | below + 1 =>
            let inside :=
              if c == '[' then readItems fuel below false rest
              else readMembers fuel below .first [] rest
            inside.map fun (text, after) => (⟨c :: text, []⟩, after)
      else if opensNumber (c :: rest) then readNumber (c :: rest)
      else if isDigit c then readDigits (c :: rest)
      else .error (.unexpected (c :: rest))

/-- The items of an array and the bracket that closes it; `filled` tells that an item has been
read since the last comma. -/
def readItems : Nat → (depth : Nat) → (filled : Bool) → List Char → Scan (List Char)
  | 0, _, _, _ => .error .refused
  | fuel + 1, depth, filled, s =>
      match readSpace fuel s with
      | .error stop => .error stop
      | .ok (space, rest) =>
          let next : Scan (List Char) :=
            if filled then
              match rest with
              | ',' :: more =>
                  (readItems fuel depth false more).map fun (text, after) => (',' :: text, after)
              | _ => closeItems rest
            else
              match readValue fuel depth rest with
              | .ok (item, more) =>
                  (readItems fuel depth true more).map fun (text, after) =>
                    (item.text ++ text, after)
              | .error .refused => .error .refused
              | .error (.unexpected stop) => closeItems stop
          next.map fun (text, after) => (space ++ text, after)

/-- The members of an inline table and the brace that closes it, after the members that are
known. -/
def readMembers : Nat → (depth : Nat) → Place → List Node → List Char → Scan (List Char)
  | 0, _, _, _, _ => .error .refused
  | fuel + 1, depth, place, known, s =>
      match readSpace fuel s with
      | .error stop => .error stop
      | .ok (space, '\x7d' :: rest) => .ok (space ++ ['\x7d'], rest)
      | .ok (space, rest) =>
          if rest.head? == some ',' || place == .afterMember then .error (.unexpected rest)
          else
            match readMember fuel depth known rest with
            | .error stop => .error stop
            | .ok ((member, grown), after) =>
                match readSpace fuel after with
                | .error stop => .error stop
                | .ok (gap, more) =>
                    let others : Scan (List Char) :=
                      match more with
                      | ',' :: others =>
                          (readMembers fuel depth .afterComma grown others).map fun (text, final) =>
                            (',' :: text, final)
                      | _ => readMembers fuel depth .afterMember grown more
                    others.map fun (text, final) => (space ++ member ++ gap ++ text, final)

/-- A member of an inline table, and the members that are known with it. -/
def readMember : Nat → (depth : Nat) → List Node → List Char → Scan (List Char × List Node)
  | 0, _, _, _ => .error .refused
  | fuel + 1, depth, known, s =>
      match readKey s with
      | .error stop => .error stop
      | .ok (key, rest) =>
          match readEquals rest with
          | .error stop => .error stop
          | .ok (equals, start) =>
              match readValue fuel depth start with
              | .error stop => .error stop
              | .ok (value, after) =>
                  match joinEntries? known [entryNode [] [] [] key] with
                  | none => .error .refused
                  | some grown =>
                      let gap := if key.length == 1 then [] else value.gap
                      .ok ((spellingOf key ++ equals ++ value.text ++ gap, grown), after)

end

/-- Fuel enough to read a text: no character takes more than three steps. -/
def readFuel (s : List Char) : Nat :=
  3 * s.length + 3

end CommandDocs.Toml.Layout
