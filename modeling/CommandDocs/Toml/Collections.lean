import CommandDocs.Toml.Namespace
import CommandDocs.Toml.Scalars

/-!
# Arrays and inline tables

Arrays may run over several lines, with comments, and may end in a comma; inline tables may not.
What an inline table or an array holds cannot be added to from outside.
-/

namespace CommandDocs.Toml

mutual

/-- The rest of a text after white space, line feeds and comments. -/
def skipSpace : List Char → Except Fault (List Char)
  | [] => .ok []
  | c :: rest =>
      if isSpaceOrFeed c then skipSpace rest
      else if c == '#' then skipRemark rest
      else .ok (c :: rest)

/-- The rest of a text after the remainder of a comment, and more white space. -/
def skipRemark : List Char → Except Fault (List Char)
  | [] => .ok []
  | c :: rest =>
      if c == '\n' then skipSpace rest
      else if isIllegal c then misfit
      else skipRemark rest

end

/-- An inline table as it is read: its members so far, and the keys of those that hold a
collection. -/
structure Inline where
  members : Table := []
  closed : List (List String) := []

namespace Inline

/-- Whether a value is a table or an array. -/
def isCollection : Value → Bool
  | .array _ | .table _ => true
  | _ => false

def add? (t : Inline) (key : List String) (value : Value) : Option Inline :=
  if isBelow t.closed key then none
  else
    let (path, last) := splitLast key
    (changeAt? false (define? last value) path t.members).map fun members =>
      ⟨members, if isCollection value then key :: t.closed else t.closed⟩

end Inline

mutual

/-- The value that opens a text. The fuel bounds the number of steps. -/
def readValue : Nat → List Char → Read Value
  | 0, _ => misfit
  | fuel + 1, s =>
      match s with
      | '"' :: _ | '\'' :: _ =>
          (readString s).map fun (text, after) => (.string (String.ofList text), after)
      | '[' :: rest =>
          match skipSpace rest with
          | .error fault => .error fault
          | .ok inside =>
              (readItems fuel inside).map fun (items, after) => (.array items, after)
      | '\x7b' :: rest =>
          match rest.dropWhile Text.isGap with
          | '\x7d' :: after => .ok (.table [], after)
          | inside => (readMembers fuel inside {}).map fun (t, after) => (.table t, after)
      | _ => readScalar s

/-- The items of an array up to its end. -/
def readItems : Nat → List Char → Read (List Value)
  | 0, _ => misfit
  | fuel + 1, s =>
      match s with
      | ']' :: after => .ok ([], after)
      | _ =>
          match readValue fuel s with
          | .error fault => .error fault
          | .ok (value, rest) =>
              match skipSpace rest with
              | .error fault => .error fault
              | .ok (']' :: after) => .ok ([value], after)
              | .ok (',' :: more) =>
                  match skipSpace more with
                  | .error fault => .error fault
                  | .ok next =>
                      (readItems fuel next).map fun (items, after) => (value :: items, after)
              | .ok _ => misfit

/-- The members of an inline table up to its end. -/
def readMembers : Nat → List Char → Inline → Read Table
  | 0, _, _ => misfit
  | fuel + 1, s, t =>
      match readPair fuel s with
      | .error fault => .error fault
      | .ok ((key, value), rest) =>
          match t.add? key value with
          | none => misfit
          | some grown =>
              match rest.dropWhile Text.isGap with
              | '\x7d' :: after => .ok (grown.members, after)
              | ',' :: more => readMembers fuel (more.dropWhile Text.isGap) grown
              | _ => misfit

/-- A key with its value. -/
def readPair : Nat → List Char → Read (List String × Value)
  | 0, _ => misfit
  | fuel + 1, s =>
      match readKey (s.length + 1) s with
      | .error fault => .error fault
      | .ok (key, '=' :: rest) =>
          (readValue fuel (rest.dropWhile Text.isGap)).map fun (value, after) =>
            ((key, value), after)
      | .ok _ => misfit

end

end CommandDocs.Toml
