import CommandDocs.Text.Number

/-!
# Values of a settings file

Floats and points in time are kept as they are written. The empty value stands in no file; it is
what a caller may give in place of one.
-/

namespace CommandDocs.Toml

inductive Value where
  | empty
  | boolean (value : Bool)
  | integer (value : Int)
  | float (text : String)
  | moment (text : String)
  | string (text : String)
  | array (items : List Value)
  | table (entries : List (String × Value))
  deriving Repr, Inhabited

/-- The members of a table in the order of their first definition. -/
abbrev Table := List (String × Value)

/-- Why a text is no settings file. -/
inductive Fault where
  | badSyntax
  | number (fault : Text.NumberFault)
  deriving DecidableEq, Repr

/-- What is read from the start of a text, and the rest of the text. -/
abbrev Read (α : Type) := Except Fault (α × List Char)

/-- A refusal for no other reason than that the text does not fit. -/
def misfit {α : Type} : Except Fault α :=
  .error .badSyntax

end CommandDocs.Toml
