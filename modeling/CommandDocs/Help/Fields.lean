import CommandDocs.Text.Blank
import CommandDocs.Html.Escape

/-!
# What a help text says

The records hold the values exactly as the help formatter printed them.
-/

namespace CommandDocs.Help

structure Parameter where
  name : String
  typeHint : String := ""
  description : String := ""
  required : String := ""
  position : String := ""
  defaultValue : String := ""
  pipelineInput : String := ""
  wildcards : String := ""
  deriving DecidableEq, Repr, Inhabited

/-- One numbered example; the number is the one that the help text gives. -/
structure Example where
  number : Int
  body : String
  deriving DecidableEq, Repr, Inhabited

/-- Everything that is read from the help text of one command. -/
structure Fields where
  name : String := ""
  synopsis : String := ""
  usage : String := ""
  description : String := ""
  parameters : List Parameter := []
  examples : List Example := []
  deriving DecidableEq, Repr, Inhabited

def Parameter.displayName (p : Parameter) : String :=
  String.ofList (Text.dropEndWhile Text.isBlank ('-' :: p.name.toList ++ ' ' :: p.typeHint.toList))

/-- The shown name as HTML text. -/
def Parameter.htmlName (p : Parameter) : String :=
  Html.escape p.displayName

def Fields.htmlUsage (fields : Fields) : String :=
  Html.escape fields.usage

end CommandDocs.Help
