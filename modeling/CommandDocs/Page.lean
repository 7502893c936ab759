import CommandDocs.Help.Fields

/-!
# The page of a command

A page is a header, a body and a footer. The body gives name, synopsis, usage, description,
parameters and examples in this order; only the usage and the parameter names are escaped.
-/

namespace CommandDocs.Page

open Help

def row (label value : String) : String :=
  "<tr><th>" ++ label ++ "</th><td>" ++ value ++ "</td></tr>"

/-- The heading and table of a parameter. -/
def parameterLines (p : Parameter) : List String :=
  [
    "<h3>" ++ p.htmlName ++ "</h3>",
    "<table>",
    row "Description" p.description,
    row "Required?" p.required,
    row "Position?" p.position,
    row "Default value" p.defaultValue,
    row "Accept pipeline input?" p.pipelineInput,
    row "Accept wildcard characters?" p.wildcards,
    "</table>"
  ]

def exampleLines (e : Example) : List String :=
  ["<h2>Example " ++ toString e.number ++ "</h2>", "<pre>" ++ e.body ++ "</pre>"]

def bodyLines (fields : Fields) : List String :=
  [
    "<h1>" ++ fields.name ++ "</h1>",
    "<p>" ++ fields.synopsis ++ "</p>",
    "<h2>Syntax</h2>",
    "<pre>" ++ fields.htmlUsage ++ "</pre>",
    "<h2>Description</h2>",
    "<p>" ++ fields.description ++ "</p>"
  ] ++ (if fields.parameters.isEmpty then [] else ["<h2>Parameters</h2>"]) ++
    fields.parameters.flatMap parameterLines ++ fields.examples.flatMap exampleLines

def endLines (lines : List String) : String :=
  String.join (lines.map (· ++ "\n"))

/-- A whole page. -/
def render (header footer : String) (fields : Fields) : String :=
  header ++ endLines (bodyLines fields) ++ footer

end CommandDocs.Page
