/-!
# The summary of a module

A summary lists the commands of a module with their synopses, in HTML with links to the pages
beside it, or in Markdown with links below a base address. Commands that are still being written
carry a marker.
-/

namespace CommandDocs.Summary

/-- A command on the list. -/
structure Entry where
  name : String
  synopsis : String := ""
  deriving DecidableEq, Repr, Inhabited

/-- The sentence before the list. -/
def intro (module : String) (count : Nat) : String :=
  "The " ++ module ++ " module contains " ++ toString count ++
    (if count == 1 then " command:" else " commands:")

def markerText : String := "IN PROGRESS"

/-- The marker of a flagged command; other commands have none. -/
def marker (opening closing : String) (flagged : List String) (e : Entry) : String :=
  if flagged.contains e.name then opening ++ markerText ++ closing ++ " " else ""

def htmlItem (flagged : List String) (e : Entry) : String :=
  "<li>" ++ marker "<strong>" "</strong>" flagged e ++ "<a href=\"cmdlets/" ++ e.name ++
    ".html\">" ++ e.name ++ "</a> - " ++ e.synopsis ++ "</li>"

def htmlLines (module : String) (entries : List Entry) (flagged : List String) : List String :=
  ["<p>" ++ intro module entries.length ++ "</p>", "<ul>"] ++ entries.map (htmlItem flagged) ++
    ["</ul>"]

def trimSlashes (address : String) : String :=
  String.ofList ((address.toList.reverse.dropWhile (· == '/')).reverse)

def markdownItem (base : String) (flagged : List String) (e : Entry) : String :=
  "* " ++ marker "**" "**" flagged e ++ "[" ++ e.name ++ "](" ++ base ++ "/" ++ e.name ++
    ".html) - " ++ e.synopsis

def markdownLines (module : String) (entries : List Entry) (address : String)
    (flagged : List String) : List String :=
  ["# " ++ module, "", intro module entries.length, ""] ++
    entries.map (markdownItem (trimSlashes address) flagged)

def joinLines (lines : List String) : String :=
  "\n".intercalate lines ++ "\n"

def renderHtml (module : String) (entries : List Entry) (flagged : List String) : String :=
  joinLines (htmlLines module entries flagged)

def renderMarkdown (module : String) (entries : List Entry) (address : String)
    (flagged : List String) : String :=
  joinLines (markdownLines module entries address flagged)

end CommandDocs.Summary
