import CommandDocs.Bundle
import CommandDocs.Json.Quoted

/-!
# Manifests

The manifest of a bundle gives the digest of every source under its file name, as a JSON object
with one member a line, sorted by name.
-/

namespace CommandDocs

open Files (Path)

variable {η : Type}

namespace Manifest

/-- The members of a manifest. Of several sources with one name the last counts. -/
def members (parts : List Part) : List (String × String) :=
  parts.foldl (fun done part =>
    done.filter (fun member => member.1 != part.path.name) ++ [(part.path.name, part.digest)]) []

/-- The order of members: by the code points of their names. -/
def memberLe (a b : String × String) : Bool :=
  Text.codePointLe a.1.toList b.1.toList

def memberText (member : String × String) : String :=
  "  " ++ String.ofList (Json.quote member.1.toList) ++ ": " ++
    String.ofList (Json.quote member.2.toList)

/-- A JSON object of members that hold strings. -/
def objectText (members : List (String × String)) : String :=
  if members.isEmpty then "\x7b\x7d"
  else "\x7b\n" ++ ",\n".intercalate (members.map memberText) ++ "\n\x7d"

def text (bundle : Bundle) : String :=
  objectText ((members bundle.parts).mergeSort memberLe) ++ "\n"

end Manifest

def writeManifest (bundle : Bundle) (p : Path) : Act η Path := do
  Act.writeText p (Manifest.text bundle)
  return p

end CommandDocs
