import CommandDocs.Digest
import CommandDocs.Sources

/-!
# Bundles

The sources of a module are joined into one file. Every source is hashed as it stands; in the
bundle its byte order mark is left out and one line feed separates it from the next.
-/

namespace CommandDocs

open Files (Path Bytes)

variable {η : Type}

/-- One source in a bundle: its path, the digest of its bytes, and its text. -/
structure Part where
  path : Path
  digest : String
  text : String
  deriving DecidableEq, Repr

/-- A bundle that has been written. -/
structure Bundle where
  output : Path
  parts : List Part
  deriving DecidableEq, Repr

namespace Bundle

/-- The paths of the sources. -/
def sources (bundle : Bundle) : List Path :=
  bundle.parts.map (·.path)

/-- The text of the bundle. -/
def content (bundle : Bundle) : String :=
  "\n".intercalate (bundle.parts.map (·.text))

end Bundle

/-- The part that a source with given bytes makes. -/
def partOf (p : Path) (bytes : Bytes) : Except Failure Part :=
  match Text.decodeMarked bytes with
  | .ok text => .ok ⟨p, Digest.hexDigest bytes, text⟩
  | .error _ => .error (.undecodableScript p.text)

def readParts : List Path → Act η (List Part)
  | [] => return []
  | p :: rest => do
      let part ← Act.ofExcept (partOf p (← Act.read p))
      return part :: (← readParts rest)

def writeBundle (module : String) (source output : Path) (selection : Selection)
    (bundleExtension : String) : Act η Bundle := do
  Act.require (← Act.isDirectory source) (.sourceMissing source.text)
  Act.require (← Act.isDirectory output) (.outputMissing output.text)
  let parts ← readParts (← listSources source selection)
  let bundle : Bundle := ⟨output.child (module ++ "." ++ bundleExtension), parts⟩
  Act.writeText bundle.output bundle.content
  Act.note .info ("Bundled " ++ toString parts.length ++ " file(s) into " ++ bundle.output.text)
  return bundle

end CommandDocs
