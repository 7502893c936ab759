import CommandDocs.Settings.Basic
import CommandDocs.Toml.Layout.Edit
import CommandDocs.Toml.Written

/-!
# Writing settings

Settings are written over a document that may hold more than them: every key that has a value is
set, and nothing else is touched. A key without a value is left as it is.
-/

namespace CommandDocs.Settings

/-- A stored value as text. -/
def Stored.written : Stored → List Char
  | .text s => Toml.writeString s
  | .number n => Toml.writeInteger n
  | .texts items => Toml.writeStrings items

def newFile : List Toml.Layout.Node :=
  [.remark "# helpdoc configuration\n".toList]

def writeInto (s : Settings) (nodes : List Toml.Layout.Node) : List Toml.Layout.Node :=
  s.entries.foldl (fun done (key, value) => Toml.Layout.set key.name value.written done) nodes

def Stored.isWritable : Stored → Bool
  | .text _ | .texts _ => true
  | .number n => Text.isWritable n

def textInto (s : Settings) (nodes : List Toml.Layout.Node) : Except Toml.Fault String :=
  if s.entries.all (·.2.isWritable) then
    .ok (String.ofList (Toml.Layout.documentText (s.writeInto nodes)))
  else .error (.number .tooLarge)

/-- The text of a settings file, given the text of the old one if there is one. -/
def textOver (s : Settings) : Option String → Except Toml.Fault String
  | none => s.textInto newFile
  | some old =>
      match Toml.Layout.readNodes? (Text.unifyBreaks old.toList) with
      | none => .error .badSyntax
      | some nodes => s.textInto nodes

end CommandDocs.Settings
