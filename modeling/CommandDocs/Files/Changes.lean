import CommandDocs.Files.Store

/-!
# Changes

How two stores differ, location by location.
-/

namespace CommandDocs.Files

/-- What is different at a location. -/
inductive Change where
  | wrote (bytes : Bytes)
  | made
  | erasedFile
  | erasedDirectory
  deriving DecidableEq, Repr

def Entry.appearing : Entry → Change
  | .file bytes => .wrote bytes
  | .directory => .made

def Entry.vanishing : Entry → Change
  | .file _ => .erasedFile
  | .directory => .erasedDirectory

def Entry.sameKind : Entry → Entry → Bool
  | .file _, .file _ => true
  | .directory, .directory => true
  | _, _ => false

/-- What has to be told about an entry that was not there before in this form. -/
def appeared (before : Store) (entry : Location × Entry) : Option (Location × Change) :=
  if before.at? entry.1 == some entry.2 then none else some (entry.1, entry.2.appearing)

/-- What has to be told about an entry that is not there any more in its kind. -/
def vanished (after : Store) (entry : Location × Entry) : Option (Location × Change) :=
  match after.at? entry.1 with
  | some now => if entry.2.sameKind now then none else some (entry.1, entry.2.vanishing)
  | none => some (entry.1, entry.2.vanishing)

def changes (before after : Store) : List (Location × Change) :=
  after.entries.filterMap (appeared before) ++ before.entries.filterMap (vanished after)

end CommandDocs.Files
