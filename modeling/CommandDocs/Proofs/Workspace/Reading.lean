import CommandDocs.Proofs.Text.Documents
import CommandDocs.Proofs.Workspace.Fetching

/-!
# Reading help texts

A help text is read from a file below the root or from a temporary one.  Either way it is the text
of a document, and a file that is no document is refused.
-/

namespace CommandDocs

open Files (Path Bytes)

variable {η : Type}

/-- An activity that reads a help text from a file with given bytes: a file below the root, or a
temporary one. -/
inductive ReadsFile (w : Workspace η) (bytes : Bytes) : Act η String → String → Prop
  | stored {p : Path} (there : w.store.read w.here p = .ok bytes) :
      ReadsFile w bytes (readHelp p) p.text
  | temporary {number : Nat} (there : w.temporary.lookup number = some bytes) :
      ReadsFile w bytes (Temporary.read number) (Temporary.path number)

/-- Reading is decoding, and changes nothing. -/
theorem ReadsFile.run_eq {w : Workspace η} {bytes : Bytes} {act : Act η String} {path : String}
    (reads : ReadsFile w bytes act path) : act.run w = (helpTextOf path (.ok bytes), w) := by
  cases reads with
  | stored there =>
      unfold readHelp
      rw [run_bind, Act.run_get]
      dsimp only
      rw [Act.run_ofExcept, there]
  | temporary there => rw [Temporary.run_read, there]

theorem helpTextOf_eq_ok_iff {path : String} {bytes : Bytes} {text : String} :
    helpTextOf path (.ok bytes) = .ok text ↔ Text.IsDocument bytes text := by
  rw [← Text.decodeDocument_eq_ok_iff, helpTextOf]
  cases Text.decodeDocument bytes <;> simp

/-- Bytes that are no document are refused as such. -/
theorem exists_helpTextOf_eq_error_iff {path : String} {bytes : Bytes} :
    (∃ fault, helpTextOf path (.ok bytes) = .error (.undecodableHelp path fault)) ↔
      ∀ text, ¬Text.IsDocument bytes text := by
  simp only [← Text.decodeDocument_eq_ok_iff, helpTextOf]
  cases Text.decodeDocument bytes <;> simp

/-- **A help text is read from exactly the well-formed documents.**  From a file that holds a text
in UTF-16 behind the mark of its byte order, in UTF-8 behind its own mark, or in UTF-8 without any
of them, that text is read; any other file is refused as undecodable.  So a text is read back from
each of its encodings, unless it opens with the character that is the mark. -/
theorem reads_documents {w : Workspace η} {bytes : Bytes} {act : Act η String} {path : String}
    (reads : ReadsFile w bytes act path) :
    (∀ text, act.run w = (.ok text, w) ↔ Text.IsDocument bytes text) ∧
    ((∃ fault, act.run w = (.error (.undecodableHelp path fault), w)) ↔
      ∀ text, ¬Text.IsDocument bytes text) ∧
    ∀ text, text.toList.head? ≠ some '\uFEFF' → Text.IsEncoding text bytes →
      act.run w = (.ok text, w) := by
  have same {outcome : Except Failure String} :
      act.run w = (outcome, w) ↔ helpTextOf path (.ok bytes) = outcome := by
    rw [reads.run_eq]
    exact ⟨fun equal => congrArg Prod.fst equal, fun equal => congrArg (·, w) equal⟩
  refine ⟨fun text => same.trans helpTextOf_eq_ok_iff, ?_, fun text unmarked encoded => ?_⟩
  · exact (exists_congr fun fault => same).trans exists_helpTextOf_eq_error_iff
  · exact same.mpr (helpTextOf_eq_ok_iff.mpr (encoded.isDocument unmarked))

/-- Two temporary files in UTF-16: one with a character of two code units, and one that ends in the
middle of such a character. -/
def pairedWorkspace : Workspace Unit where
  made := 2
  events := [
    .opened 1,
    .wrote 1 [0xFE, 0xFF, 0x00, 0x41, 0xD8, 0x3D, 0xDE, 0x00],
    .opened 2,
    .wrote 2 [0xFE, 0xFF, 0x00, 0x41, 0xD8, 0x3D]
  ]
  host := ()

theorem reads_documents_paired :
    (Temporary.read 1).run pairedWorkspace = (.ok "A😀", pairedWorkspace) ∧
    ∃ fault, (Temporary.read 2).run pairedWorkspace =
      (.error (.undecodableHelp (Temporary.path 2) fault), pairedWorkspace) := by
  have whole : pairedWorkspace.temporary.lookup 1 =
      some [0xFE, 0xFF, 0x00, 0x41, 0xD8, 0x3D, 0xDE, 0x00] := rfl
  have half : pairedWorkspace.temporary.lookup 2 =
      some [0xFE, 0xFF, 0x00, 0x41, 0xD8, 0x3D] := rfl
  constructor
  · refine ((reads_documents (.temporary whole)).1 "A😀").mpr (.utf16 .big ?_)
    decide
  · refine (reads_documents (.temporary half)).2.1.mpr fun text document => ?_
    rw [← Text.decodeDocument_eq_ok_iff] at document
    have refused : (Text.decodeDocument [0xFE, 0xFF, 0x00, 0x41, 0xD8, 0x3D]).toOption = none := by
      decide
    rw [document] at refused
    cases refused

end CommandDocs
