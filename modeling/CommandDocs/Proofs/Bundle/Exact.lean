import CommandDocs.Proofs.Bundle.Digests
import CommandDocs.Proofs.Bundle.Listing

/-!
# Bundles byte by byte

The bytes of a bundle are those of its sources, each without its mark, with one line feed between
them.  A bundle of readable sources fails exactly when one of them is no text without its mark,
and it names the first of these.
-/

namespace CommandDocs

open Files (Path Bytes Location)

variable {η : Type}

/-- The bytes of some sources without their marks, with one line feed between them. -/
def joinedBytes (contents : List Bytes) : Bytes :=
  List.intercalate [0x0A] (contents.map Text.Utf8.dropMark)

/-- The digests of a bundle by the paths of the sources. -/
def Bundle.hashes (bundle : Bundle) : List (Path × String) :=
  bundle.parts.map fun part => (part.path, part.digest)

/-- Whether a failure reports an input that cannot be read as text. -/
def Failure.isMalformedInput : Failure → Bool
  | .unreadableHelp _ _ | .undecodableHelp _ _ | .undecodableScript _ => true
  | _ => false

/-- Where the bundle of a module is written. -/
def bundlePath (output : Path) (module extension : String) : Path :=
  output.child (module ++ "." ++ extension)

/-! ## Parts and bytes -/

section Parts

variable {s : Files.Store} {here : Location} {paths : List Path} {parts : List Part}
  (made : List.Forall₂ (IsPart s here) paths parts)
include made

theorem map_path_of_isPart : parts.map (·.path) = paths := by
  induction made with
  | nil => rfl
  | cons own rest ih =>
      obtain ⟨bytes, text, _, _, rfl⟩ := own
      rw [List.map_cons, ih]

/-- The texts of the parts are encoded to the bytes of the sources without their marks. -/
theorem exists_contents_of_isPart :
    ∃ contents : List Bytes, paths.map (s.read here) = contents.map .ok ∧
      parts.map (fun part => Text.encodeText part.text) = contents.map Text.Utf8.dropMark := by
  induction made with
  | nil => exact ⟨[], rfl, rfl⟩
  | cons own rest ih =>
      obtain ⟨contents, read, same⟩ := ih
      obtain ⟨bytes, text, found, encoded, rfl⟩ := own
      refine ⟨bytes :: contents, ?_, ?_⟩
      · rw [List.map_cons, List.map_cons, found, read]
      · rw [List.map_cons, List.map_cons, same, Text.encodeText, String.toList_ofList, encoded]

theorem exists_isPart_of_mem {p : Path} (member : p ∈ paths) : ∃ part, IsPart s here p part := by
  induction made with
  | nil => cases member
  | cons own rest ih =>
      rcases List.mem_cons.mp member with rfl | later
      · exact ⟨_, own⟩
      · exact ih later

theorem mem_hashes_of_isPart (target p : Path) (digest : String) :
    (p, digest) ∈ (Bundle.mk target parts).hashes ↔
      p ∈ paths ∧ ∃ bytes, s.read here p = .ok bytes ∧ digest = Digest.hexDigest bytes := by
  unfold Bundle.hashes
  dsimp only
  induction made with
  | nil => simp
  | @cons q part paths parts own rest ih =>
      rw [List.map_cons, List.mem_cons, ih, List.mem_cons]
      obtain ⟨bytes, text, found, _, rfl⟩ := own
      constructor
      · rintro (same | ⟨member, given⟩)
        · cases same
          exact ⟨Or.inl rfl, bytes, found, rfl⟩
        · exact ⟨Or.inr member, given⟩
      · rintro ⟨rfl | member, other, again, rfl⟩
        · rw [found] at again
          cases again
          exact Or.inl rfl
        · exact Or.inr ⟨member, other, again, rfl⟩

end Parts

theorem Text.encodeText_content (bundle : Bundle) :
    Text.encodeText bundle.content =
      List.intercalate [0x0A] (bundle.parts.map fun part => Text.encodeText part.text) := by
  have feed : Text.Utf8.encode "\n".toList = [0x0A] := by decide
  rw [Bundle.content, Text.encodeText, String.toList_intercalate, Text.Utf8.encode_intercalate,
    feed, List.map_map, List.map_map]
  rfl

/-! ## Running -/

section Running

variable {module extension : String} {source output : Path} {selection : Selection}
  {w : Workspace η}

def Workspace.bundled (w : Workspace η) (store : Files.Store) (bundle : Bundle) : Workspace η :=
  { w with
    store
    log := w.log ++ [⟨.info, "Bundled " ++ toString bundle.parts.length ++ " file(s) into " ++
      bundle.output.text⟩] }

/-- A bundle needs both directories. -/
theorem run_writeBundle_of_there (thereSource : w.store.isDirectory w.here source = .ok true)
    (thereOutput : w.store.isDirectory w.here output = .ok true) :
    (writeBundle module source output selection extension).run w =
      (listSources source selection >>= fun paths => readParts paths >>= fun parts => do
        let bundle : Bundle := ⟨bundlePath output module extension, parts⟩
        Act.writeText bundle.output bundle.content
        Act.note .info ("Bundled " ++ toString parts.length ++ " file(s) into " ++
          bundle.output.text)
        return bundle : Act η Bundle).run w := by
  have askedSource : (Act.isDirectory source : Act η Bool).run w = (.ok true, w) := by
    rw [Act.run_isDirectory, thereSource]
    rfl
  have askedOutput : (Act.isDirectory output : Act η Bool).run w = (.ok true, w) := by
    rw [Act.run_isDirectory, thereOutput]
    rfl
  have passed (failure : Failure) : (Act.require true failure : Act η Unit).run w = (.ok (), w) :=
    rfl
  unfold writeBundle
  rw [run_bind_of_ok askedSource, run_bind_of_ok (passed _),
    run_bind_of_ok askedOutput, run_bind_of_ok (passed _)]
  rfl

/-- An activity that needs a directory and comes to a result has found it there. -/
theorem run_of_required {α : Type} {p : Path} {failure : Failure} {next : Act η α} {value : α}
    {after : Workspace η}
    (ran : (Act.isDirectory p >>= fun there => Act.require there failure >>= fun _ => next).run w =
      (.ok value, after)) :
    w.store.isDirectory w.here p = .ok true ∧ next.run w = (.ok value, after) := by
  obtain ⟨there, middle, asked, later⟩ := exists_of_run_bind_ok ran
  rw [Act.run_isDirectory] at asked
  cases found : w.store.isDirectory w.here p with
  | error fault =>
      rw [found] at asked
      cases asked
  | ok answer =>
      rw [found] at asked
      cases asked
      cases there with
      | true => exact ⟨rfl, later⟩
      | false => cases later

/-- A listing finds the files as they were. -/
theorem exists_log_of_listed {result : Except Failure (List Path)} {w₀ : Workspace η}
    (listed : (listSources source selection).run w = (result, w₀)) :
    ∃ log, w₀ = { w with log } := by
  obtain ⟨log, same⟩ := (onlyLooks_listSources source selection).unchanged w
  rw [listed] at same
  exact ⟨log, same⟩

/-- A bundle that has been written has been made of the parts of its sources. -/
theorem exists_of_run_writeBundle_ok {bundle : Bundle} {after : Workspace η}
    (ran : (writeBundle module source output selection extension).run w = (.ok bundle, after)) :
    ∃ paths parts store log, (listSources source selection).run w = (.ok paths, { w with log }) ∧
      List.Forall₂ (IsPart w.store w.here) paths parts ∧
      bundle = ⟨bundlePath output module extension, parts⟩ ∧
      w.store.write w.here bundle.output (Text.encodeText bundle.content) = .ok store ∧
      after = ({ w with log } : Workspace η).bundled store bundle := by
  obtain ⟨_, ran⟩ := run_of_required ran
  obtain ⟨_, ran⟩ := run_of_required ran
  obtain ⟨paths, w₀, listed, ran⟩ := exists_of_run_bind_ok ran
  obtain ⟨log, rfl⟩ := exists_log_of_listed listed
  obtain ⟨parts, w₁, read, ran⟩ := exists_of_run_bind_ok ran
  rw [run_readParts] at read
  obtain ⟨made, rfl⟩ := Prod.mk.inj read
  refine ⟨paths, parts, ?_⟩
  cases written : w.store.write w.here (bundlePath output module extension)
      (Text.encodeText (Bundle.mk (bundlePath output module extension) parts).content) with
  | error fault =>
      have stuck := Act.run_writeText_of_error (w := { w with log }) written
      have failed := (run_bind_of_error stuck).symm.trans ran
      cases failed
  | ok store =>
      have wrote := Act.run_writeText_of_ok (w := { w with log }) written
      have ended := (run_bind_of_ok wrote).symm.trans ran
      cases ended
      exact ⟨store, log, listed, partsIn_eq_ok_iff.mp made, rfl, written, rfl⟩

section Given

variable (thereSource : w.store.isDirectory w.here source = .ok true)
  (thereOutput : w.store.isDirectory w.here output = .ok true)
include thereSource thereOutput

/-- Without a listing a bundle fails like the listing. -/
theorem run_writeBundle_of_unlisted {failure : Failure} {w₀ : Workspace η}
    (unlisted : (listSources source selection).run w = (.error failure, w₀)) :
    (writeBundle module source output selection extension).run w = (.error failure, w₀) := by
  rw [run_writeBundle_of_there thereSource thereOutput]
  exact run_bind_of_error unlisted

variable {paths : List Path} {log : List Note}
  (listed : (listSources source selection).run w = (.ok paths, { w with log }))
include listed

theorem run_writeBundle_of_failure {failure : Failure}
    (failed : partsIn w.store w.here paths = .error failure) :
    (writeBundle module source output selection extension).run w =
      (.error failure, { w with log }) := by
  rw [run_writeBundle_of_there thereSource thereOutput, run_bind_of_ok listed]
  refine run_bind_of_error ?_
  rw [run_readParts, failed]

theorem run_writeBundle_of_parts {parts : List Part} {store : Files.Store}
    (made : partsIn w.store w.here paths = .ok parts)
    (written : w.store.write w.here (bundlePath output module extension)
      (Text.encodeText (Bundle.mk (bundlePath output module extension) parts).content) =
        .ok store) :
    (writeBundle module source output selection extension).run w =
      (.ok ⟨bundlePath output module extension, parts⟩,
        ({ w with log } : Workspace η).bundled store
          ⟨bundlePath output module extension, parts⟩) := by
  rw [run_writeBundle_of_there thereSource thereOutput, run_bind_of_ok listed]
  have read : (readParts paths : Act η (List Part)).run { w with log } =
      (.ok parts, { w with log }) := by
    rw [run_readParts, made]
  have wrote := Act.run_writeText_of_ok (w := { w with log }) written
  exact (run_bind_of_ok read).trans (run_bind_of_ok wrote)

end Given

end Running

/-! ## Sources that are no text -/

/-- A source whose bytes, but for a mark, are no text. -/
def Workspace.IllFormed (w : Workspace η) (p : Path) : Prop :=
  ∃ bytes, w.store.read w.here p = .ok bytes ∧
    ¬Text.Utf8.WellFormed (Text.Utf8.dropMark bytes)

section Sources

variable {w : Workspace η} {paths : List Path}

theorem Workspace.IllFormed.not_isPart {p : Path} (bad : w.IllFormed p) (part : Part) :
    ¬IsPart w.store w.here p part := by
  rintro ⟨bytes, text, read, same, _⟩
  obtain ⟨other, again, formless⟩ := bad
  rw [read] at again
  cases again
  exact formless ⟨text, same⟩

/-- Readable sources that are text make parts. -/
theorem exists_parts_of_wellFormed
    (readable : ∀ p ∈ paths, ∃ bytes, w.store.read w.here p = .ok bytes)
    (good : ∀ p ∈ paths, ¬w.IllFormed p) : ∃ parts, partsIn w.store w.here paths = .ok parts := by
  cases made : partsIn w.store w.here paths with
  | ok parts => exact ⟨parts, rfl⟩
  | error failure =>
      obtain ⟨before, p, after, parts, rfl, _, bad⟩ := partsIn_eq_error_iff.mp made
      have member : p ∈ before ++ p :: after := by simp
      rcases partAt_eq_error_iff.mp bad with ⟨fault, refused, _⟩ | ⟨bytes, read, formless, _⟩
      · obtain ⟨bytes, read⟩ := readable p member
        rw [read] at refused
        cases refused
      · exact absurd ⟨bytes, read, formless⟩ (good p member)

/-- The first source that is no text is the one that is named. -/
theorem exists_first_of_failure
    (readable : ∀ p ∈ paths, ∃ bytes, w.store.read w.here p = .ok bytes) {failure : Failure}
    (failed : partsIn w.store w.here paths = .error failure) :
    ∃ before p after, paths = before ++ p :: after ∧ (∀ q ∈ before, ¬w.IllFormed q) ∧
      w.IllFormed p ∧ failure = .undecodableScript p.text := by
  obtain ⟨before, p, after, parts, rfl, good, bad⟩ := partsIn_eq_error_iff.mp failed
  refine ⟨before, p, after, rfl, ?_, ?_⟩
  · intro q member bad
    obtain ⟨part, own⟩ := exists_isPart_of_mem good member
    exact bad.not_isPart part own
  · rcases partAt_eq_error_iff.mp bad with ⟨fault, refused, _⟩ | ⟨bytes, read, formless, same⟩
    · obtain ⟨bytes, read⟩ := readable p (by simp)
      rw [read] at refused
      cases refused
    · exact ⟨⟨bytes, read, formless⟩, same⟩

/-- A source that is no text keeps the parts from being made. -/
theorem exists_failure_of_illFormed {p : Path} (member : p ∈ paths) (bad : w.IllFormed p) :
    ∃ failure, partsIn w.store w.here paths = .error failure := by
  cases made : partsIn w.store w.here paths with
  | error failure => exact ⟨failure, rfl⟩
  | ok parts =>
      obtain ⟨part, own⟩ := exists_isPart_of_mem (partsIn_eq_ok_iff.mp made) member
      exact absurd own (bad.not_isPart part)

theorem isMalformedInput_of_isListingFault {failure : Failure} (own : IsListingFault failure) :
    failure.isMalformedInput = false := by
  cases own <;> rfl

end Sources

/-! ## Exactness -/

section Exactness

variable {module extension : String} {source output : Path} {selection : Selection}
  {w : Workspace η}

/-- What stands in a bundle that has been written, and under which digests. -/
theorem contents_of_run_writeBundle_ok {bundle : Bundle} {after : Workspace η}
    (ran : (writeBundle module source output selection extension).run w = (.ok bundle, after)) :
    bundle.output = bundlePath output module extension ∧
      ((listSources source selection).run w).1 = .ok bundle.sources ∧
      ∃ contents : List Bytes, bundle.sources.map (w.store.read w.here) = contents.map .ok ∧
        after.store.read after.here bundle.output = .ok (joinedBytes contents) ∧
        Text.decodeText (joinedBytes contents) = .ok bundle.content ∧
        ∀ p digest, (p, digest) ∈ bundle.hashes ↔ p ∈ bundle.sources ∧
          ∃ bytes, w.store.read w.here p = .ok bytes ∧ digest = Sha256.digest bytes := by
  obtain ⟨paths, parts, store, log, listed, made, rfl, written, rfl⟩ :=
    exists_of_run_writeBundle_ok ran
  have sources : (Bundle.mk (bundlePath output module extension) parts).sources = paths :=
    map_path_of_isPart made
  obtain ⟨contents, read, same⟩ := exists_contents_of_isPart made
  have encoded : Text.encodeText (Bundle.mk (bundlePath output module extension) parts).content =
      joinedBytes contents := by
    rw [Text.encodeText_content, same]
    rfl
  refine ⟨rfl, ?_, contents, ?_, ?_, ?_, ?_⟩
  · rw [listed, sources]
  · rw [sources, read]
  · rw [encoded] at written
    exact Files.Store.read_of_write written
  · rw [← encoded]
    exact Text.decodeText_encodeText _
  · intro p digest
    have own := mem_hashes_of_isPart made (bundlePath output module extension) p digest
    simp only [Digest.hexDigest_eq] at own
    rw [sources]
    exact own

section Given

variable (thereSource : w.store.isDirectory w.here source = .ok true)
  (thereOutput : w.store.isDirectory w.here output = .ok true)
include thereSource thereOutput

variable {paths : List Path} {log : List Note}
  (listed : (listSources source selection).run w = (.ok paths, { w with log }))
  (readable : ∀ p ∈ paths, ∃ bytes, w.store.read w.here p = .ok bytes)
include listed readable

/-- The first source that is no text ends the bundle. -/
theorem run_writeBundle_of_illFormed {before behind : List Path} {p : Path}
    (split : paths = before ++ p :: behind) (good : ∀ q ∈ before, ¬w.IllFormed q)
    (bad : w.IllFormed p) :
    (writeBundle module source output selection extension).run w =
      (.error (.undecodableScript p.text), { w with log }) := by
  refine run_writeBundle_of_failure thereSource thereOutput listed ?_
  have earlier : ∀ q ∈ before, ∃ bytes, w.store.read w.here q = .ok bytes := fun q member =>
    readable q (by rw [split]; exact List.mem_append_left _ member)
  obtain ⟨parts, made⟩ := exists_parts_of_wellFormed earlier good
  obtain ⟨bytes, read, formless⟩ := bad
  refine partsIn_eq_error_iff.mpr ⟨before, p, behind, parts, split, partsIn_eq_ok_iff.mp made, ?_⟩
  exact partAt_eq_error_iff.mpr (Or.inr ⟨bytes, read, formless, rfl⟩)

/-- Sources that are all text make a bundle where its path can be written. -/
theorem exists_run_writeBundle_ok
    (opened : ∃ store, w.store.write w.here (bundlePath output module extension) [] = .ok store)
    (good : ∀ p ∈ paths, ¬w.IllFormed p) :
    ∃ bundle after,
      (writeBundle module source output selection extension).run w = (.ok bundle, after) := by
  obtain ⟨parts, made⟩ := exists_parts_of_wellFormed readable good
  obtain ⟨store, written⟩ := opened
  obtain ⟨location, led, free, _⟩ := Files.Store.write_eq_ok_iff.mp written
  exact ⟨_, _, run_writeBundle_of_parts thereSource thereOutput listed made
    (Files.Store.write_eq_ok_iff.mpr ⟨location, led, free, rfl⟩)⟩

theorem malformed_iff_of_listed
    (opened : ∃ store, w.store.write w.here (bundlePath output module extension) [] = .ok store) :
    (∃ failure after, (writeBundle module source output selection extension).run w =
      (.error failure, after) ∧ failure.isMalformedInput = true) ↔ ∃ p ∈ paths, w.IllFormed p := by
  constructor
  · rintro ⟨failure, after, failed, _⟩
    by_contra none
    push Not at none
    obtain ⟨bundle, later, ran⟩ :=
      exists_run_writeBundle_ok thereSource thereOutput listed readable opened none
    rw [ran] at failed
    cases failed
  · rintro ⟨p, member, bad⟩
    obtain ⟨failure, failed⟩ := exists_failure_of_illFormed member bad
    obtain ⟨before, first, behind, rfl, good, own, rfl⟩ := exists_first_of_failure readable failed
    exact ⟨_, _, run_writeBundle_of_illFormed thereSource thereOutput listed readable rfl good own,
      rfl⟩

end Given

/-- Without a listing a bundle does not fail for malformed input. -/
theorem not_malformed_of_unlisted (thereSource : w.store.isDirectory w.here source = .ok true)
    (thereOutput : w.store.isDirectory w.here output = .ok true) {failure : Failure}
    {w₀ : Workspace η} (unlisted : (listSources source selection).run w = (.error failure, w₀)) :
    ¬∃ other after, (writeBundle module source output selection extension).run w =
      (.error other, after) ∧ other.isMalformedInput = true := by
  rintro ⟨other, after, failed, malformed⟩
  rw [run_writeBundle_of_unlisted thereSource thereOutput unlisted] at failed
  cases failed
  have own := (onlyLooks_listSources source selection).fails w failure (by rw [unlisted])
  rw [isMalformedInput_of_isListingFault own] at malformed
  cases malformed

end Exactness

/-- A written bundle holds the bytes of the listed sources, under their SHA-256 digests, and given
directories, readable sources and a target, a bundle fails for malformed input exactly when a source
is no text. -/
theorem writeBundle_exact (w : Workspace η) (module extension : String) (source output : Path)
    (selection : Selection) :
    (∀ bundle after,
      (writeBundle module source output selection extension).run w = (.ok bundle, after) →
      bundle.output = bundlePath output module extension ∧
      ((listSources source selection).run w).1 = .ok bundle.sources ∧
      ∃ contents : List Bytes, bundle.sources.map (w.store.read w.here) = contents.map .ok ∧
        after.store.read after.here bundle.output = .ok (joinedBytes contents) ∧
        Text.decodeText (joinedBytes contents) = .ok bundle.content ∧
        ∀ p digest, (p, digest) ∈ bundle.hashes ↔ p ∈ bundle.sources ∧
          ∃ bytes, w.store.read w.here p = .ok bytes ∧ digest = Sha256.digest bytes) ∧
    (w.store.isDirectory w.here source = .ok true →
      w.store.isDirectory w.here output = .ok true →
      (∃ store, w.store.write w.here (bundlePath output module extension) [] = .ok store) →
      (∀ paths, ((listSources source selection).run w).1 = .ok paths →
        ∀ p ∈ paths, ∃ bytes, w.store.read w.here p = .ok bytes) →
      ((∃ failure after, (writeBundle module source output selection extension).run w =
          (.error failure, after) ∧ failure.isMalformedInput = true) ↔
        ∃ paths, ((listSources source selection).run w).1 = .ok paths ∧
          ∃ p ∈ paths, w.IllFormed p) ∧
      ∀ before p behind,
        ((listSources source selection).run w).1 = .ok (before ++ p :: behind) →
        (∀ q ∈ before, ¬w.IllFormed q) → w.IllFormed p →
        ∃ failure after, (writeBundle module source output selection extension).run w =
          (.error failure, after) ∧ failure.message = "Script is not valid UTF-8: " ++ p.text) := by
  constructor
  · intro bundle after ran
    exact contents_of_run_writeBundle_ok ran
  · intro thereSource thereOutput opened readable
    cases listed : (listSources source selection).run w with
    | mk outcome w₀ =>
        obtain ⟨log, rfl⟩ := exists_log_of_listed listed
        rw [listed] at readable
        cases outcome with
        | error failure =>
            constructor
            · refine iff_of_false (not_malformed_of_unlisted thereSource thereOutput listed) ?_
              rintro ⟨paths, found, _⟩
              cases found
            · intro before p behind found
              cases found
        | ok paths =>
            have there := readable paths rfl
            constructor
            · rw [malformed_iff_of_listed thereSource thereOutput listed there opened]
              simp
            · intro before p behind found good bad
              cases found
              exact ⟨_, _, run_writeBundle_of_illFormed thereSource thereOutput listed there rfl
                good bad, rfl⟩

/-- Two scripts: one with a mark and a line break, and one with given bytes. -/
def twoScripts (last : Bytes) : Workspace Unit where
  store := ⟨[
    (["src"], .directory), (["out"], .directory),
    (["src", "a.ps1"], .file [0xEF, 0xBB, 0xBF, 0x61, 0x0D, 0x0A]),
    (["src", "b.ps1"], .file last)]⟩
  host := ()

def scriptPaths : List Path :=
  [⟨.here, ["src", "a.ps1"]⟩, ⟨.here, ["src", "b.ps1"]⟩]

section TwoScripts

variable (last : Bytes)

theorem locate_twoScripts : ∀ p ∈ scriptPaths,
    (twoScripts last).store.locate (twoScripts last).here p = .ok p.parts := by
  intro p member
  simp only [scriptPaths, List.mem_cons, List.not_mem_nil, or_false] at member
  rcases member with rfl | rfl
  · exact Files.Store.locate_of_walk (by decide) (by decide) rfl
  · exact Files.Store.locate_of_walk (by decide) (by decide) rfl

theorem isFile_twoScripts : ∀ p ∈ scriptPaths,
    (twoScripts last).store.isFile (twoScripts last).here p = .ok true := by
  intro p member
  rw [Files.Store.isFile, Files.Store.probe_of_locate (locate_twoScripts last p member)]
  simp only [scriptPaths, List.mem_cons, List.not_mem_nil, or_false] at member
  rcases member with rfl | rfl
  · rfl
  · rfl

theorem listSources_twoScripts :
    ((listSources ⟨.here, ["src"]⟩ {}).run (twoScripts last)).1 = .ok scriptPaths := by
  have led : (twoScripts last).store.locate (twoScripts last).here ⟨.here, ["src"]⟩ =
      .ok ["src"] :=
    Files.Store.locate_of_walk (by decide) (by decide) rfl
  have sorted : scriptPaths.mergeSort listingOrder = scriptPaths :=
    List.mergeSort_of_pairwise (by decide)
  rw [run_listSources]
  refine sourcesIn_eq_ok_iff_found.mpr ⟨⟨[.wildcard "*.ps1"], false⟩, scriptPaths, by decide,
    (search_wildcard led rfl _).trans rfl,
    fun p member => ⟨true, isFile_twoScripts last p member⟩, ?_⟩
  rw [sorted, eq_comm, List.filter_eq_self]
  intro p member
  rw [isKept, isFile_twoScripts last p member]
  rfl

theorem read_twoScripts :
    scriptPaths.map ((twoScripts last).store.read (twoScripts last).here) =
      [.ok [0xEF, 0xBB, 0xBF, 0x61, 0x0D, 0x0A], .ok last] := by
  obtain ⟨first, second, -⟩ : _ ∧ _ ∧ _ := by
    simpa only [scriptPaths, List.forall_mem_cons] using locate_twoScripts last
  rw [scriptPaths, List.map_cons, List.map_cons, List.map_nil,
    Files.Store.read_eq_ok_iff.mpr ⟨_, first, rfl⟩, Files.Store.read_eq_ok_iff.mpr ⟨_, second, rfl⟩]

theorem readable_twoScripts : ∀ p ∈ scriptPaths,
    ∃ bytes, (twoScripts last).store.read (twoScripts last).here p = .ok bytes := by
  intro p member
  have found := List.mem_map_of_mem (f := (twoScripts last).store.read (twoScripts last).here) member
  rw [read_twoScripts] at found
  simp only [List.mem_cons, List.not_mem_nil, or_false] at found
  rcases found with same | same
  · exact ⟨_, same⟩
  · exact ⟨_, same⟩

theorem isDirectory_twoScripts (name : String) (own : name ∈ ["src", "out"]) :
    (twoScripts last).store.isDirectory (twoScripts last).here ⟨.here, [name]⟩ = .ok true := by
  simp only [List.mem_cons, List.not_mem_nil, or_false] at own
  rw [Files.Store.isDirectory_eq_true_iff]
  rcases own with rfl | rfl
  · exact ⟨["src"], Files.Store.locate_of_walk (by decide) (by decide) rfl, rfl⟩
  · exact ⟨["out"], Files.Store.locate_of_walk (by decide) (by decide) rfl, rfl⟩

theorem opened_twoScripts : ∃ store, (twoScripts last).store.write (twoScripts last).here
    (bundlePath ⟨.here, ["out"]⟩ "M" "psm1") [] = .ok store := by
  have vacant : (twoScripts last).store.at? ["out", "M.psm1"] = none := rfl
  have free : (twoScripts last).store.at? ["out", "M.psm1"] ≠ some .directory := by
    rw [vacant]
    simp
  exact ⟨_, Files.Store.write_eq_ok_iff.mpr ⟨["out", "M.psm1"],
    Files.Store.locate_of_walk (by decide) (by decide) rfl, free, rfl⟩⟩

theorem not_illFormed_twoScripts : ¬(twoScripts last).IllFormed ⟨.here, ["src", "a.ps1"]⟩ := by
  rintro ⟨bytes, read, formless⟩
  have same := (List.cons.inj (read_twoScripts last)).1
  rw [read] at same
  cases same
  exact formless ⟨['a', '\r', '\n'], by decide⟩

theorem illFormed_twoScripts_iff : (twoScripts last).IllFormed ⟨.here, ["src", "b.ps1"]⟩ ↔
    ¬Text.Utf8.WellFormed (Text.Utf8.dropMark last) := by
  have second := (List.cons.inj (List.cons.inj (read_twoScripts last)).2).1
  constructor
  · rintro ⟨bytes, read, formless⟩
    rw [second] at read
    cases read
    exact formless
  · intro formless
    exact ⟨last, second, formless⟩

end TwoScripts

theorem exists_bundle_twoScripts : ∃ bundle after,
    (writeBundle "M" ⟨.here, ["src"]⟩ ⟨.here, ["out"]⟩ {} "psm1").run (twoScripts [0x62]) =
      (.ok bundle, after) := by
  have good : ∀ p ∈ scriptPaths, ¬(twoScripts [0x62]).IllFormed p := by
    intro p member
    simp only [scriptPaths, List.mem_cons, List.not_mem_nil, or_false] at member
    rcases member with rfl | rfl
    · exact not_illFormed_twoScripts _
    · rw [illFormed_twoScripts_iff]
      exact not_not_intro ⟨['b'], by decide⟩
  obtain ⟨log, found⟩ :=
    (onlyLooks_listSources ⟨.here, ["src"]⟩ {}).unchanged (twoScripts [0x62])
  exact exists_run_writeBundle_ok
    (isDirectory_twoScripts _ "src" (by decide)) (isDirectory_twoScripts _ "out" (by decide))
    (Prod.ext (listSources_twoScripts _) found) (readable_twoScripts _) (opened_twoScripts _) good

theorem writeBundle_exact_twoScripts :
    (∃ bundle after, (writeBundle "M" ⟨.here, ["src"]⟩ ⟨.here, ["out"]⟩ {} "psm1").run
        (twoScripts [0x62]) = (.ok bundle, after) ∧
      after.store.read after.here bundle.output = .ok [0x61, 0x0D, 0x0A, 0x0A, 0x62] ∧
      (⟨.here, ["src", "b.ps1"]⟩,
        "3e23e8160039594a33894f6564e1b1348bbd7a0088d42c4acb73eeaed59c009d") ∈ bundle.hashes) ∧
    ∃ failure after, (writeBundle "M" ⟨.here, ["src"]⟩ ⟨.here, ["out"]⟩ {} "psm1").run
        (twoScripts [0x80]) = (.error failure, after) ∧
      failure.message = "Script is not valid UTF-8: src/b.ps1" := by
  have source (last : Bytes) := isDirectory_twoScripts last "src" (by decide)
  have target (last : Bytes) := isDirectory_twoScripts last "out" (by decide)
  constructor
  · obtain ⟨holds, -⟩ := writeBundle_exact (twoScripts [0x62]) "M" "psm1" ⟨.here, ["src"]⟩
      ⟨.here, ["out"]⟩ {}
    obtain ⟨bundle, after, ran⟩ := exists_bundle_twoScripts
    obtain ⟨-, listed, contents, read, stored, -, hashes⟩ := holds bundle after ran
    rw [listSources_twoScripts] at listed
    rw [← Except.ok.inj listed, read_twoScripts] at read
    have same : contents = [[0xEF, 0xBB, 0xBF, 0x61, 0x0D, 0x0A], [0x62]] :=
      (List.map_inj_right fun _ _ => Except.ok.inj).mp read.symm
    have second := (List.cons.inj (List.cons.inj (read_twoScripts [0x62])).2).1
    rw [same] at stored
    refine ⟨bundle, after, ran, stored, (hashes _ _).mpr ⟨?_, [0x62], second, ?_⟩⟩
    · rw [← Except.ok.inj listed]
      exact List.mem_cons_of_mem _ List.mem_cons_self
    · rw [← Digest.hexDigest_eq]
      decide +kernel
  · obtain ⟨-, fails⟩ := writeBundle_exact (twoScripts [0x80]) "M" "psm1" ⟨.here, ["src"]⟩
      ⟨.here, ["out"]⟩ {}
    have broken : (twoScripts [0x80]).IllFormed ⟨.here, ["src", "b.ps1"]⟩ := by
      rw [illFormed_twoScripts_iff, ← Text.Utf8.exists_decode_eq_error_iff]
      exact ⟨⟨0, [0x80], .invalidStart⟩, by decide +kernel⟩
    refine (fails (source _) (target _) (opened_twoScripts _) ?_).2 [⟨.here, ["src", "a.ps1"]⟩]
      ⟨.here, ["src", "b.ps1"]⟩ [] (listSources_twoScripts _) ?_ broken
    · intro paths listed
      rw [listSources_twoScripts] at listed
      cases listed
      exact readable_twoScripts _
    · intro p member
      rw [List.mem_singleton.mp member]
      exact not_illFormed_twoScripts _

end CommandDocs
