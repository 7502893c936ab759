import CommandDocs.Bundle
import CommandDocs.Proofs.Text.Strict
import CommandDocs.Proofs.Workspace.Running
import Mathlib.Data.List.Forall2

/-!
# The parts of a bundle

Finding the sources and reading them changes nothing but the log.  The parts follow from the
bytes of the sources: each source gives one part, unless it is no text without its mark, and the
first such source is the one that is named.
-/

namespace CommandDocs

open Files (Path Bytes Location)

variable {η α β : Type}

/-! ## Activities that only look at files -/

/-- An activity that changes at most the log, and whose failures are of some kinds alone. -/
structure Act.OnlyLooks (kind : Failure → Prop) (act : Act η α) : Prop where
  unchanged : ∀ w, ∃ log, (act.run w).2 = { w with log }
  fails : ∀ w failure, (act.run w).1 = .error failure → kind failure

namespace Act.OnlyLooks

variable {kind : Failure → Prop}

theorem pure (value : α) : OnlyLooks kind (Pure.pure value : Act η α) where
  unchanged w := ⟨w.log, rfl⟩
  fails w failure failed := by cases failed

theorem throw {failure : Failure} (own : kind failure) :
    OnlyLooks kind (MonadExcept.throw failure : Act η α) where
  unchanged w := ⟨w.log, rfl⟩
  fails w other failed := by
    cases failed
    exact own

theorem note (level : Level) (text : String) : OnlyLooks kind (Act.note level text : Act η Unit) where
  unchanged w := ⟨_, rfl⟩
  fails w failure failed := by cases failed

theorem inspect {question : Files.Store → Location → Except Files.Fault α}
    (own : ∀ fault, kind (.file fault)) : OnlyLooks kind (Act.inspect question : Act η α) where
  unchanged w := ⟨w.log, by rw [run_inspect]⟩
  fails w failure failed := by
    rw [run_inspect] at failed
    cases asked : question w.store w.here with
    | ok value =>
        rw [asked] at failed
        cases failed
    | error fault =>
        rw [asked] at failed
        cases failed
        exact own fault

theorem bind {act : Act η α} {next : α → Act η β} (first : OnlyLooks kind act)
    (second : ∀ value, OnlyLooks kind (next value)) : OnlyLooks kind (act >>= next) where
  unchanged w := by
    obtain ⟨log, same⟩ := first.unchanged w
    rw [run_bind]
    cases ran : act.run w with
    | mk outcome after =>
        rw [ran] at same
        cases outcome with
        | error failure => exact ⟨log, same⟩
        | ok value =>
            obtain ⟨last, ended⟩ := (second value).unchanged after
            refine ⟨last, ended.trans ?_⟩
            rw [show after = { w with log } from same]
  fails w failure failed := by
    rw [run_bind] at failed
    cases ran : act.run w with
    | mk outcome after =>
        rw [ran] at failed
        cases outcome with
        | error found =>
            cases failed
            exact first.fails w failure (by rw [ran])
        | ok value => exact (second value).fails after failure failed

end Act.OnlyLooks

/-- Why the sources of a directory cannot be listed. -/
inductive IsListingFault : Failure → Prop
  | badPattern : IsListingFault .badPattern
  | file (fault : Files.Fault) : IsListingFault (.file fault)

theorem onlyLooks_selectFiles (selection : Selection) (paths : List Path) :
    Act.OnlyLooks IsListingFault (selectFiles selection paths : Act η (List Path)) := by
  induction paths with
  | nil => exact .pure _
  | cons p rest ih =>
      unfold selectFiles
      refine .bind (.inspect .file) fun isFile => ?_
      split
      · split
        · exact .bind (.note _ _) fun _ => ih
        · exact .bind ih fun _ => .pure _
      · exact ih

theorem onlyLooks_listSources (dir : Path) (selection : Selection) :
    Act.OnlyLooks IsListingFault (listSources dir selection : Act η (List Path)) := by
  unfold listSources
  split
  · exact .throw .badPattern
  · exact .bind (.inspect .file) fun found => onlyLooks_selectFiles selection _

/-! ## One part -/

/-- What comes of reading one source, given the files. -/
def partAt (s : Files.Store) (here : Location) (p : Path) : Except Failure Part :=
  match s.read here p with
  | .ok bytes => partOf p bytes
  | .error fault => .error (.file fault)

/-- The part that a source makes: its digest is that of all its bytes, and its text is encoded to
its bytes without the mark. -/
def IsPart (s : Files.Store) (here : Location) (p : Path) (part : Part) : Prop :=
  ∃ bytes text, s.read here p = .ok bytes ∧ Text.Utf8.encode text = Text.Utf8.dropMark bytes ∧
    part = ⟨p, Digest.hexDigest bytes, String.ofList text⟩

theorem partOf_eq_ok_iff {p : Path} {bytes : Bytes} {part : Part} :
    partOf p bytes = .ok part ↔ ∃ text, Text.Utf8.encode text = Text.Utf8.dropMark bytes ∧
      part = ⟨p, Digest.hexDigest bytes, String.ofList text⟩ := by
  unfold partOf Text.decodeMarked Text.decodeText
  cases read : Text.Utf8.decode (Text.Utf8.dropMark bytes) with
  | error fault =>
      simp only [reduceCtorEq, false_iff]
      rintro ⟨text, same, _⟩
      rw [Text.Utf8.decode_eq_ok_iff.mpr same] at read
      cases read
  | ok text =>
      have same := Text.Utf8.decode_eq_ok_iff.mp read
      constructor
      · intro made
        cases made
        exact ⟨text, same, rfl⟩
      · rintro ⟨other, again, rfl⟩
        rw [Text.Utf8.decode_eq_ok_iff.mpr again] at read
        cases read
        rfl

theorem partOf_eq_error_iff {p : Path} {bytes : Bytes} {failure : Failure} :
    partOf p bytes = .error failure ↔
      ¬Text.Utf8.WellFormed (Text.Utf8.dropMark bytes) ∧ failure = .undecodableScript p.text := by
  rw [← Text.Utf8.exists_decode_eq_error_iff]
  unfold partOf Text.decodeMarked Text.decodeText
  cases Text.Utf8.decode (Text.Utf8.dropMark bytes) <;> simp [eq_comm]

theorem partAt_eq_ok_iff {s : Files.Store} {here : Location} {p : Path} {part : Part} :
    partAt s here p = .ok part ↔ IsPart s here p part := by
  unfold partAt IsPart
  cases s.read here p with
  | error fault => simp
  | ok bytes => simp [partOf_eq_ok_iff]

/-- A source fails because it cannot be read or because it is no text. -/
theorem partAt_eq_error_iff {s : Files.Store} {here : Location} {p : Path} {failure : Failure} :
    partAt s here p = .error failure ↔
      (∃ fault, s.read here p = .error fault ∧ failure = .file fault) ∨
      ∃ bytes, s.read here p = .ok bytes ∧
        ¬Text.Utf8.WellFormed (Text.Utf8.dropMark bytes) ∧
        failure = .undecodableScript p.text := by
  unfold partAt
  cases s.read here p with
  | error fault => simp [eq_comm]
  | ok bytes => simp [partOf_eq_error_iff]

/-! ## All parts -/

/-- What comes of reading some sources in order, given the files. -/
def partsIn (s : Files.Store) (here : Location) : List Path → Except Failure (List Part)
  | [] => .ok []
  | p :: rest =>
      match partAt s here p with
      | .error failure => .error failure
      | .ok part => (partsIn s here rest).map (part :: ·)

/-- Reading the sources changes nothing. -/
theorem run_readParts (paths : List Path) (w : Workspace η) :
    (readParts paths).run w = (partsIn w.store w.here paths, w) := by
  induction paths with
  | nil => rfl
  | cons p rest ih =>
      have looked := Act.run_read p w
      unfold readParts
      rw [partsIn]
      cases found : w.store.read w.here p with
      | error fault =>
          have given : partAt w.store w.here p = .error (.file fault) := by rw [partAt, found]
          rw [found] at looked
          rw [given]
          exact run_bind_of_error looked
      | ok bytes =>
          have given : partAt w.store w.here p = partOf p bytes := by rw [partAt, found]
          have made := Act.run_ofExcept (partOf p bytes) w
          rw [found] at looked
          rw [given]
          refine (run_bind_of_ok looked).trans ?_
          cases same : partOf p bytes with
          | error failure =>
              rw [same] at made
              exact run_bind_of_error made
          | ok part =>
              rw [same] at made
              refine (run_bind_of_ok made).trans ?_
              rw [run_bind_pure, ih]

/-- The sources make their parts one by one. -/
theorem partsIn_eq_ok_iff {s : Files.Store} {here : Location} {paths : List Path}
    {parts : List Part} :
    partsIn s here paths = .ok parts ↔ List.Forall₂ (IsPart s here) paths parts := by
  induction paths generalizing parts with
  | nil =>
      rw [List.forall₂_nil_left_iff, partsIn, Except.ok.injEq]
      exact eq_comm
  | cons p rest ih =>
      rw [List.forall₂_cons_left_iff, partsIn]
      cases made : partAt s here p with
      | error failure =>
          simp only [reduceCtorEq, false_iff]
          rintro ⟨part, more, own, _⟩
          rw [partAt_eq_ok_iff.mpr own] at made
          cases made
      | ok part =>
          have own := partAt_eq_ok_iff.mp made
          constructor
          · intro whole
            cases found : partsIn s here rest with
            | error failure =>
                rw [found] at whole
                cases whole
            | ok more =>
                rw [found] at whole
                cases whole
                exact ⟨part, more, own, ih.mp found, rfl⟩
          · rintro ⟨other, more, same, others, rfl⟩
            rw [ih.mpr others]
            rw [partAt_eq_ok_iff.mpr same] at made
            cases made
            rfl

/-- The first source that fails is the one that counts. -/
theorem partsIn_eq_error_iff {s : Files.Store} {here : Location} {paths : List Path}
    {failure : Failure} :
    partsIn s here paths = .error failure ↔ ∃ before p after parts, paths = before ++ p :: after ∧
      List.Forall₂ (IsPart s here) before parts ∧ partAt s here p = .error failure := by
  induction paths with
  | nil => simp [partsIn]
  | cons p rest ih =>
      rw [partsIn]
      cases made : partAt s here p with
      | error found =>
          constructor
          · intro failed
            cases failed
            exact ⟨[], p, rest, [], rfl, .nil, made⟩
          · rintro ⟨before, q, after, parts, same, good, bad⟩
            cases before with
            | nil =>
                cases same
                rw [made] at bad
                cases bad
                rfl
            | cons first before =>
                cases same
                cases good with
                | cons own others =>
                    rw [partAt_eq_ok_iff.mpr own] at made
                    cases made
      | ok part =>
          have own := partAt_eq_ok_iff.mp made
          constructor
          · intro failed
            cases found : partsIn s here rest with
            | ok more =>
                rw [found] at failed
                cases failed
            | error other =>
                rw [found] at failed
                cases failed
                obtain ⟨before, q, after, parts, rfl, good, bad⟩ := ih.mp found
                exact ⟨p :: before, q, after, part :: parts, rfl, .cons own good, bad⟩
          · rintro ⟨before, q, after, parts, same, good, bad⟩
            cases before with
            | nil =>
                cases same
                rw [made] at bad
                cases bad
            | cons first before =>
                cases same
                cases good with
                | cons _ others => rw [ih.mpr ⟨before, q, after, _, rfl, others, bad⟩]; rfl

end CommandDocs
