import CommandDocs.Proofs.Bundle.Exact
import CommandDocs.Proofs.Bundle.Listing
import CommandDocs.Proofs.Files.Searching

/-!
# Bundling again

A bundle that has been written can meet the next search for the sources.  When it does not, or when
its bytes stood in their place before, bundling again gives the same bundle and changes no file.
Otherwise it gives another bundle, unless two texts have one digest.
-/

namespace CommandDocs

open Files (Path Bytes Location Store SearchPattern)

variable {η : Type}

/-! ## Listing in a grown tree -/

/-- Whether a search for the sources meets the file at a location: it finds a path that leads there,
and does not leave it out, or cannot because the path is too long. -/
def Files.Store.Meets (s : Store) (here : Location) (dir : Path) (selection : Selection)
    (location : Location) : Prop :=
  ∃ pattern found p, selection.pattern? = some pattern ∧ s.search here dir pattern = .ok found ∧
    p ∈ found ∧ s.follow here p = .ok location ∧ (selection.LeavesOut p.name → ¬p.IsShort)

section Put

variable {s : Store} {here location : Location} {bytes : Bytes} {dir : Path}
  {selection : Selection} {paths : List Path}
  (tree : s.IsTree) (reached : s.Reached location) (free : s.at? location ≠ some .directory)
include tree reached free

/-- What a search finds besides leads to the file that was put. -/
theorem follow_of_fresh {pattern : SearchPattern} {found : List Path}
    (ran : (s.put location (.file bytes)).search here dir pattern = .ok found) {p : Path}
    (member : p ∈ found) (fresh : s.stands here p = false) :
    (s.put location (.file bytes)).follow here p = .ok location := by
  have grown := Store.grown_put tree reached free bytes
  obtain ⟨place, entry, led, there⟩ :=
    Store.stands_eq_true_iff.mp (Store.stands_of_mem_search grown.after ran p member)
  by_cases same : place = location
  · rwa [same] at led
  · have back : s.follow here p = .ok place :=
      Store.walk_eq_ok_of_keepsDirectories grown.directories.symm.keeps led
    rw [Store.at?_put_of_ne s same] at there
    rw [Store.stands_of_follow back, there] at fresh
    cases fresh

variable (first : sourcesIn s here dir selection = .ok paths)
include first

/-- A file that the search does not meet leaves the listing as it is. -/
theorem sourcesIn_put_of_not_meets
    (missed : ¬(s.put location (.file bytes)).Meets here dir selection location) :
    sourcesIn (s.put location (.file bytes)) here dir selection = .ok paths := by
  have grown := Store.grown_put tree reached free bytes
  obtain ⟨pattern, found, written, ran, answers, rfl⟩ := sourcesIn_eq_ok_iff_found.mp first
  obtain ⟨more, again, rfl⟩ := grown.search ran
  -- A new path is short and left out, or else the search would meet the file.
  have fresh : ∀ p ∈ more, s.stands here p = false → selection.LeavesOut p.name ∧ p.IsShort := by
    intro p member new
    have led := follow_of_fresh tree reached free again member new
    by_contra other
    exact missed
      ⟨pattern, more, p, written, again, member, led, fun out short => other ⟨out, short⟩⟩
  have kept : ∀ p ∈ more, isKept (s.put location (.file bytes)) here selection p =
      (isKept s here selection p && s.stands here p) := by
    intro p member
    cases standing : s.stands here p with
    | true => rw [isKept, isKept, grown.isFile_of_stands standing, Bool.and_true]
    | false =>
        have out := selection.excludes_iff.mpr (fresh p member standing).1
        rw [isKept, out, Bool.not_true, Bool.and_false, Bool.and_false]
  refine sourcesIn_eq_ok_iff_found.mpr ⟨pattern, more, written, again, fun p member => ?_, ?_⟩
  · cases standing : s.stands here p with
    | true =>
        rw [grown.isFile_of_stands standing]
        exact answers p (List.mem_filter.mpr ⟨member, standing⟩)
    | false =>
        obtain ⟨place, entry, led, there⟩ :=
          Store.stands_eq_true_iff.mp (Store.stands_of_mem_search grown.after again p member)
        rw [Store.isFile_of_follow grown.after led there, if_pos (fresh p member standing).2]
        exact ⟨_, rfl⟩
  · rw [← Text.filter_mergeSort_key listingOrder_iff, List.filter_filter]
    exact (List.filter_congr fun p member => kept p (List.mem_mergeSort.mp member)).symm

omit first in
/-- A file that was there already was met by the search before. -/
theorem meets_of_put {pattern : SearchPattern} {found : List Path} {old : Bytes}
    (written : selection.pattern? = some pattern) (ran : s.search here dir pattern = .ok found)
    (before : s.at? location = some (.file old))
    (met : (s.put location (.file bytes)).Meets here dir selection location) :
    s.Meets here dir selection location := by
  have grown := Store.grown_put tree reached free bytes
  obtain ⟨again, more, p, same, searched, member, led, out⟩ := met
  rw [written] at same
  cases same
  obtain ⟨others, searchedToo, rfl⟩ := grown.search ran
  rw [searched] at searchedToo
  cases searchedToo
  have back : s.follow here p = .ok location :=
    Store.walk_eq_ok_of_keepsDirectories grown.directories.symm.keeps led
  have standing : s.stands here p = true := by rw [Store.stands_of_follow back, before]; rfl
  exact ⟨pattern, _, p, written, ran, List.mem_filter.mpr ⟨member, standing⟩, back, out⟩

omit reached free in
theorem exists_source_of_meets (there : s.at? location = some (.file bytes))
    (met : s.Meets here dir selection location) :
    ∃ p ∈ paths, s.locate here p = .ok location := by
  obtain ⟨pattern, found, written, ran, answers, rfl⟩ := sourcesIn_eq_ok_iff_found.mp first
  obtain ⟨again, more, p, same, searched, member, led, out⟩ := met
  rw [written] at same
  cases same
  rw [ran] at searched
  cases searched
  have asked := Store.isFile_of_follow tree led there
  have short : p.IsShort := by
    by_contra long
    obtain ⟨answer, given⟩ := answers p member
    rw [asked, if_neg long] at given
    cases given
  rw [if_pos short] at asked
  refine ⟨p, List.mem_filter.mpr ⟨List.mem_mergeSort.mpr member, ?_⟩, ?_⟩
  · have chosen : selection.excludes p.name = false := by
      rw [← Bool.not_eq_true, selection.excludes_iff]
      exact fun left => out left short
    rw [isKept, asked, chosen]
    rfl
  · rw [Store.locate_of_follow tree led there, if_pos short]

/-- A file that was not there and is met by the search changes the listing. -/
theorem sourcesIn_ne_of_meets (vacant : s.at? location = none)
    (met : (s.put location (.file bytes)).Meets here dir selection location) :
    sourcesIn (s.put location (.file bytes)) here dir selection ≠ .ok paths := by
  intro second
  have grown := Store.grown_put tree reached free bytes
  have below : location ≠ [] := fun root => free (by rw [root]; rfl)
  obtain ⟨p, member, led⟩ :=
    exists_source_of_meets grown.after second (Store.at?_put_self s below _) met
  obtain ⟨pattern, found, written, ran, answers, rfl⟩ := sourcesIn_eq_ok_iff_found.mp first
  have standing := Store.stands_of_mem_search tree ran p
    (List.mem_mergeSort.mp (List.mem_filter.mp member).1)
  have back : s.follow here p = .ok location :=
    Store.walk_eq_ok_of_keepsDirectories grown.directories.symm.keeps (Store.follow_of_locate led)
  rw [Store.stands_of_follow back, vacant] at standing
  cases standing

/-- Sources that the search does not meet in the file are read as before. -/
theorem read_put_of_not_meets
    (missed : ¬(s.put location (.file bytes)).Meets here dir selection location) :
    ∀ p ∈ paths, ∀ held, s.read here p = .ok held →
      (s.put location (.file bytes)).read here p = .ok held := by
  have grown := Store.grown_put tree reached free bytes
  obtain ⟨pattern, found, written, ran, _, rfl⟩ := sourcesIn_eq_ok_iff_found.mp first
  obtain ⟨more, again, rfl⟩ := grown.search ran
  intro p member held read
  obtain ⟨kept, chosen⟩ := List.mem_filter.mp member
  obtain ⟨place, led, standing⟩ := Store.read_eq_ok_iff.mp read
  by_cases same : place = location
  · have out : ¬selection.LeavesOut p.name := by
      rw [isKept, Bool.and_eq_true, Bool.not_eq_true', ← Bool.not_eq_true,
        selection.excludes_iff] at chosen
      exact chosen.2
    rw [same] at led
    exact absurd ⟨pattern, more, p, written, again,
      (List.mem_filter.mp (List.mem_mergeSort.mp kept)).1,
      Store.follow_of_locate (grown.locate led), fun left => absurd left out⟩ missed
  · exact Store.read_eq_ok_iff.mpr
      ⟨place, grown.locate led, by rwa [Store.at?_put_of_ne s same]⟩

end Put

/-! ## Bundling again -/

/-- Sources that are read as before make the parts they made. -/
theorem isPart_of_read {s t : Store} {here : Location} {paths : List Path} {parts : List Part}
    (made : List.Forall₂ (IsPart s here) paths parts)
    (same : ∀ p ∈ paths, ∀ held, s.read here p = .ok held → t.read here p = .ok held) :
    List.Forall₂ (IsPart t here) paths parts := by
  induction made with
  | nil => exact .nil
  | cons own rest ih =>
      obtain ⟨first, others⟩ := List.forall_mem_cons.mp same
      obtain ⟨bytes, text, read, encoded, part⟩ := own
      exact .cons ⟨bytes, text, first bytes read, encoded, part⟩ (ih others)

/-- Whether the next search for the sources meets a bundle that changed the file in its place. -/
def Bundle.IsMet (bundle : Bundle) (before after : Workspace η) (source : Path)
    (selection : Selection) : Prop :=
  ∃ location, before.store.locate before.here bundle.output = .ok location ∧
    before.store.at? location ≠ after.store.at? location ∧
    after.store.Meets after.here source selection location

section Again

variable {w after : Workspace η} {module extension : String} {source output : Path}
  {selection : Selection} {bundle : Bundle}

theorem exists_put_of_run_writeBundle_ok
    (ran : (writeBundle module source output selection extension).run w = (.ok bundle, after)) :
    w.store.isDirectory w.here source = .ok true ∧ w.store.isDirectory w.here output = .ok true ∧
      sourcesIn w.store w.here source selection = .ok bundle.sources ∧
      List.Forall₂ (IsPart w.store w.here) bundle.sources bundle.parts ∧
      bundle.output = bundlePath output module extension ∧ after.here = w.here ∧
      ∃ location, w.store.locate w.here bundle.output = .ok location ∧
        w.store.at? location ≠ some .directory ∧
        after.store = w.store.put location (.file (Text.encodeText bundle.content)) := by
  obtain ⟨thereSource, later⟩ := run_of_required ran
  obtain ⟨thereOutput, _⟩ := run_of_required later
  obtain ⟨paths, parts, store, log, listed, made, rfl, written, rfl⟩ :=
    exists_of_run_writeBundle_ok ran
  have sources : (Bundle.mk (bundlePath output module extension) parts).sources = paths :=
    map_path_of_isPart made
  obtain ⟨location, led, free, rfl⟩ := Store.write_eq_ok_iff.mp written
  rw [sources, ← run_listSources, listed]
  exact ⟨thereSource, thereOutput, rfl, made, rfl, rfl, location, led, free, rfl⟩

/-- The file of a bundle that has been written in a tree. -/
theorem at?_of_put (location : Location) (free : w.store.at? location ≠ some .directory)
    (stored : after.store = w.store.put location (.file (Text.encodeText bundle.content))) :
    location ≠ [] ∧ after.store.at? location = some (.file (Text.encodeText bundle.content)) := by
  have below : location ≠ [] := fun root => free (by rw [root]; rfl)
  exact ⟨below, by rw [stored, Store.at?_put_self _ below]⟩

theorem exists_again_of_same (tree : w.store.IsTree) (reached : w.store.Reached w.here)
    (ran : (writeBundle module source output selection extension).run w = (.ok bundle, after))
    (listed : sourcesIn after.store after.here source selection = .ok bundle.sources)
    (made : List.Forall₂ (IsPart after.store after.here) bundle.sources bundle.parts) :
    ∃ again, (writeBundle module source output selection extension).run after =
      (.ok bundle, again) ∧ again.store = after.store := by
  obtain ⟨thereSource, thereOutput, -, -, target, here, location, led, free, stored⟩ :=
    exists_put_of_run_writeBundle_ok ran
  have grown := Store.grown_put tree (reached.of_locate led) free (Text.encodeText bundle.content)
  rw [← stored] at grown
  obtain ⟨below, standing⟩ := at?_of_put location free stored
  obtain ⟨place, parts⟩ := bundle
  dsimp only at target
  subst target
  have written : after.store.write after.here (bundlePath output module extension)
      (Text.encodeText (Bundle.mk (bundlePath output module extension) parts).content) =
        .ok after.store := by
    refine Store.write_eq_ok_iff.mpr ⟨location, ?_, by rw [standing]; simp, ?_⟩
    · rw [here]
      exact grown.locate led
    · exact (Store.put_of_at? grown.after.distinct below standing).symm
  obtain ⟨log, unchanged⟩ := (onlyLooks_listSources source selection).unchanged after
  have first : (listSources source selection).run after = (.ok _, { after with log }) :=
    Prod.ext ((run_listSources source selection after).trans listed) unchanged
  rw [← grown.isDirectory, ← here] at thereSource thereOutput
  exact ⟨_, run_writeBundle_of_parts thereSource thereOutput first (partsIn_eq_ok_iff.mpr made)
    written, rfl⟩

section Tree

variable (tree : w.store.IsTree) (reached : w.store.Reached w.here)
  (ran : (writeBundle module source output selection extension).run w = (.ok bundle, after))
include tree reached ran

/-- A bundle that the next search does not meet, or that has changed nothing, is made again. -/
theorem exists_again_of_not_isMet (missed : ¬bundle.IsMet w after source selection) :
    ∃ again, (writeBundle module source output selection extension).run after =
      (.ok bundle, again) ∧ again.store = after.store := by
  obtain ⟨-, -, listed, made, -, here, location, led, free, stored⟩ :=
    exists_put_of_run_writeBundle_ok ran
  obtain ⟨below, standing⟩ := at?_of_put location free stored
  have above := reached.of_locate led
  by_cases same : w.store.at? location = after.store.at? location
  · rw [standing] at same
    rw [Store.put_of_at? tree.distinct below same] at stored
    refine exists_again_of_same tree reached ran ?_ ?_
    · rwa [here, stored]
    · rwa [here, stored]
  · have apart : ¬(w.store.put location (.file (Text.encodeText bundle.content))).Meets w.here
        source selection location := by
      rw [← stored, ← here]
      exact fun met => missed ⟨location, led, same, met⟩
    refine exists_again_of_same tree reached ran ?_ ?_
    · rw [here, stored]
      exact sourcesIn_put_of_not_meets tree above free listed apart
    · rw [here, stored]
      exact isPart_of_read made (read_put_of_not_meets tree above free listed apart)

/-- When the next search meets a bundle that has changed the file in its place, that file is a
source, and a second bundle that is the same has the digest of the old bytes for the new ones. -/
theorem exists_collision_of_isMet (met : bundle.IsMet w after source selection)
    {again : Workspace η}
    (second : (writeBundle module source output selection extension).run after =
      (.ok bundle, again)) :
    ∃ p ∈ bundle.sources, ∃ old new, w.store.read w.here p = .ok old ∧
      after.store.read after.here p = .ok new ∧ old ≠ new ∧
      Digest.hexDigest old = Digest.hexDigest new := by
  obtain ⟨-, -, listed, made, -, here, location, led, free, stored⟩ :=
    exists_put_of_run_writeBundle_ok ran
  obtain ⟨-, -, listedAgain, madeAgain, -⟩ := exists_put_of_run_writeBundle_ok second
  obtain ⟨below, standing⟩ := at?_of_put location free stored
  have above := reached.of_locate led
  obtain ⟨place, found, changed, met⟩ := met
  obtain rfl : place = location := Except.ok.inj (found.symm.trans led)
  rw [here, stored] at met listedAgain madeAgain
  cases before : w.store.at? place with
  | none => exact absurd listedAgain (sourcesIn_ne_of_meets tree above free listed before met)
  | some entry =>
      cases entry with
      | directory => exact absurd before free
      | file old =>
          obtain ⟨pattern, found, written, ran, -⟩ := sourcesIn_eq_ok_iff_found.mp listed
          have metBefore := meets_of_put tree above free written ran before met
          obtain ⟨p, member, ledOld⟩ := exists_source_of_meets tree listed before metBefore
          have grown := Store.grown_put tree above free (Text.encodeText bundle.content)
          have readOld : w.store.read w.here p = .ok old :=
            Store.read_eq_ok_iff.mpr ⟨place, ledOld, before⟩
          have readNew := Store.read_eq_ok_iff.mpr
            ⟨place, grown.locate ledOld, Store.at?_put_self w.store below _⟩
          have digest := (mem_hashes_of_isPart made bundle.output p (Digest.hexDigest old)).mpr
            ⟨member, old, readOld, rfl⟩
          obtain ⟨-, new, readAgain, collides⟩ :=
            (mem_hashes_of_isPart madeAgain bundle.output p _).mp digest
          rw [readNew] at readAgain
          cases readAgain
          refine ⟨p, member, old, _, readOld, by rw [here, stored]; exact readNew, ?_, collides⟩
          rintro rfl
          exact changed (before.trans standing.symm)

end Tree

/-- Bundling again gives the same bundle and changes no file, unless the next search for the sources
meets the bundle and the bundle changed the file in its place.  Then bundling again can give the
same bundle only if that file is a source and its old and its new bytes have one digest. -/
theorem writeBundle_again (tree : w.store.IsTree) (reached : w.store.Reached w.here)
    (ran : (writeBundle module source output selection extension).run w = (.ok bundle, after)) :
    (¬bundle.IsMet w after source selection →
      ∃ again, (writeBundle module source output selection extension).run after =
        (.ok bundle, again) ∧ again.store = after.store) ∧
    (bundle.IsMet w after source selection → ∀ again,
      (writeBundle module source output selection extension).run after = (.ok bundle, again) →
      ∃ p ∈ bundle.sources, ∃ old new, w.store.read w.here p = .ok old ∧
        after.store.read after.here p = .ok new ∧ old ≠ new ∧
        Digest.hexDigest old = Digest.hexDigest new) :=
  ⟨exists_again_of_not_isMet tree reached ran,
    fun met _ second => exists_collision_of_isMet tree reached ran met second⟩

end Again

/-! ## A bundle among its sources -/

def scriptPath : Path := ⟨.here, ["src", "a.ps1"]⟩

def besidePath : Path := ⟨.here, ["src", "b.ps1"]⟩

theorem sourcesIn_oneScript :
    sourcesIn oneScript.store oneScript.here ⟨.here, ["src"]⟩ {} = .ok [scriptPath] := by
  have led : oneScript.store.locate oneScript.here ⟨.here, ["src"]⟩ = .ok ["src"] :=
    Store.locate_of_walk (by decide) (by decide) rfl
  have own : oneScript.store.locate oneScript.here scriptPath = .ok ["src", "a.ps1"] :=
    Store.locate_of_walk (by decide) (by decide) rfl
  have asked : oneScript.store.isFile oneScript.here scriptPath = .ok true := by
    rw [Store.isFile, Store.probe_of_locate own]
    rfl
  have kept : isKept oneScript.store oneScript.here {} scriptPath = true := by
    rw [isKept, asked]
    rfl
  refine sourcesIn_eq_ok_iff_found.mpr ⟨⟨[.wildcard "*.ps1"], false⟩, [scriptPath], by decide,
    (search_wildcard led rfl _).trans rfl, ?_, ?_⟩
  · intro p member
    rw [List.mem_singleton.mp member]
    exact ⟨true, asked⟩
  · rw [List.mergeSort_singleton, List.filter_singleton, kept]
    rfl

/-- A bundle that is written beside the script is met by the next search. -/
theorem meets_oneScript (bytes : Bytes) :
    (oneScript.store.put ["src", "b.ps1"] (.file bytes)).Meets oneScript.here ⟨.here, ["src"]⟩ {}
      ["src", "b.ps1"] := by
  have led : (oneScript.store.put ["src", "b.ps1"] (.file bytes)).locate oneScript.here
      ⟨.here, ["src"]⟩ = .ok ["src"] :=
    Store.locate_of_walk (by decide) (by decide) rfl
  refine ⟨⟨[.wildcard "*.ps1"], false⟩, [scriptPath, besidePath], besidePath, by decide,
    (search_wildcard led rfl _).trans rfl, by simp, rfl, ?_⟩
  rintro ⟨pattern, given, _⟩
  cases given

/-- A bundle that is written among its sources is a source of the next one. -/
theorem not_again_oneScript :
    oneScript.store.IsTree ∧ oneScript.store.Reached oneScript.here ∧
      ∃ bundle after,
        (writeBundle "b" ⟨.here, ["src"]⟩ ⟨.here, ["src"]⟩ {} "ps1").run oneScript =
          (.ok bundle, after) ∧
        ¬∃ again, (writeBundle "b" ⟨.here, ["src"]⟩ ⟨.here, ["src"]⟩ {} "ps1").run after =
          (.ok bundle, again) := by
  have there : oneScript.store.isDirectory oneScript.here ⟨.here, ["src"]⟩ = .ok true :=
    Store.isDirectory_eq_true_iff.mpr
      ⟨["src"], Store.locate_of_walk (by decide) (by decide) rfl, rfl⟩
  have own : oneScript.store.locate oneScript.here scriptPath = .ok ["src", "a.ps1"] :=
    Store.locate_of_walk (by decide) (by decide) rfl
  have vacant : oneScript.store.at? ["src", "b.ps1"] = none := rfl
  have free : oneScript.store.at? ["src", "b.ps1"] ≠ some .directory := by rw [vacant]; simp
  have led : oneScript.store.locate oneScript.here besidePath = .ok ["src", "b.ps1"] :=
    Store.locate_of_walk (by decide) (by decide) rfl
  have target : bundlePath ⟨.here, ["src"]⟩ "b" "ps1" = besidePath := by decide
  have made : List.Forall₂ (IsPart oneScript.store oneScript.here) [scriptPath]
      [⟨scriptPath, Digest.hexDigest [], ""⟩] :=
    .cons ⟨[], [], Store.read_eq_ok_iff.mpr ⟨_, own, rfl⟩, rfl, rfl⟩ .nil
  obtain ⟨log, unchanged⟩ := (onlyLooks_listSources ⟨.here, ["src"]⟩ {}).unchanged oneScript
  have first : (writeBundle "b" ⟨.here, ["src"]⟩ ⟨.here, ["src"]⟩ {} "ps1").run oneScript = _ :=
    run_writeBundle_of_parts there there
      (Prod.ext ((run_listSources _ _ _).trans sourcesIn_oneScript) unchanged)
      (partsIn_eq_ok_iff.mpr made)
      (Store.write_eq_ok_iff.mpr ⟨_, by rw [target]; exact led, free, rfl⟩)
  refine ⟨isTree_oneScript, .root, _, _, first, ?_⟩
  rintro ⟨again, second⟩
  obtain ⟨-, -, listed, -⟩ := exists_put_of_run_writeBundle_ok second
  exact sourcesIn_ne_of_meets isTree_oneScript
    (Store.Reached.of_locate .root led) free sourcesIn_oneScript vacant (meets_oneScript _) listed

/-! ## A bundle beside its directory -/

section TwoScripts

variable (last : Bytes)

theorem isTree_twoScripts : (twoScripts last).store.IsTree where
  distinct := by
    have names : [["src"], ["out"], ["src", "a.ps1"], ["src", "b.ps1"]].Nodup := by decide
    exact names
  below := by simp [twoScripts, Store.locations]
  reached location member := by
    have name (own : String) (legal : Store.IsName own) (free : '\x00' ∉ own.toList) :
        Store.IsName own ∧ own.contains '\x00' = false :=
      ⟨legal, by rw [String.contains_char_eq, decide_eq_false free]⟩
    have top (own : String) (legal : Store.IsName own ∧ own.contains '\x00' = false) :
        (twoScripts last).store.Reached [own] :=
      Store.Reached.root.child rfl legal.1 legal.2
    have inside (own : String) (legal : Store.IsName own ∧ own.contains '\x00' = false) :
        (twoScripts last).store.Reached ["src", own] :=
      (top "src" (name _ (by decide) (by decide))).child rfl legal.1 legal.2
    simp only [twoScripts, Store.locations, List.map_cons, List.map_nil, List.mem_cons,
      List.not_mem_nil, or_false] at member
    rcases member with rfl | rfl | rfl | rfl
    · exact top _ (name _ (by decide) (by decide))
    · exact top _ (name _ (by decide) (by decide))
    · exact inside _ (name _ (by decide) (by decide))
    · exact inside _ (name _ (by decide) (by decide))

/-- A bundle in another directory is not met by the next search. -/
theorem not_meets_twoScripts (bytes : Bytes) :
    ¬((twoScripts last).store.put ["out", "M.psm1"] (.file bytes)).Meets [] ⟨.here, ["src"]⟩ {}
      ["out", "M.psm1"] := by
  rintro ⟨pattern, found, p, written, ran, member, led, -⟩
  have only : Selection.pattern? {} = some ⟨[.wildcard "*.ps1"], false⟩ := by decide
  rw [written, Option.some.injEq] at only
  have source : ((twoScripts last).store.put ["out", "M.psm1"] (.file bytes)).locate []
      ⟨.here, ["src"]⟩ = .ok ["src"] :=
    Store.locate_of_walk (by decide) (by decide) rfl
  have searched : ((twoScripts last).store.put ["out", "M.psm1"] (.file bytes)).search []
      ⟨.here, ["src"]⟩ ⟨[.wildcard "*.ps1"], false⟩ = .ok scriptPaths :=
    (search_wildcard source rfl _).trans rfl
  rw [only, searched] at ran
  cases ran
  simp only [scriptPaths, List.mem_cons, List.not_mem_nil, or_false] at member
  rcases member with rfl | rfl
  · have other : ((twoScripts last).store.put ["out", "M.psm1"] (.file bytes)).follow []
        ⟨.here, ["src", "a.ps1"]⟩ = .ok ["src", "a.ps1"] := rfl
    rw [other] at led
    exact absurd (Except.ok.inj led) (by decide)
  · have other : ((twoScripts last).store.put ["out", "M.psm1"] (.file bytes)).follow []
        ⟨.here, ["src", "b.ps1"]⟩ = .ok ["src", "b.ps1"] := rfl
    rw [other] at led
    exact absurd (Except.ok.inj led) (by decide)

end TwoScripts

theorem writeBundle_again_twoScripts :
    ∃ bundle after again,
      (writeBundle "M" ⟨.here, ["src"]⟩ ⟨.here, ["out"]⟩ {} "psm1").run (twoScripts [0x62]) =
        (.ok bundle, after) ∧
      (writeBundle "M" ⟨.here, ["src"]⟩ ⟨.here, ["out"]⟩ {} "psm1").run after =
        (.ok bundle, again) ∧ again.store = after.store := by
  obtain ⟨bundle, after, ran⟩ := exists_bundle_twoScripts
  obtain ⟨-, -, -, -, target, here, location, led, -, stored⟩ :=
    exists_put_of_run_writeBundle_ok ran
  have place : (twoScripts [0x62]).store.locate (twoScripts [0x62]).here
      (bundlePath ⟨.here, ["out"]⟩ "M" "psm1") = .ok ["out", "M.psm1"] :=
    Store.locate_of_walk (by decide) (by decide) rfl
  rw [target, place] at led
  cases led
  obtain ⟨same, -⟩ := writeBundle_again (isTree_twoScripts [0x62]) .root ran
  obtain ⟨again, second, kept⟩ := same <| by
    rintro ⟨location, found, -, met⟩
    rw [target, place] at found
    cases found
    rw [here, stored] at met
    exact not_meets_twoScripts [0x62] _ met
  exact ⟨bundle, after, again, ran, second, kept⟩

end CommandDocs
