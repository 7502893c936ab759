import CommandDocs.Proofs.Bundle.Parts
import CommandDocs.Proofs.Files.Trees
import CommandDocs.Proofs.Text.Order
import CommandDocs.Proofs.Text.Patterns

/-!
# The listing of the sources

The sources of a directory are the files directly in it whose names fit the scripts' pattern and
are not excluded.  They are listed strictly by their names, whatever order the entries stand in.
Every entry whose name fits is asked for by its path, so that there is no listing when one of these
paths is too long.
-/

namespace CommandDocs

open Files (Path Location Store)

variable {η : Type}

/-! ## Names of sources -/

/-- A pattern of one part holds a single wildcard, unless it has a double star. -/
theorem Files.SearchPattern.ofText?_of_flat {s : String} (flat : '/' ∉ s.toList)
    (special : Text.isWildcard s.toList = true) (other : s ≠ "**") :
    ofText? s = if hasDoubleStar s.toList then none else some ⟨[.wildcard s], false⟩ := by
  have kept : (s.toList != [] && s.toList != ['.']) = true := by
    rw [Bool.and_eq_true, bne_iff_ne, bne_iff_ne]
    constructor <;> intro same <;> rw [same] at special <;> cases special
  have parts : Path.partsOf s.toList = [s] := by
    rw [Path.partsOf, Text.splitAt_of_not_mem flat, List.filter_singleton, kept]
    simp
  have last : (s.toList.getLast? == some '/') = false :=
    beq_eq_false_iff_ne.mpr fun slash => flat (List.mem_of_getLast? slash)
  have named : (s == "**") = false := beq_eq_false_iff_ne.mpr other
  rw [ofText?, parts, last, List.mapM_cons, partOf?, named, special]
  cases hasDoubleStar s.toList <;> rfl

namespace Selection

variable (selection : Selection)

def Fits (name : String) : Prop :=
  Text.FitsPattern ("*." ++ selection.scriptExtension) name

/-- A name that is left out; an empty pattern leaves out none. -/
def LeavesOut (name : String) : Prop :=
  ∃ pattern, selection.exclude = some pattern ∧ pattern ≠ "" ∧ Text.FitsPattern pattern name

theorem excludes_iff {name : String} :
    selection.excludes name = true ↔ selection.LeavesOut name := by
  unfold excludes LeavesOut
  cases selection.exclude with
  | none => simp
  | some pattern => simp [Text.matchesPattern_iff]

variable {selection}

theorem pattern?_of_flat (flat : '/' ∉ selection.scriptExtension.toList)
    (accepted : selection.pattern? ≠ none) :
    selection.pattern? = some ⟨[.wildcard ("*." ++ selection.scriptExtension)], false⟩ := by
  have text : ("*." ++ selection.scriptExtension).toList =
      '*' :: '.' :: selection.scriptExtension.toList := by
    simp
  have shape : selection.pattern? = _ := Files.SearchPattern.ofText?_of_flat
    (by rw [text]; simpa using flat) (by rw [text]; rfl) (fun same => ?_)
  · rw [shape] at accepted ⊢
    split at accepted
    · exact absurd rfl accepted
    · rename_i single
      rw [if_neg single]
  · have letters := congrArg String.toList same
    rw [text] at letters
    cases letters

end Selection

/-! ## The listing as a function of the files -/

/-- Those of some paths that are files and not excluded, given the files. -/
def filesAmong (s : Store) (here : Location) (selection : Selection) :
    List Path → Except Failure (List Path)
  | [] => .ok []
  | p :: rest =>
      match s.isFile here p with
      | .error fault => .error (.file fault)
      | .ok answer =>
          (filesAmong s here selection rest).map fun others =>
            if answer && !selection.excludes p.name then p :: others else others

/-- The sources in a directory, given the files. -/
def sourcesIn (s : Store) (here : Location) (dir : Path) (selection : Selection) :
    Except Failure (List Path) :=
  match selection.pattern? with
  | none => .error .badPattern
  | some pattern =>
      match s.search here dir pattern with
      | .error fault => .error (.file fault)
      | .ok found => filesAmong s here selection (found.mergeSort listingOrder)

theorem run_selectFiles (selection : Selection) (paths : List Path) (w : Workspace η) :
    ((selectFiles selection paths).run w).1 = filesAmong w.store w.here selection paths := by
  induction paths generalizing w with
  | nil => rfl
  | cons p rest ih =>
      have asked : (Act.isFile p).run w = ((w.store.isFile w.here p).mapError .file, w) :=
        Act.run_inspect _ w
      have skipped (result : Except Failure (List Path)) : result.map (fun others => others) =
          result := by
        cases result <;> rfl
      unfold selectFiles
      rw [filesAmong]
      cases found : w.store.isFile w.here p with
      | error fault =>
          rw [found] at asked
          rw [run_bind_of_error asked]
      | ok answer =>
          rw [found] at asked
          rw [run_bind_of_ok asked]
          cases answer with
          | false => exact (ih w).trans (skipped _).symm
          | true =>
              cases selection.excludes p.name with
              | true => exact (ih _).trans (skipped _).symm
              | false =>
                  simp only [if_true, Bool.false_eq_true, if_false]
                  rw [run_bind_pure, ih]
                  rfl

theorem run_listSources (dir : Path) (selection : Selection) (w : Workspace η) :
    ((listSources dir selection).run w).1 = sourcesIn w.store w.here dir selection := by
  unfold listSources sourcesIn
  cases selection.pattern? with
  | none => rfl
  | some pattern =>
      have asked : (Act.inspect fun store here => store.search here dir pattern).run w =
          ((w.store.search w.here dir pattern).mapError .file, w) :=
        Act.run_inspect _ w
      dsimp only
      cases found : w.store.search w.here dir pattern with
      | error fault =>
          rw [found] at asked
          rw [run_bind_of_error asked]
      | ok paths =>
          rw [found] at asked
          rw [run_bind_of_ok asked]
          exact run_selectFiles selection _ w

/-! ## Files among paths -/

section Among

variable {s : Store} {here : Location} {selection : Selection} {paths : List Path}

/-- Whether a path is that of a file which is not excluded. -/
def isKept (s : Store) (here : Location) (selection : Selection) (p : Path) : Bool :=
  (s.isFile here p).toOption.getD false && !selection.excludes p.name

theorem filesAmong_eq_ok_iff {result : List Path} :
    filesAmong s here selection paths = .ok result ↔
      (∀ p ∈ paths, ∃ answer, s.isFile here p = .ok answer) ∧
        result = paths.filter (isKept s here selection) := by
  induction paths generalizing result with
  | nil => simp [filesAmong, eq_comm]
  | cons p rest ih =>
      rw [filesAmong, List.forall_mem_cons, List.filter_cons, isKept]
      cases found : s.isFile here p with
      | error fault => simp
      | ok answer =>
          cases later : filesAmong s here selection rest with
          | error failure =>
              have none : ¬∀ q ∈ rest, ∃ answer, s.isFile here q = .ok answer := fun answers => by
                rw [ih.mpr ⟨answers, rfl⟩] at later
                cases later
              refine iff_of_false (by simp [Except.map]) fun given => none given.1.2
          | ok others =>
              obtain ⟨answers, rfl⟩ := ih.mp later
              simp only [Except.map, Except.ok.injEq, Except.toOption, Option.getD_some]
              exact ⟨fun same => ⟨⟨⟨answer, rfl⟩, answers⟩, same.symm⟩, fun given => given.2.symm⟩

/-- A path that cannot be asked for is the one that is reported. -/
theorem exists_of_filesAmong_eq_error {failure : Failure}
    (failed : filesAmong s here selection paths = .error failure) :
    ∃ p ∈ paths, ∃ fault, s.isFile here p = .error fault ∧ failure = .file fault := by
  induction paths with
  | nil => cases failed
  | cons p rest ih =>
      rw [filesAmong] at failed
      cases found : s.isFile here p with
      | error fault =>
          rw [found] at failed
          cases failed
          exact ⟨p, List.mem_cons_self, fault, found, rfl⟩
      | ok answer =>
          rw [found] at failed
          cases later : filesAmong s here selection rest with
          | ok others =>
              rw [later] at failed
              cases failed
          | error other =>
              rw [later] at failed
              cases failed
              obtain ⟨q, member, reported⟩ := ih later
              exact ⟨q, List.mem_cons_of_mem p member, reported⟩

end Among

theorem sourcesIn_eq_ok_iff_found {s : Store} {here : Location} {dir : Path}
    {selection : Selection} {paths : List Path} :
    sourcesIn s here dir selection = .ok paths ↔ ∃ pattern found,
      selection.pattern? = some pattern ∧ s.search here dir pattern = .ok found ∧
        (∀ p ∈ found, ∃ answer, s.isFile here p = .ok answer) ∧
        paths = (found.mergeSort listingOrder).filter (isKept s here selection) := by
  unfold sourcesIn
  cases selection.pattern? with
  | none => simp
  | some pattern =>
      dsimp only
      cases ran : s.search here dir pattern with
      | error fault => simp [ran]
      | ok found => simp [ran, filesAmong_eq_ok_iff]

/-! ## What is listed -/

/-- What is a source: a file directly in a directory, under a name that fits the scripts' pattern
and is not left out. -/
def Files.Store.IsSource (s : Store) (here : Location) (dir : Path) (selection : Selection)
    (p : Path) : Prop :=
  ∃ location name bytes, s.locate here dir = .ok location ∧
    s.at? (location ++ [name]) = some (.file bytes) ∧ p = dir.entry name ∧
    selection.Fits name ∧ ¬selection.LeavesOut name

/-- A name in a directory that fits the scripts' pattern. -/
def Files.Store.HasScript (s : Store) (here : Location) (dir : Path) (selection : Selection)
    (name : String) : Prop :=
  selection.Fits name ∧ ∃ location entry, s.locate here dir = .ok location ∧
    s.at? (location ++ [name]) = some entry

/-- Paths in the strict order of a listing. -/
def IsListed (paths : List Path) : Prop :=
  paths.Pairwise fun p q => Text.listingKey p.name < Text.listingKey q.name

theorem IsListed.eq_of_mem_iff {paths other : List Path} (listed : IsListed paths)
    (sorted : IsListed other) (same : ∀ p, p ∈ paths ↔ p ∈ other) : paths = other :=
  Text.eq_of_strictly (fun p : Path => Text.listingKey p.name) listed sorted same

section Listed

variable {s : Store} {here location : Location} {dir : Path} {selection : Selection}

/-- The paths in a directory whose names fit the scripts' pattern. -/
def scriptsIn (s : Store) (location : Location) (dir : Path) (selection : Selection) : List Path :=
  ((s.names location).filter fun name =>
    Text.matchesPattern ("*." ++ selection.scriptExtension).toList name.toList).map dir.entry

theorem mem_scriptsIn_iff {p : Path} :
    p ∈ scriptsIn s location dir selection ↔ ∃ name entry, p = dir.entry name ∧
      selection.Fits name ∧ s.at? (location ++ [name]) = some entry := by
  simp only [scriptsIn, List.mem_map, List.mem_filter, Store.mem_names_iff, Text.matchesPattern_iff]
  constructor
  · rintro ⟨name, ⟨⟨entry, standing⟩, fits⟩, rfl⟩
    exact ⟨name, entry, rfl, fits, standing⟩
  · rintro ⟨name, entry, rfl, fits, standing⟩
    exact ⟨name, ⟨⟨entry, standing⟩, fits⟩, rfl⟩

theorem listingOrder_iff (p q : Path) :
    listingOrder p q = true ↔ Text.listingKey p.name ≤ Text.listingKey q.name :=
  Text.listingLe_iff

theorem isListed_mergeSort (tree : s.IsTree) :
    IsListed ((scriptsIn s location dir selection).mergeSort listingOrder) := by
  refine Text.strictly_mergeSort_key listingOrder_iff ?_
  rw [scriptsIn, List.map_map]
  refine ((tree.nodup_names location).filter _).map fun name other same => ?_
  simpa [Text.listingKey_inj] using same

variable (led : s.locate here dir = .ok location) (standing : s.at? location = some .directory)
include led standing

/-- A search for names in a directory finds those that fit. -/
theorem search_wildcard (pattern : String) :
    s.search here dir ⟨[.wildcard pattern], false⟩ =
      .ok (((s.names location).filter fun name =>
        Text.matchesPattern pattern.toList name.toList).map dir.entry) := by
  have there := Store.isDirectory_eq_true_iff.mpr ⟨location, led, standing⟩
  have singles (names : List String) : (names.mapM fun name =>
      (.ok [⟨dir.start, dir.parts ++ [name]⟩] : Except Files.Fault (List Path))) =
        .ok (names.map fun name => [dir.entry name]) :=
    List.mapM_pure
  have joined (names : List String) : (names.map fun name => [dir.entry name]).flatten =
      names.map dir.entry := by
    rw [← List.flatMap_def, ← List.map_eq_flatMap]
  rw [Store.search, there]
  simp only [Store.searchFrom, led, Except.mapError, bind, Except.bind, List.isEmpty_nil,
    Bool.not_false, Bool.and_self, if_true, singles, joined, pure, Except.pure]

variable (flat : '/' ∉ selection.scriptExtension.toList) (accepted : selection.pattern? ≠ none)
include flat accepted

theorem sourcesIn_eq_filesAmong :
    sourcesIn s here dir selection = filesAmong s here selection
      ((scriptsIn s location dir selection).mergeSort listingOrder) := by
  rw [sourcesIn, Selection.pattern?_of_flat flat accepted]
  dsimp only
  rw [search_wildcard led standing]
  rfl

variable (tree : s.IsTree)
include tree

omit standing flat accepted in
/-- Only a short path can be asked for. -/
theorem isFile_entry {name : String} {entry : Files.Entry}
    (there : s.at? (location ++ [name]) = some entry) :
    s.isFile here (dir.entry name) = if (dir.entry name).IsShort then .ok entry.isFile
      else .error ⟨.nameTooLong, (dir.entry name).text⟩ :=
  Store.isFile_of_follow tree (Store.follow_entry tree (Store.follow_of_locate led) there) there

omit standing flat accepted in
/-- The scripts can all be asked for exactly when their paths are short. -/
theorem answers_iff :
    (∀ p ∈ (scriptsIn s location dir selection).mergeSort listingOrder,
      ∃ answer, s.isFile here p = .ok answer) ↔
      ∀ name, s.HasScript here dir selection name → (dir.entry name).IsShort := by
  constructor
  · rintro answers name ⟨fits, place, entry, found, there⟩
    rw [led] at found
    cases found
    obtain ⟨answer, asked⟩ := answers (dir.entry name)
      (List.mem_mergeSort.mpr (mem_scriptsIn_iff.mpr ⟨name, entry, rfl, fits, there⟩))
    by_contra long
    rw [isFile_entry led tree there, if_neg long] at asked
    cases asked
  · intro short p member
    obtain ⟨name, entry, rfl, fits, there⟩ := mem_scriptsIn_iff.mp (List.mem_mergeSort.mp member)
    refine ⟨entry.isFile, ?_⟩
    rw [isFile_entry led tree there, if_pos (short name ⟨fits, location, entry, led, there⟩)]

omit standing flat accepted in
/-- Of the scripts those are kept that are sources. -/
theorem mem_filter_isKept_iff
    (short : ∀ name, s.HasScript here dir selection name → (dir.entry name).IsShort) {p : Path} :
    p ∈ ((scriptsIn s location dir selection).mergeSort listingOrder).filter
      (isKept s here selection) ↔ s.IsSource here dir selection p := by
  rw [List.mem_filter, List.mem_mergeSort, mem_scriptsIn_iff]
  constructor
  · rintro ⟨⟨name, entry, rfl, fits, there⟩, kept⟩
    have brief := short name ⟨fits, location, entry, led, there⟩
    rw [isKept, isFile_entry led tree there, if_pos brief, Bool.and_eq_true, Bool.not_eq_true',
      Path.name_entry, ← Bool.not_eq_true, Selection.excludes_iff] at kept
    cases entry with
    | directory => cases kept.1
    | file bytes => exact ⟨location, name, bytes, led, there, rfl, fits, kept.2⟩
  · rintro ⟨place, name, bytes, found, there, rfl, fits, chosen⟩
    rw [led] at found
    cases found
    have brief := short name ⟨fits, location, _, led, there⟩
    refine ⟨⟨name, _, rfl, fits, there⟩, ?_⟩
    rw [isKept, isFile_entry led tree there, if_pos brief, Bool.and_eq_true, Bool.not_eq_true',
      Path.name_entry, ← Bool.not_eq_true, Selection.excludes_iff]
    exact ⟨rfl, chosen⟩

/-- The sources can be listed when the paths of all scripts are short, and the listing is the one
strict order of what is a source. -/
theorem sourcesIn_eq_ok_iff {paths : List Path} :
    sourcesIn s here dir selection = .ok paths ↔
      (∀ name, s.HasScript here dir selection name → (dir.entry name).IsShort) ∧
        IsListed paths ∧ ∀ p, p ∈ paths ↔ s.IsSource here dir selection p := by
  rw [sourcesIn_eq_filesAmong led standing flat accepted, filesAmong_eq_ok_iff,
    answers_iff led tree]
  refine and_congr_right fun short => ?_
  have kept (p : Path) : p ∈ ((scriptsIn s location dir selection).mergeSort listingOrder).filter
      (isKept s here selection) ↔ s.IsSource here dir selection p :=
    mem_filter_isKept_iff led tree short
  have sorted : IsListed (((scriptsIn s location dir selection).mergeSort listingOrder).filter
      (isKept s here selection)) :=
    (isListed_mergeSort tree).filter _
  constructor
  · rintro rfl
    exact ⟨sorted, kept⟩
  · rintro ⟨listed, members⟩
    exact listed.eq_of_mem_iff sorted fun p => (members p).trans (kept p).symm

/-- A listing fails with the path of a script that is too long. -/
theorem exists_of_sourcesIn_eq_error {failure : Failure}
    (failed : sourcesIn s here dir selection = .error failure) :
    ∃ name, s.HasScript here dir selection name ∧ ¬(dir.entry name).IsShort ∧
      failure = .file ⟨.nameTooLong, (dir.entry name).text⟩ := by
  rw [sourcesIn_eq_filesAmong led standing flat accepted] at failed
  obtain ⟨p, member, fault, refused, rfl⟩ := exists_of_filesAmong_eq_error failed
  obtain ⟨name, entry, rfl, fits, there⟩ := mem_scriptsIn_iff.mp (List.mem_mergeSort.mp member)
  rw [isFile_entry led tree there] at refused
  split at refused
  · cases refused
  · rename_i long
    cases refused
    exact ⟨name, ⟨fits, location, entry, led, there⟩, long, rfl⟩

/-- The order in which the entries stand does not matter. -/
theorem sourcesIn_of_perm {t : Store} (same : s.entries.Perm t.entries) :
    sourcesIn t here dir selection = sourcesIn s here dir selection := by
  have still := tree.at?_of_perm same
  have ledAgain : t.locate here dir = .ok location := (Store.locate_of_at? still here dir).trans led
  have standingAgain : t.at? location = some .directory := (still location).trans standing
  have treeAgain : t.IsTree := tree.perm same
  have scripts : (scriptsIn t location dir selection).mergeSort listingOrder =
      (scriptsIn s location dir selection).mergeSort listingOrder := by
    refine (isListed_mergeSort treeAgain).eq_of_mem_iff (isListed_mergeSort tree) fun p => ?_
    simp only [List.mem_mergeSort, mem_scriptsIn_iff, still]
  have asked (paths : List Path) :
      filesAmong t here selection paths = filesAmong s here selection paths := by
    induction paths with
    | nil => rfl
    | cons p rest ih => rw [filesAmong, filesAmong, ih, Store.isFile, Store.probe_of_at? still]; rfl
  rw [sourcesIn_eq_filesAmong ledAgain standingAgain flat accepted,
    sourcesIn_eq_filesAmong led standing flat accepted, scripts, asked]

end Listed

/-! ## Listing -/

/-- The sources of a directory can be listed when the paths of its scripts are short, and a listing
fails with a path that is not.  The listing is the strict order of what is a source, whatever order
the entries stand in. -/
theorem listSources_exact {w : Workspace η} (tree : w.store.IsTree) {dir : Path}
    {selection : Selection} (there : w.store.isDirectory w.here dir = .ok true)
    (flat : '/' ∉ selection.scriptExtension.toList) (accepted : selection.pattern? ≠ none) :
    ((∃ paths, ((listSources dir selection).run w).1 = .ok paths) ↔
      ∀ name, w.store.HasScript w.here dir selection name → (dir.entry name).IsShort) ∧
    (∀ failure, ((listSources dir selection).run w).1 = .error failure →
      ∃ name, w.store.HasScript w.here dir selection name ∧ ¬(dir.entry name).IsShort ∧
        failure = .file ⟨.nameTooLong, (dir.entry name).text⟩) ∧
    (∀ paths, ((listSources dir selection).run w).1 = .ok paths →
      IsListed paths ∧ ∀ p, p ∈ paths ↔ w.store.IsSource w.here dir selection p) ∧
    ∀ entries, w.store.entries.Perm entries →
      ((listSources dir selection).run { w with store := ⟨entries⟩ }).1 =
        ((listSources dir selection).run w).1 := by
  obtain ⟨location, led, standing⟩ := Store.isDirectory_eq_true_iff.mp there
  have listed (paths : List Path) : sourcesIn w.store w.here dir selection = .ok paths ↔ _ :=
    sourcesIn_eq_ok_iff led standing flat accepted tree
  simp only [run_listSources]
  refine ⟨⟨?_, fun short => ?_⟩, ?_, ?_, ?_⟩
  · rintro ⟨paths, found⟩
    exact ((listed paths).mp found).1
  · cases found : sourcesIn w.store w.here dir selection with
    | ok paths => exact ⟨paths, rfl⟩
    | error failure =>
        obtain ⟨name, script, long, _⟩ :=
          exists_of_sourcesIn_eq_error led standing flat accepted tree found
        exact absurd (short name script) long
  · exact fun failure failed =>
      exists_of_sourcesIn_eq_error led standing flat accepted tree failed
  · exact fun paths found => ((listed paths).mp found).2
  · exact fun entries same => sourcesIn_of_perm led standing flat accepted tree same

def oneScript : Workspace Unit where
  store := .folder "src" [("a.ps1", [])]
  host := ()

/-- A path that leads into a directory and out of it again some times, and in at last. -/
def winding (turns : Nat) : Path :=
  ⟨.here, (List.replicate turns ["src", ".."]).flatten ++ ["src"]⟩

theorem isTree_oneScript : oneScript.store.IsTree :=
  Store.isTree_folder (by decide) (by decide) (by decide) (by decide)

theorem walk_winding (turns : Nat) :
    oneScript.store.walk [] (winding turns).parts = .ok ["src"] := by
  induction turns with
  | zero => rfl
  | succ turns ih =>
      refine Store.walk_cons_eq_ok_iff.mpr ⟨rfl, Or.inr (Or.inr ⟨by decide, ?_⟩)⟩
      refine Store.walk_cons_eq_ok_iff.mpr ⟨Store.at?_folder, Or.inr (Or.inl ⟨rfl, ?_⟩)⟩
      exact ih

theorem sum_winding (turns : Nat) :
    ((winding turns).parts.map fun part => part.utf8ByteSize + 1).sum = 7 * turns + 4 := by
  have turn : "src".utf8ByteSize = 3 ∧ "..".utf8ByteSize = 2 := by decide
  rw [winding, List.map_append, List.sum_append]
  induction turns with
  | zero => simp [turn.1]
  | succ turns ih =>
      simp [List.replicate_succ, turn.1, turn.2] at ih ⊢
      omega

theorem utf8ByteSize_winding (turns : Nat) (rest : List String) :
    (⟨.here, (winding turns).parts ++ rest⟩ : Path).text.utf8ByteSize =
      7 * turns + 3 + (rest.map fun part => part.utf8ByteSize + 1).sum := by
  have shown : (winding turns).parts ++ rest ≠ [] := by simp [winding]
  have size := Path.utf8ByteSize_intercalate shown
  rw [List.map_append, List.sum_append, sum_winding] at size
  simp only [Path.text, List.isEmpty_eq_false_iff.mpr shown, Path.startText, Bool.and_false,
    Bool.false_eq_true, if_false, String.empty_append]
  omega

theorem isShort_winding_iff (turns : Nat) : (winding turns).IsShort ↔ turns ≤ 584 := by
  have size := utf8ByteSize_winding turns []
  rw [List.append_nil] at size
  simp only [List.map_nil, List.sum_nil] at size
  rw [Path.IsShort, Store.pathLimit, show (winding turns).text.utf8ByteSize = _ from size]
  omega

theorem isShort_entry_winding_iff (turns : Nat) :
    ((winding turns).entry "a.ps1").IsShort ↔ turns ≤ 583 := by
  have size := utf8ByteSize_winding turns ["a.ps1"]
  have name : "a.ps1".utf8ByteSize = 5 := by decide
  simp only [List.map_cons, List.map_nil, List.sum_cons, List.sum_nil, name] at size
  rw [Path.IsShort, Store.pathLimit,
    show ((winding turns).entry "a.ps1").text.utf8ByteSize = _ from size]
  omega

theorem locate_winding {turns : Nat} (short : (winding turns).IsShort) :
    oneScript.store.locate oneScript.here (winding turns) = .ok ["src"] := by
  refine Store.locate_of_walk (fun part member => ?_) short (walk_winding turns)
  have own : part = "src" ∨ part = ".." := by
    simp only [winding, List.mem_append, List.mem_flatten, List.mem_replicate,
      List.mem_singleton] at member
    rcases member with ⟨turn, ⟨_, rfl⟩, member⟩ | rfl
    · simpa using member
    · exact Or.inl rfl
  rcases own with rfl | rfl
  · decide
  · decide

/-- The path of a source can be too long although that of its directory is not. -/
theorem not_listed_winding :
    oneScript.store.IsTree ∧
      oneScript.store.isDirectory oneScript.here (winding 584) = .ok true ∧
      oneScript.store.IsSource oneScript.here (winding 584) {} ((winding 584).entry "a.ps1") ∧
      ¬∃ paths, ((listSources (winding 584) {}).run oneScript).1 = .ok paths := by
  have short : (winding 584).IsShort := (isShort_winding_iff 584).mpr (le_refl 584)
  have long : ¬((winding 584).entry "a.ps1").IsShort := by
    rw [isShort_entry_winding_iff]
    decide
  have led := locate_winding short
  have standing : oneScript.store.at? ["src"] = some .directory := Store.at?_folder
  have file : oneScript.store.at? ["src", "a.ps1"] = some (.file []) := rfl
  have fits : Selection.Fits {} "a.ps1" := by unfold Selection.Fits; decide
  refine ⟨isTree_oneScript, Store.isDirectory_eq_true_iff.mpr ⟨_, led, standing⟩,
    ⟨_, _, _, led, file, rfl, fits, ?_⟩, ?_⟩
  · rintro ⟨pattern, given, _⟩
    cases given
  · rintro ⟨paths, listed⟩
    rw [run_listSources, sourcesIn_eq_ok_iff led standing (by decide) (by decide)
      isTree_oneScript] at listed
    exact long (listed.1 "a.ps1" ⟨fits, _, _, led, file⟩)

def fourScripts : Workspace Unit where
  store := .folder "src" [("b.ps1", []), ("a.ps1", []), ("a.Tests.ps1", []), ("A.ps1", [])]
  host := ()

theorem listSources_exact_fourScripts :
    ((listSources ⟨.here, ["src"]⟩ { exclude := some "*.Tests.ps1" }).run fourScripts).1 =
      .ok [⟨.here, ["src", "A.ps1"]⟩, ⟨.here, ["src", "a.ps1"]⟩, ⟨.here, ["src", "b.ps1"]⟩] := by
  have tree : fourScripts.store.IsTree :=
    Store.isTree_folder (by decide) (by decide) (by decide) (by decide)
  have led : fourScripts.store.locate fourScripts.here ⟨.here, ["src"]⟩ = .ok ["src"] :=
    Store.locate_of_walk (by decide) (by decide) rfl
  have standing : fourScripts.store.at? ["src"] = some .directory := Store.at?_folder
  have named {name : String} {entry : Files.Entry}
      (there : fourScripts.store.at? (["src"] ++ [name]) = some entry) :
      entry = .file [] ∧ name ∈ ["b.ps1", "a.ps1", "a.Tests.ps1", "A.ps1"] := by
    obtain ⟨bytes, member, rfl⟩ := (Store.at?_folder_eq_some_iff (by decide)).mp there
    simp only [List.mem_cons, Prod.mk.injEq, List.not_mem_nil, or_false] at member
    rcases member with ⟨rfl, rfl⟩ | ⟨rfl, rfl⟩ | ⟨rfl, rfl⟩ | ⟨rfl, rfl⟩ <;> simp
  have flat : '/' ∉ (Selection.scriptExtension { exclude := some "*.Tests.ps1" }).toList := by
    decide
  obtain ⟨returns, -, exact, -⟩ := listSources_exact tree
    (Store.isDirectory_eq_true_iff.mpr ⟨_, led, standing⟩) flat (by decide)
  have short : ∀ name ∈ ["b.ps1", "a.ps1", "a.Tests.ps1", "A.ps1"],
      ((⟨.here, ["src"]⟩ : Path).entry name).IsShort := by
    unfold Path.IsShort
    decide
  have chosen : ["A.ps1", "a.ps1", "b.ps1"].Perm
      (["b.ps1", "a.ps1", "a.Tests.ps1", "A.ps1"].filter fun name =>
        !Selection.excludes { exclude := some "*.Tests.ps1" } name) := by
    decide
  have fits : ∀ name ∈ ["A.ps1", "a.ps1", "b.ps1"], Selection.Fits {} name := by
    unfold Selection.Fits
    decide
  obtain ⟨paths, listed⟩ := returns.mpr <| by
    rintro name ⟨-, location, entry, found, there⟩
    rw [led] at found
    cases found
    exact short name (named there).2
  obtain ⟨sorted, members⟩ := exact paths listed
  rw [listed]
  refine congrArg _ (sorted.eq_of_mem_iff (by unfold IsListed; decide)
    fun p => (members p).trans ⟨?_, fun member => ?_⟩)
  · rintro ⟨location, name, bytes, found, there, rfl, -, kept⟩
    rw [led] at found
    cases found
    rw [← Selection.excludes_iff, Bool.not_eq_true, ← Bool.not_eq_true'] at kept
    have member := chosen.mem_iff.mpr (List.mem_filter.mpr ⟨(named there).2, kept⟩)
    exact List.mem_map.mpr ⟨name, member, rfl⟩
  · obtain ⟨name, own, rfl⟩ : ∃ name ∈ ["A.ps1", "a.ps1", "b.ps1"],
        (⟨.here, ["src"]⟩ : Path).entry name = p :=
      List.mem_map.mp member
    obtain ⟨present, kept⟩ := List.mem_filter.mp (chosen.mem_iff.mp own)
    rw [Bool.not_eq_true', ← Bool.not_eq_true, Selection.excludes_iff] at kept
    refine ⟨["src"], name, [], led, ?_, rfl, fits name own, kept⟩
    refine (Store.at?_folder_eq_some_iff (by decide)).mpr ⟨[], ?_, rfl⟩
    simpa using present

end CommandDocs
