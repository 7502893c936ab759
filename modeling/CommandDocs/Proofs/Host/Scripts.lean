import CommandDocs.Proofs.Host.Quoting
import CommandDocs.Proofs.Host.Registry
import Std.Data.String.ToInt

/-!
# What a script tells

The names and paths in a script may hold line feeds and whole scripts.  Still a script is read in
one way only: a quoted value ends at the first quote that is not doubled, and an import on the last
line is the request itself.  So the script of a process tells the modules that are imported, and
what it is asked.
-/

namespace CommandDocs.Host

/-! ## Quoted values -/

/-- The value that is quoted at the start of a script, after its opening quote, and the script after
it. -/
def unquote : List Char → Option (List Char × List Char)
  | [] => none
  | '\'' :: '\'' :: rest => (unquote rest).map fun (value, after) => ('\'' :: value, after)
  | '\'' :: rest => some ([], rest)
  | c :: rest => (unquote rest).map fun (value, after) => (c :: value, after)

theorem unquote_closing {rest : List Char} (apart : rest.head? ≠ some '\'') :
    unquote ('\'' :: rest) = some ([], rest) := by
  cases rest with
  | nil => rfl
  | cons d rest =>
      rw [unquote]
      rintro more ⟨⟩
      exact apart rfl

theorem unquote_plain {c : Char} (plain : c ≠ '\'') (s : List Char) :
    unquote (c :: s) = (unquote s).map fun (value, after) => (c :: value, after) := by
  rw [unquote]
  · rintro more rfl
    exact absurd rfl plain
  · exact plain

/-- A quoted value is told from what follows it, as long as that is no quote. -/
theorem unquote_doubleQuotes (value : List Char) {rest : List Char}
    (apart : rest.head? ≠ some '\'') :
    unquote (doubleQuotes value ++ '\'' :: rest) = some (value, rest) := by
  induction value with
  | nil => exact unquote_closing apart
  | cons c value ih =>
      by_cases mark : c = '\''
      · subst mark
        rw [doubleQuotes, if_pos (by decide), List.cons_append, List.cons_append, unquote, ih]
        rfl
      · rw [doubleQuotes, if_neg (by simpa using mark), List.cons_append, unquote_plain mark, ih]
        rfl

/-- Two scripts that go on with a quoted value go on with the same one, and then alike. -/
theorem quote_append_inj {v w : String} {x y : List Char} (first : x.head? ≠ some '\'')
    (second : y.head? ≠ some '\'') (same : (quote v).toList ++ x = (quote w).toList ++ y) :
    v = w ∧ x = y := by
  rw [toList_quote_append, toList_quote_append] at same
  have read := congrArg unquote (List.cons.inj same).2
  rw [unquote_doubleQuotes _ first, unquote_doubleQuotes _ second] at read
  obtain ⟨values, rest⟩ := Prod.mk.inj (Option.some.inj read)
  exact ⟨String.toList_injective values, rest⟩

/-! ## Numbers -/

theorem space_notMem_toString (n : Int) : ' ' ∉ (toString n).toList := by
  have digits (m : Nat) : ' ' ∉ m.repr.toList := by
    rw [Nat.repr_eq_ofList_toDigits, String.toList_ofList]
    intro member
    exact absurd (Nat.isDigit_of_mem_toDigits (by decide) (by decide) member) (by decide)
  rw [Int.toString_eq_repr, Int.repr_eq_if]
  split
  · exact digits _
  · rw [String.toList_append, List.mem_append, not_or]
    exact ⟨by decide, digits _⟩

/-- Two scripts that go on with a number and a blank go on with the same number, and then alike. -/
theorem toString_append_inj {n m : Int} {x y : List Char}
    (same : (toString n).toList ++ ' ' :: x = (toString m).toList ++ ' ' :: y) :
    n = m ∧ x = y := by
  have before (n : Int) (x : List Char) :
      ((toString n).toList ++ ' ' :: x).takeWhile (· != ' ') = (toString n).toList := by
    rw [List.takeWhile_append_of_pos, List.takeWhile_cons_of_neg (by decide), List.append_nil]
    intro c member
    exact bne_iff_ne.mpr fun blank => space_notMem_toString n (blank ▸ member)
  have digits : (toString n).toList = (toString m).toList := by
    rw [← before n x, ← before m y, same]
  rw [digits, List.append_right_inj] at same
  exact ⟨Int.repr_injective (String.toList_injective digits), (List.cons.inj same).2⟩

/-! ## Requests -/

inductive Kind where
  | commandExists
  | moduleExists
  | moduleCommands
  | writeHelp
  | importModule
  deriving DecidableEq, Repr

def Kind.opening : Kind → List Char
  | .commandExists => "if (".toList ++ "Get-Command -Name ".toList
  | .moduleExists => "if (".toList ++ "Get-Module -ListAvailable -Name ".toList
  | .moduleCommands => "Get-Command -Module ".toList
  | .writeHelp => "Get-Help -Name ".toList
  | .importModule => "Import-Module -Name ".toList

theorem Kind.opening_append_inj {k l : Kind} {x y : List Char}
    (same : k.opening ++ x = l.opening ++ y) : k = l ∧ x = y := by
  have start (kind : Kind) (rest : List Char) :
      (kind.opening ++ rest).take 9 = kind.opening.take 9 :=
    List.take_append_of_le_length (by cases kind <;> decide)
  have first : k.opening.take 9 = l.opening.take 9 := by rw [← start k x, ← start l y, same]
  obtain rfl : k = l := by
    revert first
    cases k <;> cases l <;> decide
  exact ⟨rfl, (List.append_right_inj _).mp same⟩

def Request.kind : Request → Kind
  | .commandExists _ => .commandExists
  | .moduleExists _ => .moduleExists
  | .moduleCommands _ => .moduleCommands
  | .writeHelp _ _ _ => .writeHelp
  | .importModule _ => .importModule

def Request.value : Request → String
  | .commandExists name | .moduleExists name | .moduleCommands name => name
  | .writeHelp command _ _ => command
  | .importModule path => path

/-- What follows the first value in the script of a request. -/
def Request.ending : Request → List Char
  | .commandExists _ =>
      " -CommandType Cmdlet,Function -ErrorAction SilentlyContinue".toList ++
        ") \x7b 'True' \x7d else \x7b 'False' \x7d".toList
  | .moduleExists _ => ") \x7b 'True' \x7d else \x7b 'False' \x7d".toList
  | .moduleCommands _ => " | ForEach-Object \x7b $_.Name \x7d".toList
  | .writeHelp _ path width =>
      " -Full | Out-File -FilePath ".toList ++ ((quote path).toList ++
        (" -Width ".toList ++ ((toString width).toList ++ " -Encoding utf8".toList)))
  | .importModule _ => " -Force -ErrorAction Stop".toList

theorem Request.toList_script (request : Request) :
    request.script.toList =
      request.kind.opening ++ ((quote request.value).toList ++ request.ending) := by
  unfold script checkScript importScript kind Kind.opening value ending
  cases request <;> simp only [String.toList_append, List.append_assoc]

/-- The first value in a script is not followed by a quote. -/
theorem Request.head?_ending_append (request : Request) (rest : List Char) :
    (request.ending ++ rest).head? ≠ some '\'' := by
  rw [List.head?_append]
  unfold ending
  cases request <;> simp

/-- The rest of two scripts for help tells the path and the width. -/
theorem ending_writeHelp_append_inj {command path command' path' : String} {width width' : Int}
    {x y : List Char} (same : (Request.writeHelp command path width).ending ++ x =
      (Request.writeHelp command' path' width').ending ++ y) :
    path = path' ∧ width = width' ∧ x = y := by
  unfold Request.ending at same
  simp only [List.append_assoc, List.append_right_inj] at same
  obtain ⟨paths, same⟩ := quote_append_inj (by simp) (by simp) same
  rw [List.append_right_inj] at same
  obtain ⟨widths, same⟩ := toString_append_inj same
  exact ⟨paths, widths, (List.append_right_inj _).mp same⟩

/-- A script is told from what follows it. -/
theorem Request.script_append_inj {r s : Request} {x y : List Char}
    (same : r.script.toList ++ x = s.script.toList ++ y) : r = s ∧ x = y := by
  rw [toList_script, toList_script, List.append_assoc, List.append_assoc, List.append_assoc,
    List.append_assoc] at same
  obtain ⟨kinds, same⟩ := Kind.opening_append_inj same
  obtain ⟨values, same⟩ :=
    quote_append_inj (r.head?_ending_append x) (s.head?_ending_append y) same
  cases r <;> cases s <;> try cases kinds
  case commandExists.commandExists =>
    exact ⟨congrArg commandExists values, (List.append_right_inj _).mp same⟩
  case moduleExists.moduleExists =>
    exact ⟨congrArg moduleExists values, (List.append_right_inj _).mp same⟩
  case moduleCommands.moduleCommands =>
    exact ⟨congrArg moduleCommands values, (List.append_right_inj _).mp same⟩
  case importModule.importModule =>
    exact ⟨congrArg importModule values, (List.append_right_inj _).mp same⟩
  case writeHelp.writeHelp =>
    obtain ⟨rfl, rfl, rest⟩ := ending_writeHelp_append_inj same
    exact ⟨congrArg (writeHelp · _ _) values, rest⟩

/-! ## Whole scripts -/

theorem toList_fullScript_nil (request : Request) :
    (fullScript [] request).toList = request.script.toList := by
  rw [fullScript, List.map_nil, List.nil_append, String.intercalate_singleton]

theorem toList_fullScript_cons (path : String) (paths : List String) (request : Request) :
    (fullScript (path :: paths) request).toList =
      (Request.importModule path).script.toList ++ '\n' :: (fullScript paths request).toList := by
  rw [fullScript, List.map_cons, List.cons_append,
    String.intercalate_cons_of_ne_nil (List.append_ne_nil_of_right_ne_nil _ (List.cons_ne_nil _ _)),
    String.toList_append, String.toList_append, List.append_assoc]
  rfl

/-- A request is no import with more lines after it. -/
theorem toList_fullScript_nil_ne (request request' : Request) (path : String)
    (paths : List String) :
    (fullScript [] request).toList ≠ (fullScript (path :: paths) request').toList := by
  rw [toList_fullScript_nil, toList_fullScript_cons]
  intro same
  obtain ⟨_, rest⟩ := Request.script_append_inj ((List.append_nil _).trans same)
  cases rest

/-- A script tells the modules that it imports, in their order, and what it asks. -/
theorem fullScript_inj {paths paths' : List String} {request request' : Request}
    (same : (fullScript paths request).toList = (fullScript paths' request').toList) :
    paths = paths' ∧ request = request' := by
  induction paths generalizing paths' with
  | nil =>
      cases paths' with
      | nil =>
          rw [toList_fullScript_nil, toList_fullScript_nil] at same
          have same : request.script.toList ++ [] = request'.script.toList ++ [] :=
            congrArg (· ++ []) same
          exact ⟨rfl, (Request.script_append_inj same).1⟩
      | cons path' paths' => exact absurd same (toList_fullScript_nil_ne _ _ _ _)
  | cons path paths ih =>
      cases paths' with
      | nil => exact absurd same.symm (toList_fullScript_nil_ne _ _ _ _)
      | cons path' paths' =>
          rw [toList_fullScript_cons, toList_fullScript_cons] at same
          obtain ⟨first, rest⟩ := Request.script_append_inj same
          obtain ⟨rfl, rfl⟩ := ih (List.cons.inj rest).2
          exact ⟨congrArg (· :: paths) (Request.importModule.inj first), rfl⟩

/-! ## Calls -/

/-- The script that a process runs: the last of its arguments. -/
def Launch.script? (launch : Launch) : Option String :=
  launch.arguments.getLast?

variable {σ τ : Type}

/-- A call that starts a process gives it the script of its imports and its request. -/
theorem script?_of_launches (runner : Launch → σ → Outcome × σ) {talk : Talk (Shell σ)}
    {call : Recorded} {launch : Launch}
    (started : ((call.make (powerShell runner)).run talk).2.state.launches =
      talk.state.launches ++ [launch]) :
    launch.script? =
      some (fullScript ((call.imported talk.state.registry).map (·.path)) call.request) := by
  rw [(call.abides runner talk).launches, List.append_right_inj, Recorded.launches_eq] at started
  split at started
  · obtain rfl := (List.cons.inj started).1
    rfl
  · cases started

/-- **Two calls that give their processes the same script import the same paths in the same order
and ask the same.** -/
theorem same_of_script_eq (runner : Launch → σ → Outcome × σ) (runner' : Launch → τ → Outcome × τ)
    (talk : Talk (Shell σ)) (talk' : Talk (Shell τ)) (call call' : Recorded)
    (launch launch' : Launch)
    (started : ((call.make (powerShell runner)).run talk).2.state.launches =
      talk.state.launches ++ [launch])
    (started' : ((call'.make (powerShell runner')).run talk').2.state.launches =
      talk'.state.launches ++ [launch'])
    (same : launch.script? = launch'.script?) :
    (call.imported talk.state.registry).map (·.path) =
        (call'.imported talk'.state.registry).map (·.path) ∧
      call.request = call'.request := by
  rw [script?_of_launches runner started, script?_of_launches runner' started'] at same
  exact fullScript_inj (congrArg String.toList (Option.some.inj same))

/-- Two modules are reloaded from one path by hosts of their own, after the import of a path that
reads like another import. -/
theorem same_of_script_eq_reloadModule :
    let path := "a.psm1' -Force\nImport-Module -Name 'b.psm1"
    let runner : Launch → Unit → Outcome × Unit := fun _ _ => (.timedOut, ())
    let talk : Talk (Shell Unit) := ⟨{ registry := [⟨"A", path⟩], runner := () }, []⟩
    let talk' : Talk (Shell Unit) :=
      ⟨{ timeout := 5, registry := [⟨"C", "c.psm1"⟩, ⟨"E", path⟩], runner := () }, []⟩
    let call := Recorded.reloadModule "B" "d.psm1"
    let call' := Recorded.reloadModule "C" "d.psm1"
    let script := "Import-Module -Name 'a.psm1'' -Force\nImport-Module -Name ''b.psm1' -Force " ++
      "-ErrorAction Stop\nImport-Module -Name 'd.psm1' -Force -ErrorAction Stop"
    let launch : Launch := ⟨["pwsh", "-NoProfile", "-NonInteractive", "-Command", script], 120⟩
    let launch' : Launch := { launch with timeout := 5 }
    ((call.make (powerShell runner)).run talk).2.state.launches =
        talk.state.launches ++ [launch] ∧
      ((call'.make (powerShell runner)).run talk').2.state.launches =
        talk'.state.launches ++ [launch'] ∧
      launch.script? = launch'.script? ∧
      (call.imported talk.state.registry).map (·.path) =
        (call'.imported talk'.state.registry).map (·.path) ∧
      call.request = call'.request := by
  intro path runner talk talk' call call' script launch launch'
  have started : ((call.make (powerShell runner)).run talk).2.state.launches =
      talk.state.launches ++ [launch] := by decide +kernel
  have started' : ((call'.make (powerShell runner)).run talk').2.state.launches =
      talk'.state.launches ++ [launch'] := by decide +kernel
  have same : launch.script? = launch'.script? := rfl
  exact ⟨started, started', same,
    same_of_script_eq runner runner talk talk' call call' launch launch' started started' same⟩

end CommandDocs.Host
