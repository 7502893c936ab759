import CommandDocs.Proofs.Settings.Finding
import CommandDocs.Proofs.Text.Utf8

/-!
# What a save leaves alone

A save works by way of a temporary file beside the destination.  It changes no file but these two.
A file that stood in the place of the temporary one is lost, so the other files are kept exactly
when none stood there.
-/

namespace CommandDocs.Settings

open Files (Path Bytes Location Store)

variable {η : Type}

/-! ## The text -/

def oldTextAt (s : Store) (here : Location) (p : Path) : Except Failure (Option String) :=
  match s.exists? here p with
  | .error fault => .error (.file fault)
  | .ok false => .ok none
  | .ok true =>
      match s.read here p with
      | .error fault => .error (.file fault)
      | .ok bytes =>
          match Text.decodeText bytes with
          | .ok text => .ok (some text)
          | .error fault => .error (.decoding fault)

def textFrom (settings : Settings) (old : Option String) : Except Failure String :=
  match settings.textOver old with
  | .ok text => .ok text
  | .error .badSyntax => .error (.settings (.notSaved .badSyntax))
  | .error (.number fault) => .error (.number fault)

/-- Making the text changes nothing. -/
theorem run_textFor (settings : Settings) (p : Path) (w : Workspace η) :
    (textFor settings p).run w =
      ((oldTextAt w.store w.here p).bind (textFrom settings), w) := by
  have looked : (Act.exists? p : Act η Bool).run w = _ := Act.run_inspect _ w
  have read := Act.run_read p w
  unfold textFor oldTextAt
  cases found : w.store.exists? w.here p with
  | error fault =>
      rw [found] at looked
      rw [run_bind_of_error looked]
      rfl
  | ok there =>
      rw [found] at looked
      rw [run_bind_of_ok looked]
      cases there with
      | false =>
          simp only [Bool.false_eq_true, if_false, pure_bind, Except.bind]
          unfold textFrom
          cases settings.textOver none with
          | ok text => rfl
          | error fault => cases fault <;> rfl
      | true =>
          cases held : w.store.read w.here p with
          | error fault =>
              rw [held] at read
              exact run_bind_of_error read
          | ok bytes =>
              rw [held] at read
              simp only [if_true]
              rw [run_bind_of_ok read]
              cases Text.decodeText bytes with
              | error fault => rfl
              | ok text =>
                  simp only [pure_bind, Except.bind]
                  unfold textFrom
                  cases settings.textOver (some text) with
                  | ok text => rfl
                  | error fault => cases fault <;> rfl

/-! ## The temporary file -/

/-- What becomes of the files when a file is saved at one path by way of another: only at these
two does a file change, and the temporary file is gone unless it is the saved one. -/
structure SavedBy (temporary p : Path) (before after : Workspace η) (done : Prop) : Prop where
  here : after.here = before.here
  directories : ∀ location, before.store.at? location = some .directory →
    after.store.at? location = some .directory
  others : before.store.SameFilesBut (fun location =>
    after.store.locate after.here temporary = .ok location ∨
      done ∧ after.store.locate after.here p = .ok location) after.store
  gone : ∀ location, after.store.locate after.here temporary = .ok location →
    (done → after.store.locate after.here p ≠ .ok location) →
    ∀ bytes, after.store.at? location ≠ some (.file bytes)

/-- Making the directories above a path adds directories and nothing else. -/
theorem run_makeParents (p : Path) (w : Workspace η) :
    ∃ outcome, (makeParents p).run w =
      (outcome, { w with store := (w.store.makeDirectories w.here p.parent).1 }) := by
  unfold makeParents
  rw [run_bind_of_ok (Act.run_get w)]
  cases made : w.store.makeDirectories w.here p.parent with
  | mk store fault => cases fault <;> exact ⟨_, rfl⟩

theorem run_makeParents_name {name : String} {w : Workspace η}
    (standing : w.store.at? w.here = some .directory) :
    (makeParents ⟨.here, [name]⟩).run w = (.ok (), w) := by
  unfold makeParents
  rw [run_bind_of_ok (Act.run_get w), Path.parent]
  simp only [List.dropLast_singleton, Store.makeDirectories_here standing]
  rfl

/-- A save by way of a temporary file, step by step. -/
theorem run_saveBy_of_moved {settings : Settings} {temporary p : Path} {w : Workspace η}
    {middle written store : Store} {text : String}
    (parents : (makeParents p).run w = (.ok (), { w with store := middle }))
    (made : (oldTextAt middle w.here p).bind (textFrom settings) = .ok text)
    (wrote : middle.write w.here temporary (Text.encodeText text) = .ok written)
    (moved : written.rename w.here temporary p = .ok store) :
    (saveBy settings temporary p).run w = (.ok (), { w with store }) := by
  have composed := run_textFor settings p { w with store := middle }
  rw [made] at composed
  have passed := Act.run_writeText_of_ok (w := { w with store := middle }) wrote
  unfold saveBy
  rw [run_bind_of_ok parents, run_bind_of_ok composed, run_bind_of_ok passed]
  exact Act.run_alter_of_ok (w := { w with store := written }) moved

/-- A save by way of a temporary file ends before that is written, or it leaves it behind, or it
moves it to its place. -/
theorem run_saveBy (settings : Settings) (temporary p : Path) (w : Workspace η) :
    ∃ middle, w.store.Extends middle ∧
      ((∃ failure, (saveBy settings temporary p).run w =
          (.error failure, { w with store := middle })) ∨
        ∃ text written, (oldTextAt middle w.here p).bind (textFrom settings) = .ok text ∧
          middle.write w.here temporary (Text.encodeText text) = .ok written ∧
          ((∃ failure, (saveBy settings temporary p).run w =
              (.error failure, { w with store := written })) ∨
            ∃ store, written.rename w.here temporary p = .ok store ∧
              (saveBy settings temporary p).run w = (.ok (), { w with store }))) := by
  refine ⟨_, Store.extends_makeDirectories w.store w.here p.parent, ?_⟩
  obtain ⟨outcome, parents⟩ := run_makeParents p w
  generalize (w.store.makeDirectories w.here p.parent).1 = middle at parents
  cases outcome with
  | error failure => exact Or.inl ⟨failure, run_bind_of_error parents⟩
  | ok value =>
      have composed := run_textFor settings p { w with store := middle }
      cases made : (oldTextAt middle w.here p).bind (textFrom settings) with
      | error failure =>
          rw [made] at composed
          refine Or.inl ⟨failure, (run_bind_of_ok parents).trans ?_⟩
          exact run_bind_of_error composed
      | ok text =>
          rw [made] at composed
          have begun : (saveBy settings temporary p).run w = _ :=
            (run_bind_of_ok parents).trans (run_bind_of_ok composed)
          cases wrote : middle.write w.here temporary (Text.encodeText text) with
          | error fault =>
              have stuck := Act.run_writeText_of_error (w := { w with store := middle }) wrote
              exact Or.inl ⟨_, begun.trans (run_bind_of_error stuck)⟩
          | ok written =>
              refine Or.inr ⟨text, written, rfl, wrote, ?_⟩
              have passed := Act.run_writeText_of_ok (w := { w with store := middle }) wrote
              cases moved : written.rename w.here temporary p with
              | error fault =>
                  refine Or.inl ⟨.file fault, ?_⟩
                  rw [begun, run_bind_of_ok passed]
                  exact Act.run_alter_of_error (w := { w with store := written }) moved
              | ok store => exact Or.inr ⟨store, rfl, run_saveBy_of_moved parents made wrote moved⟩

/-- After a failed save the temporary file is removed. -/
theorem run_discard (temporary : Path) (failure : Failure) (w : Workspace η) :
    ∃ other store, (do
        if ← Act.exists? temporary then Act.unlink temporary
        throw failure : Act η Path).run w = (.error other, { w with store }) ∧
      w.store.SameDirectories store ∧
      w.store.SameFilesBut (fun location => w.store.locate w.here temporary = .ok location) store ∧
      ∀ location, w.store.locate w.here temporary = .ok location →
        ∀ bytes, store.at? location ≠ some (.file bytes) := by
  have looked : (Act.exists? temporary : Act η Bool).run w = _ := Act.run_inspect _ w
  cases found : w.store.exists? w.here temporary with
  | error fault =>
      rw [found] at looked
      refine ⟨_, w.store, run_bind_of_error looked, .refl _, .refl _, ?_⟩
      intro location led
      exact absurd led (Store.locate_of_exists?_eq_error found location)
  | ok there =>
      rw [found] at looked
      rw [run_bind_of_ok looked]
      cases there with
      | false =>
          refine ⟨failure, w.store, rfl, .refl _, .refl _, ?_⟩
          intro location led bytes
          rw [Store.at?_of_exists?_eq_false found led]
          simp
      | true =>
          cases removed : w.store.unlink w.here temporary with
          | error fault =>
              refine ⟨_, w.store, run_bind_of_error (Act.run_alter_of_error removed), .refl _,
                .refl _, ?_⟩
              intro location led
              exact Store.at?_ne_file_of_unlink_eq_error removed led
          | ok store =>
              obtain ⟨directories, others, gone⟩ := Store.frame_of_unlink removed
              refine ⟨failure, store, run_bind_of_ok (Act.run_alter_of_ok removed), directories,
                others, ?_⟩
              intro location led bytes
              rw [gone location led]
              simp

/-! ## A whole save -/

/-- A frame may be told by the paths as they lead before the last changes, if these spare the
directories. -/
theorem SavedBy.of_middle {temporary p : Path} {w : Workspace η} {middle last : Store} {done : Prop}
    (extended : w.store.Extends middle) (same : middle.SameDirectories last)
    (others : middle.SameFilesBut (fun location =>
      middle.locate w.here temporary = .ok location ∨
        done ∧ middle.locate w.here p = .ok location) last)
    (gone : ∀ location, middle.locate w.here temporary = .ok location →
      (done → middle.locate w.here p ≠ .ok location) →
      ∀ bytes, last.at? location ≠ some (.file bytes)) :
    SavedBy temporary p w { w with store := last } done where
  here := rfl
  directories location standing := (same location).mp (extended.kept location _ standing)
  others := by
    refine (extended.sameFiles _).trans (others.mono ?_)
    rintro location (led | ⟨finished, led⟩)
    · exact Or.inl (Store.locate_eq_ok_of_sameDirectories same led)
    · exact Or.inr ⟨finished, Store.locate_eq_ok_of_sameDirectories same led⟩
  gone location led apart := by
    refine gone location (Store.locate_eq_ok_of_sameDirectories same.symm led) ?_
    intro finished goes
    exact apart finished (Store.locate_eq_ok_of_sameDirectories same goes)

section Save

variable {settings : Settings} {destination p temporary : Path} {w : Workspace η}

theorem run_save_of_unexpanded {failure : Failure}
    (unexpanded : (expandHome destination).run w = (.error failure, w)) :
    (save settings destination).run w = (.error failure, w) := by
  unfold save
  exact run_bind_of_error unexpanded

variable (expanded : (expandHome destination).run w = (.ok p, w))
include expanded

theorem run_save_of_nameless (nameless : p.withExtension? ".tmp" = none) :
    (save settings destination).run w = (.error (.nameless p.text), w) := by
  unfold save
  rw [run_bind_of_ok expanded, nameless]
  rfl

variable (named : p.withExtension? ".tmp" = some temporary)
include named

theorem run_save_of_saved {after : Workspace η}
    (saved : (saveBy settings temporary p).run w = (.ok (), after)) :
    (save settings destination).run w =
      (.ok p, { after with log := after.log ++ [⟨.debug, "Saved config to: " ++ p.text⟩] }) := by
  unfold save
  rw [run_bind_of_ok expanded, named]
  have attempted := Act.run_attempt (saveBy settings temporary p) w
  rw [saved] at attempted
  exact (run_bind_of_ok attempted).trans (run_bind_of_ok (Act.run_note _ _ _))

theorem run_save_of_failed {failure : Failure} {after : Workspace η}
    (failed : (saveBy settings temporary p).run w = (.error failure, after)) :
    (save settings destination).run w =
      (do
        if ← Act.exists? temporary then Act.unlink temporary
        throw (.settings (.notSaved (obstacleOf failure))) : Act η Path).run after := by
  unfold save
  rw [run_bind_of_ok expanded, named]
  have attempted := Act.run_attempt (saveBy settings temporary p) w
  rw [failed] at attempted
  exact run_bind_of_ok attempted

/-- After a failed attempt there is no path. -/
theorem not_run_save_ok_of_failed {failure : Failure} {middle after : Workspace η} {q : Path}
    (failed : (saveBy settings temporary p).run w = (.error failure, middle)) :
    (save settings destination).run w ≠ (.ok q, after) := by
  obtain ⟨other, store, discarded, _⟩ := run_discard temporary
    (.settings (.notSaved (obstacleOf failure))) middle
  rw [run_save_of_failed expanded named failed, discarded]
  intro same
  cases same

/-- A save either fails, and has then changed no file but the temporary one, or it gives the path
of the destination, and has then changed no file but these two. -/
theorem run_save (settings : Settings) :
    (∃ failure after, (save settings destination).run w = (.error failure, after) ∧
      SavedBy temporary p w after False) ∨
    ∃ after, (save settings destination).run w = (.ok p, after) ∧
      SavedBy temporary p w after True := by
  obtain ⟨middle, extended, early | ⟨text, written, _, wrote, late | saved⟩⟩ :=
    run_saveBy settings temporary p w
  · obtain ⟨failure, failed⟩ := early
    obtain ⟨other, last, ran, same, others, gone⟩ := run_discard temporary
      (.settings (.notSaved (obstacleOf failure))) { w with store := middle }
    refine Or.inl ⟨other, _, (run_save_of_failed expanded named failed).trans ran, ?_⟩
    exact .of_middle extended same (others.mono fun _ => Or.inl) fun location led _ =>
      gone location led
  · obtain ⟨failure, failed⟩ := late
    obtain ⟨other, last, ran, same, others, gone⟩ := run_discard temporary
      (.settings (.notSaved (obstacleOf failure))) { w with store := written }
    obtain ⟨kept, rest⟩ := Store.frame_of_write wrote
    refine Or.inl ⟨other, _, (run_save_of_failed expanded named failed).trans ran, ?_⟩
    refine .of_middle extended (kept.trans same) ?_ ?_
    · refine (rest.mono fun _ => Or.inl).trans (others.mono ?_)
      intro location led
      exact Or.inl (Store.locate_eq_ok_of_sameDirectories kept.symm led)
    · intro location led _
      exact gone location (Store.locate_eq_ok_of_sameDirectories kept led)
  · obtain ⟨last, moved, ran⟩ := saved
    obtain ⟨kept, rest⟩ := Store.frame_of_write wrote
    obtain ⟨same, others, gone⟩ := Store.frame_of_rename moved
    refine Or.inr ⟨_, run_save_of_saved expanded named ran, ?_⟩
    have framed : SavedBy temporary p w { w with store := last } True := by
      refine .of_middle extended (kept.trans same) ?_ ?_
      · refine (rest.mono fun _ => Or.inl).trans (others.mono ?_)
        rintro location (led | goes)
        · exact Or.inl (Store.locate_eq_ok_of_sameDirectories kept.symm led)
        · exact Or.inr ⟨trivial, Store.locate_eq_ok_of_sameDirectories kept.symm goes⟩
      · intro location led apart bytes
        have elsewhere : written.locate w.here p ≠ .ok location := fun goes =>
          apart trivial (Store.locate_eq_ok_of_sameDirectories kept.symm goes)
        rw [gone location (Store.locate_eq_ok_of_sameDirectories kept led) elsewhere]
        simp
    exact ⟨framed.here, framed.directories, framed.others, framed.gone⟩

end Save

/-- What a save that gives a path has done: a text for the old file, under more directories, is
what is read there. -/
theorem exists_of_run_save_ok {settings : Settings} {destination q : Path} {w after : Workspace η}
    (ran : (save settings destination).run w = (.ok q, after)) :
    ∃ middle store text log, homed w.home destination = .ok q ∧
      w.store.Extends middle ∧ (oldTextAt middle w.here q).bind (textFrom settings) = .ok text ∧
      middle.SameDirectories store ∧ store.read w.here q = .ok (Text.encodeText text) ∧
      after = { w with store, log } := by
  have expanded := run_expandHome destination w
  cases found : homed w.home destination with
  | error failure =>
      rw [found] at expanded
      rw [run_save_of_unexpanded expanded] at ran
      cases ran
  | ok p =>
      rw [found] at expanded
      cases named : p.withExtension? ".tmp" with
      | none =>
          rw [run_save_of_nameless expanded named] at ran
          cases ran
      | some temporary =>
          obtain ⟨middle, extended, early | ⟨text, written, made, wrote, late | saved⟩⟩ :=
            run_saveBy settings temporary p w
          · obtain ⟨failure, failed⟩ := early
            exact absurd ran (not_run_save_ok_of_failed expanded named failed)
          · obtain ⟨failure, failed⟩ := late
            exact absurd ran (not_run_save_ok_of_failed expanded named failed)
          · obtain ⟨store, moved, done⟩ := saved
            rw [run_save_of_saved expanded named done] at ran
            cases ran
            exact ⟨middle, store, text, _, rfl, extended, made,
              (Store.frame_of_write wrote).1.trans (Store.frame_of_rename moved).1,
              Store.read_of_rename moved (Store.read_of_write wrote), rfl⟩

/-! ## The other files -/

/-- That the other files are kept: all of them after a failure, and after a success all but the one
that has been saved. -/
def KeepsOthers (before : Workspace η) : Except Failure Path × Workspace η → Prop
  | (.error _, after) => ∀ location bytes, before.store.at? location = some (.file bytes) →
      after.store.at? location = some (.file bytes)
  | (.ok p, after) => ∀ location, after.store.locate after.here p ≠ .ok location → ∀ bytes,
      before.store.at? location = some (.file bytes) ↔ after.store.at? location = some (.file bytes)

/-- That a file is lost to the temporary one, whose place it had. -/
def LosesSibling (destination : Path) (before : Workspace η)
    (result : Except Failure Path × Workspace η) : Prop :=
  ∃ p temporary location bytes, (expandHome destination).run before = (.ok p, before) ∧
    p.withExtension? ".tmp" = some temporary ∧
    result.2.store.locate result.2.here temporary = .ok location ∧
    before.store.at? location = some (.file bytes) ∧
    (result.1 = .ok p → result.2.store.locate result.2.here p ≠ .ok location)

/-- Whether a save works at a location: it is that of the temporary file, or that of a file that
has been saved. -/
def WorksAt (destination : Path) (before : Workspace η)
    (result : Except Failure Path × Workspace η) (location : Location) : Prop :=
  ∃ p temporary, (expandHome destination).run before = (.ok p, before) ∧
    p.withExtension? ".tmp" = some temporary ∧
    (result.2.store.locate result.2.here temporary = .ok location ∨
      result.1 = .ok p ∧ result.2.store.locate result.2.here p = .ok location)

section Others

variable {destination p temporary : Path} {w after : Workspace η}

theorem keepsOthers_unchanged (w : Workspace η) (failure : Failure) :
    KeepsOthers w (.error failure, w) :=
  fun _ _ standing => standing

/-- What is lost to a temporary file is not kept. -/
theorem keepsOthers_iff_of_failed {failure : Failure}
    (expanded : (expandHome destination).run w = (.ok p, w))
    (named : p.withExtension? ".tmp" = some temporary) (saved : SavedBy temporary p w after False) :
    KeepsOthers w (.error failure, after) ↔ ¬LosesSibling destination w (.error failure, after) := by
  constructor
  · rintro kept ⟨q, other, location, bytes, again, same, led, standing, _⟩
    rw [expanded] at again
    cases again
    rw [named] at same
    cases same
    exact saved.gone location led False.elim bytes (kept location bytes standing)
  · intro safe location bytes standing
    refine (saved.others location ?_ bytes).mp standing
    rintro (led | ⟨impossible, _⟩)
    · exact safe ⟨p, temporary, location, bytes, expanded, named, led, standing, by simp⟩
    · exact impossible

theorem keepsOthers_iff_of_saved (expanded : (expandHome destination).run w = (.ok p, w))
    (named : p.withExtension? ".tmp" = some temporary) (saved : SavedBy temporary p w after True) :
    KeepsOthers w (.ok p, after) ↔ ¬LosesSibling destination w (.ok p, after) := by
  constructor
  · rintro kept ⟨q, other, location, bytes, again, same, led, standing, apart⟩
    rw [expanded] at again
    cases again
    rw [named] at same
    cases same
    refine saved.gone location led (fun _ => apart rfl) bytes ?_
    exact (kept location (apart rfl) bytes).mp standing
  · intro safe location apart bytes
    by_cases led : after.store.locate after.here temporary = .ok location
    · refine iff_of_false ?_ (saved.gone location led (fun _ => apart) bytes)
      intro standing
      exact safe ⟨p, temporary, location, bytes, expanded, named, led, standing, fun _ => apart⟩
    · refine saved.others location ?_ bytes
      rintro (here | ⟨_, here⟩)
      · exact led here
      · exact apart here

end Others

/-- A save takes away no directory and changes no file but at the places where it works, and it
keeps the other files exactly when none of them has the place of the temporary one. -/
theorem save_keepsOthers_iff (settings : Settings) (destination : Path) (w : Workspace η) :
    (∀ location, w.store.at? location = some .directory →
      ((save settings destination).run w).2.store.at? location = some .directory) ∧
      w.store.SameFilesBut (WorksAt destination w ((save settings destination).run w))
        ((save settings destination).run w).2.store ∧
      (KeepsOthers w ((save settings destination).run w) ↔
        ¬LosesSibling destination w ((save settings destination).run w)) := by
  have expanded := run_expandHome destination w
  cases found : homed w.home destination with
  | error failure =>
      rw [found] at expanded
      rw [run_save_of_unexpanded expanded]
      refine ⟨fun _ => id, .refl _, iff_of_true (keepsOthers_unchanged w failure) ?_⟩
      rintro ⟨p, _, _, _, again, _⟩
      rw [expanded] at again
      cases again
  | ok p =>
      rw [found] at expanded
      cases named : p.withExtension? ".tmp" with
      | none =>
          rw [run_save_of_nameless expanded named]
          refine ⟨fun _ => id, .refl _, iff_of_true (keepsOthers_unchanged w _) ?_⟩
          rintro ⟨q, _, _, _, again, same, _⟩
          rw [expanded] at again
          cases again
          rw [named] at same
          cases same
      | some temporary =>
          rcases run_save expanded named settings with
            ⟨failure, after, ran, saved⟩ | ⟨after, ran, saved⟩
          · rw [ran]
            refine ⟨saved.directories, saved.others.mono ?_,
              keepsOthers_iff_of_failed expanded named saved⟩
            rintro location (led | ⟨impossible, _⟩)
            · exact ⟨p, temporary, expanded, named, Or.inl led⟩
            · exact impossible.elim
          · rw [ran]
            refine ⟨saved.directories, saved.others.mono ?_,
              keepsOthers_iff_of_saved expanded named saved⟩
            rintro location (led | ⟨_, goes⟩)
            · exact ⟨p, temporary, expanded, named, Or.inl led⟩
            · exact ⟨p, temporary, expanded, named, Or.inr ⟨rfl, goes⟩⟩

def brokenBeside : Workspace Unit where
  store := ⟨[(["c.toml"], .file (Text.encodeText "not toml [")), (["c.tmp"], .file [0x61])]⟩
  host := ()

theorem run_saveBy_brokenBeside :
    (saveBy {} ⟨.here, ["c.tmp"]⟩ ⟨.here, ["c.toml"]⟩).run brokenBeside =
      (.error (.settings (.notSaved .badSyntax)), brokenBeside) := by
  have held : brokenBeside.store.read brokenBeside.here ⟨.here, ["c.toml"]⟩ =
      .ok (Text.encodeText "not toml [") :=
    Store.read_eq_ok_iff.mpr
      ⟨["c.toml"], Store.locate_of_walk (by decide) (by decide) rfl, rfl⟩
  have broken : Toml.Layout.readNodes? (Text.unifyBreaks "not toml [".toList) = none := by
    decide +kernel
  have composed := run_textFor {} ⟨.here, ["c.toml"]⟩ brokenBeside
  simp only [oldTextAt, Store.exists?_of_read held, held, Text.decodeText_encodeText, Except.bind,
    textFrom, textOver, broken] at composed
  exact (run_bind_of_ok (run_makeParents_name rfl)).trans (run_bind_of_error composed)

/-- A save that fails on a broken file removes the file beside it. -/
theorem not_keepsOthers_brokenBeside :
    ((save {} ⟨.here, ["c.toml"]⟩).run brokenBeside).1 =
        .error (.settings (.notSaved .badSyntax)) ∧
      ¬KeepsOthers brokenBeside ((save {} ⟨.here, ["c.toml"]⟩).run brokenBeside) := by
  have beside : brokenBeside.store.locate brokenBeside.here ⟨.here, ["c.tmp"]⟩ = .ok ["c.tmp"] :=
    Store.locate_of_walk (by decide) (by decide) rfl
  have standing : brokenBeside.store.at? ["c.tmp"] = some (.file [0x61]) := rfl
  have looked : (Act.exists? ⟨.here, ["c.tmp"]⟩ : Act Unit Bool).run brokenBeside = _ :=
    Act.run_inspect _ brokenBeside
  rw [Store.exists?_of_read (Store.read_eq_ok_iff.mpr ⟨_, beside, standing⟩)] at looked
  have removed := Store.unlink_eq_ok_iff.mpr ⟨_, _, beside, standing, rfl⟩
  have ran : (save {} ⟨.here, ["c.toml"]⟩).run brokenBeside =
      (.error (.settings (.notSaved .badSyntax)),
        { brokenBeside with store := brokenBeside.store.erase ["c.tmp"] }) := by
    rw [run_save_of_failed rfl rfl run_saveBy_brokenBeside, run_bind_of_ok looked]
    exact run_bind_of_ok (Act.run_alter_of_ok removed)
  rw [ran]
  refine ⟨rfl, fun kept => ?_⟩
  refine (save_keepsOthers_iff {} ⟨.here, ["c.toml"]⟩ brokenBeside).2.2.mp (by rwa [ran]) ?_
  refine ⟨⟨.here, ["c.toml"]⟩, ⟨.here, ["c.tmp"]⟩, ["c.tmp"], [0x61], rfl, rfl, ?_, standing, ?_⟩
  · rw [ran]
    exact Store.locate_of_walk (by decide) (by decide) rfl
  · rw [ran]
    intro impossible
    cases impossible

end CommandDocs.Settings
