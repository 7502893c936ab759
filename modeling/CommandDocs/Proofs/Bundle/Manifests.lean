import CommandDocs.Manifest
import CommandDocs.Proofs.Bundle.Again
import CommandDocs.Proofs.Json.Reading

/-!
# Manifests are read back

The sources of a bundle have names of their own, so that a manifest has one member for each of
them.  It is ASCII, it is read as a JSON object with these members in the strict order of their
names, and no other set of names and digests has the same bytes.
-/

namespace CommandDocs

open Files (Path Bytes Store)

variable {η : Type}

/-! ## Members -/

namespace Manifest

/-- The name and the digest of a part. -/
def memberOf (part : Part) : String × String :=
  (part.path.name, part.digest)

/-- Parts with names of their own are members in their order. -/
theorem members_of_nodup {parts : List Part}
    (distinct : (parts.map fun part => part.path.name).Nodup) :
    members parts = parts.map memberOf := by
  have step (done : List (String × String)) (rest : List Part)
      (apart : ∀ member ∈ done, ∀ part ∈ rest, member.1 ≠ part.path.name)
      (own : (rest.map fun part => part.path.name).Nodup) :
      rest.foldl (fun done part => done.filter (fun member => member.1 != part.path.name) ++
        [(part.path.name, part.digest)]) done = done ++ rest.map memberOf := by
    induction rest generalizing done with
    | nil => simp
    | cons part rest ih =>
        rw [List.map_cons, List.nodup_cons] at own
        have kept : done.filter (fun member => member.1 != part.path.name) = done :=
          List.filter_eq_self.mpr fun member there =>
            bne_iff_ne.mpr (apart member there part List.mem_cons_self)
        rw [List.foldl_cons, kept, ih _ _ own.2, List.map_cons, List.append_assoc]
        · rfl
        · intro member there other later
          rcases List.mem_append.mp there with before | new
          · exact apart member before other (List.mem_cons_of_mem part later)
          · rw [List.mem_singleton.mp new]
            intro same
            exact own.1 (List.mem_map.mpr ⟨other, later, same.symm⟩)
  exact step [] parts (by simp) distinct

theorem memberLe_iff (a b : String × String) : memberLe a b = true ↔ a.1.toList ≤ b.1.toList :=
  Text.codePointLe_iff

/-! ## Reading -/

/-- A member that holds a string. -/
def valueOf (member : String × String) : String × Json.Value :=
  (member.1, .string member.2)

theorem valueOf_inj {a b : String × String} (same : valueOf a = valueOf b) : a = b := by
  simp only [valueOf, Prod.mk.injEq, Json.Value.string.injEq] at same
  exact Prod.ext same.1 same.2

theorem toList_memberText (member : String × String) :
    (memberText member).toList = ' ' :: ' ' :: (Json.quote member.1.toList ++
      ':' :: ' ' :: Json.quote member.2.toList) := by
  simp [memberText]

/-- The lines of members, with a comma after each of them but the last. -/
def lines (members : List (String × String)) : List Char :=
  [',', '\n'].intercalate (members.map fun member => (memberText member).toList)

theorem lines_singleton (member : String × String) :
    lines [member] = (memberText member).toList := by
  simp [lines]

theorem lines_cons_cons (member next : String × String) (members : List (String × String)) :
    lines (member :: next :: members) =
      (memberText member).toList ++ ',' :: '\n' :: lines (next :: members) := by
  simp [lines, List.intercalate_cons_cons]

theorem readMembers_member {steps : Nat} (member : String × String) (rest : List Char) :
    Json.readMembers (steps + 2) (Json.skip ((memberText member).toList ++ rest)) =
      match Json.skip rest with
      | ',' :: more => (Json.readMembers (steps + 1) (Json.skip more)).map
          fun (members, after) => (valueOf member :: members, after)
      | '\x7d' :: after => some ([valueOf member], after)
      | _ => none := by
  rw [toList_memberText, List.cons_append, List.cons_append, List.append_assoc, List.cons_append,
    List.cons_append, Json.skip_cons (by decide), Json.skip_cons (by decide), Json.skip_quote,
    Json.readMembers, Json.readName_quote, Json.skip_cons (by decide), Json.skip_quote]
  dsimp only
  rw [Json.readValue_quote]
  rfl

theorem readMembers_lines (member : String × String) (members : List (String × String))
    {steps : Nat} (enough : members.length + 2 ≤ steps) (rest : List Char) :
    Json.readMembers steps (Json.skip (lines (member :: members) ++ '\n' :: '\x7d' :: rest)) =
      some ((member :: members).map valueOf, rest) := by
  induction members generalizing member steps with
  | nil =>
      obtain ⟨more, rfl⟩ : ∃ more, steps = more + 2 := ⟨steps - 2, by omega⟩
      rw [lines_singleton, readMembers_member, Json.skip_cons (by decide),
        Json.skip_of_head (by decide)]
      rfl
  | cons next members ih =>
      rw [List.length_cons] at enough
      obtain ⟨more, rfl⟩ : ∃ more, steps = more + 2 := ⟨steps - 2, by omega⟩
      have later : Json.readMembers (more + 1)
          (Json.skip ('\n' :: (lines (next :: members) ++ '\n' :: '\x7d' :: rest))) =
            some ((next :: members).map valueOf, rest) := by
        rw [Json.skip_cons (by decide)]
        exact ih next (by omega)
      rw [lines_cons_cons, List.append_assoc, List.cons_append, List.cons_append,
        readMembers_member, Json.skip_of_head (by decide)]
      exact congrArg
        (Option.map fun (members, after) => (valueOf member :: members, after)) later

theorem toList_objectText (member : String × String) (members : List (String × String)) :
    (objectText (member :: members)).toList =
      '\x7b' :: '\n' :: (lines (member :: members) ++ ['\n', '\x7d']) := by
  simp [objectText, lines, String.toList_intercalate, Function.comp_def]

theorem length_le_lines (member : String × String) (members : List (String × String)) :
    members.length + 2 ≤ (lines (member :: members)).length := by
  induction members generalizing member with
  | nil => simp [lines_singleton, toList_memberText]
  | cons next members ih =>
      have later := ih next
      rw [lines_cons_cons, List.length_append, List.length_cons, List.length_cons,
        List.length_cons]
      omega

/-- The lines of members open with the quote of a name. -/
theorem exists_skip_lines (member : String × String) (members : List (String × String))
    (rest : List Char) :
    ∃ more, Json.skip (lines (member :: members) ++ rest) = '"' :: more := by
  have own (behind : List Char) :
      ∃ more, Json.skip ((memberText member).toList ++ behind) = '"' :: more := by
    rw [toList_memberText, List.cons_append, List.cons_append, List.append_assoc,
      Json.skip_cons (by decide), Json.skip_cons (by decide), Json.skip_quote, Json.quote_append]
    exact ⟨_, rfl⟩
  cases members with
  | nil =>
      rw [lines_singleton]
      exact own rest
  | cons next members =>
      rw [lines_cons_cons, List.append_assoc]
      exact own _

/-- An object of strings is read back with its members in their order. -/
theorem read?_objectText (members : List (String × String)) :
    Json.read? ((objectText members).toList ++ ['\n']) = some (.object (members.map valueOf)) := by
  cases members with
  | nil => rfl
  | cons member members =>
      have long := length_le_lines member members
      obtain ⟨more, opened⟩ := exists_skip_lines member members ['\n', '\x7d', '\n']
      have enough : members.length + 2 ≤
          2 * ((objectText (member :: members)).toList ++ ['\n']).length := by
        rw [toList_objectText]
        simp
        omega
      have read := readMembers_lines member members enough ['\n']
      have whole : (objectText (member :: members)).toList ++ ['\n'] =
          '\x7b' :: '\n' :: (lines (member :: members) ++ ['\n', '\x7d', '\n']) := by
        rw [toList_objectText, List.cons_append, List.cons_append, List.append_assoc]
        rfl
      have blank : Json.isSpace '\n' = true := by decide
      have found := Json.readValue_object (2 * ((objectText (member :: members)).toList ++
        ['\n']).length) ((Json.skip_cons blank _).trans opened)
      rw [← opened, read] at found
      have shown : Json.skip ((objectText (member :: members)).toList ++ ['\n']) =
          '\x7b' :: '\n' :: (lines (member :: members) ++ ['\n', '\x7d', '\n']) := by
        rw [whole, Json.skip_of_head (by decide)]
      rw [Json.read?, shown, found]
      rfl

/-! ## Characters and bytes -/

theorem toNat_lt_of_mem_memberText {member : String × String} {x : Char}
    (inside : x ∈ (memberText member).toList) : x.toNat < 0x80 := by
  rw [toList_memberText] at inside
  simp only [List.mem_cons, List.mem_append] at inside
  rcases inside with rfl | rfl | own | rfl | rfl | own
  · decide
  · decide
  · exact Json.toNat_lt_of_mem_quote own
  · decide
  · decide
  · exact Json.toNat_lt_of_mem_quote own

theorem toNat_lt_of_mem_lines {member : String × String} {members : List (String × String)}
    {x : Char} (inside : x ∈ lines (member :: members)) : x.toNat < 0x80 := by
  induction members generalizing member with
  | nil =>
      rw [lines_singleton] at inside
      exact toNat_lt_of_mem_memberText inside
  | cons next members ih =>
      rw [lines_cons_cons] at inside
      simp only [List.mem_cons, List.mem_append] at inside
      rcases inside with own | rfl | rfl | later
      · exact toNat_lt_of_mem_memberText own
      · decide
      · decide
      · exact ih later

/-- An object of strings is ASCII. -/
theorem toNat_lt_of_mem_objectText {members : List (String × String)} :
    ∀ x ∈ (objectText members).toList, x.toNat < 0x80 := by
  intro x inside
  cases members with
  | nil =>
      have own : x ∈ ['\x7b', '\x7d'] := inside
      rcases List.mem_pair.mp own with rfl | rfl
      · decide
      · decide
  | cons member members =>
      rw [toList_objectText] at inside
      simp only [List.mem_cons, List.mem_append, List.not_mem_nil, or_false] at inside
      rcases inside with rfl | rfl | own | rfl | rfl
      · decide
      · decide
      · exact toNat_lt_of_mem_lines own
      · decide
      · decide

theorem exists_objectText (members : List (String × String)) :
    ∃ front, (objectText members).toList = front ++ ['\x7d'] := by
  cases members with
  | nil => exact ⟨['\x7b'], rfl⟩
  | cons member members =>
      rw [toList_objectText]
      exact ⟨'\x7b' :: '\n' :: (lines (member :: members) ++ ['\n']), by simp⟩

end Manifest

/-- Bytes that end in one line feed and no more. -/
def EndsInOneFeed (bytes : Bytes) : Prop :=
  ∃ body, bytes = body ++ [0x0A] ∧ body.getLast? ≠ some 0x0A

def Bundle.members (bundle : Bundle) : List (String × String) :=
  (Manifest.members bundle.parts).mergeSort Manifest.memberLe

section Text

variable (bundle : Bundle)

theorem Manifest.toList_text :
    (Manifest.text bundle).toList = (objectText bundle.members).toList ++ ['\n'] := by
  simp [Manifest.text, Bundle.members]

theorem Manifest.read?_text :
    Json.read? (Manifest.text bundle).toList = some (.object (bundle.members.map valueOf)) := by
  rw [toList_text, read?_objectText]

theorem Manifest.ascii_text : ∀ b ∈ Text.encodeText (Manifest.text bundle), b < 0x80 := by
  refine Text.Utf8.lt_of_mem_encode fun c member => ?_
  rw [toList_text, List.mem_append, List.mem_singleton] at member
  rcases member with own | rfl
  · exact toNat_lt_of_mem_objectText c own
  · decide

theorem Manifest.endsInOneFeed_text : EndsInOneFeed (Text.encodeText (Manifest.text bundle)) := by
  obtain ⟨front, closed⟩ := exists_objectText bundle.members
  have feed : Text.Utf8.encode ['\n'] = [0x0A] := by decide
  have brace : Text.Utf8.encode ['\x7d'] = [0x7D] := by decide
  refine ⟨Text.Utf8.encode front ++ [0x7D], ?_, ?_⟩
  · rw [Text.encodeText, toList_text, closed, Text.Utf8.encode_append, Text.Utf8.encode_append,
      feed, brace]
  · simp

end Text

/-! ## Manifests of bundles -/

/-- A bundle that has been written from the files of a tree, from scripts whose extension holds no
slash. -/
def Bundle.IsMadeFrom (bundle : Bundle) (w : Workspace η) : Prop :=
  w.store.IsTree ∧ ∃ module extension source output selection after,
    '/' ∉ selection.scriptExtension.toList ∧
    (writeBundle module source output selection extension).run w = (.ok bundle, after)

/-- The names of the sources with their digests. -/
def Bundle.digests (bundle : Bundle) : List (String × String) :=
  bundle.hashes.map fun hash => (hash.1.name, hash.2)

section Made

variable {w : Workspace η} {bundle : Bundle} (made : bundle.IsMadeFrom w)
include made

theorem Bundle.IsMadeFrom.isPart :
    List.Forall₂ (IsPart w.store w.here) bundle.sources bundle.parts := by
  obtain ⟨_, module, extension, source, output, selection, after, _, ran⟩ := made
  obtain ⟨-, -, -, parts, -⟩ := exists_put_of_run_writeBundle_ok ran
  exact parts

/-- No two sources have the same name. -/
theorem Bundle.IsMadeFrom.nodup_names : (bundle.parts.map fun part => part.path.name).Nodup := by
  obtain ⟨tree, module, extension, source, output, selection, after, flat, ran⟩ := made
  obtain ⟨there, -, listed, -⟩ := exists_put_of_run_writeBundle_ok ran
  obtain ⟨location, led, standing⟩ := Store.isDirectory_eq_true_iff.mp there
  have accepted : selection.pattern? ≠ none := by
    obtain ⟨pattern, found, written, -⟩ := sourcesIn_eq_ok_iff_found.mp listed
    rw [written]
    simp
  obtain ⟨-, sorted, -⟩ := (sourcesIn_eq_ok_iff led standing flat accepted tree).mp listed
  have names : bundle.parts.map (fun part => part.path.name) = bundle.sources.map Path.name := by
    simp [Bundle.sources]
  rw [names]
  refine List.Nodup.of_map Text.listingKey ?_
  rw [List.map_map, List.nodup_iff_pairwise_ne, List.pairwise_map]
  exact sorted.imp fun less => less.ne

theorem Bundle.IsMadeFrom.members_eq : Manifest.members bundle.parts = bundle.digests := by
  rw [Manifest.members_of_nodup made.nodup_names, Bundle.digests, Bundle.hashes, List.map_map]
  rfl

theorem Bundle.IsMadeFrom.mem_members_iff {member : String × String} :
    member ∈ bundle.members ↔ member ∈ bundle.digests := by
  rw [Bundle.members, List.mem_mergeSort, made.members_eq]

theorem Bundle.IsMadeFrom.pairwise_members :
    bundle.members.Pairwise fun a b => a.1.toList < b.1.toList := by
  refine Text.strictly_mergeSort_key Manifest.memberLe_iff ?_
  have distinct := made.nodup_names.map fun _ _ => String.toList_inj.mp
  rw [List.map_map] at distinct
  rw [Manifest.members_of_nodup made.nodup_names, List.map_map]
  exact distinct

theorem Bundle.IsMadeFrom.length_members : bundle.members.length = bundle.sources.length := by
  rw [Bundle.members, List.length_mergeSort, made.members_eq]
  simp [Bundle.digests, Bundle.hashes, Bundle.sources]

theorem Bundle.IsMadeFrom.mem_digests_iff {name digest : String} :
    (name, digest) ∈ bundle.digests ↔ ∃ source ∈ bundle.sources, source.name = name ∧
      ∃ held, w.store.read w.here source = .ok held ∧ digest = Digest.hexDigest held := by
  have hashed := mem_hashes_of_isPart made.isPart bundle.output
  simp only [Bundle.digests, List.mem_map, Prod.exists, Prod.mk.injEq]
  constructor
  · rintro ⟨source, own, member, named, rfl⟩
    obtain ⟨listed, held, read, same⟩ := (hashed source own).mp member
    exact ⟨source, listed, named, held, read, same⟩
  · rintro ⟨source, listed, named, held, read, same⟩
    exact ⟨source, digest, (hashed source digest).mpr ⟨listed, held, read, same⟩, named, rfl⟩

/-- Manifests are equal when the bundles have the same names with the same digests. -/
theorem Bundle.IsMadeFrom.encodeText_text_eq_iff {θ : Type} {other : Bundle} {v : Workspace θ}
    (otherMade : other.IsMadeFrom v) :
    Text.encodeText (Manifest.text bundle) = Text.encodeText (Manifest.text other) ↔
      ∀ member, member ∈ bundle.digests ↔ member ∈ other.digests := by
  constructor
  · intro same
    have texts := congrArg Text.decodeText same
    rw [Text.decodeText_encodeText, Text.decodeText_encodeText, Except.ok.injEq] at texts
    have values := Manifest.read?_text bundle
    rw [texts, Manifest.read?_text, Option.some.injEq, Json.Value.object.injEq] at values
    have members : other.members = bundle.members :=
      List.map_injective_iff.mpr (fun _ _ => Manifest.valueOf_inj) values
    intro member
    rw [← made.mem_members_iff, ← otherMade.mem_members_iff, members]
  · intro same
    have members : bundle.members = other.members :=
      Text.eq_of_strictly (fun member => member.1.toList) made.pairwise_members
        otherMade.pairwise_members fun member => by
          rw [made.mem_members_iff, otherMade.mem_members_iff, same]
    have texts : (Manifest.text bundle).toList = (Manifest.text other).toList := by
      rw [Manifest.toList_text, Manifest.toList_text, members]
    rw [Text.encodeText, Text.encodeText, texts]

end Made

theorem read_of_run_writeManifest_ok {bundle : Bundle} {p q : Path} {v after : Workspace η}
    (ran : (writeManifest bundle p).run v = (.ok q, after)) :
    after.store.read after.here p = .ok (Text.encodeText (Manifest.text bundle)) := by
  cases written : v.store.write v.here p (Text.encodeText (Manifest.text bundle)) with
  | error fault =>
      have failed := (run_bind_of_error (Act.run_writeText_of_error written)).symm.trans ran
      cases failed
  | ok store =>
      have ended := (run_bind_of_ok (Act.run_writeText_of_ok written)).symm.trans ran
      cases ended
      exact Store.read_of_write written

/-- A manifest is ASCII, ends in one line feed, and is read as an object with one member for each
source, its name with the digest of its bytes, in the strict order of the names.  Manifests have the
same bytes exactly when the bundles have the same names with the same digests. -/
theorem writeManifest_exact {bundle : Bundle} {w v after : Workspace η} {p q : Path}
    (made : bundle.IsMadeFrom w) (ran : (writeManifest bundle p).run v = (.ok q, after)) :
    ∃ (bytes : Bytes) (text : String) (members : List (String × String)),
      after.store.read after.here p = .ok bytes ∧ (∀ b ∈ bytes, b < 0x80) ∧
      EndsInOneFeed bytes ∧ Text.decodeText bytes = .ok text ∧
      Json.read? text.toList = some (.object (members.map Manifest.valueOf)) ∧
      members.Pairwise (fun a b => a.1.toList < b.1.toList) ∧
      members.length = bundle.sources.length ∧
      (∀ name digest, (name, digest) ∈ members ↔ ∃ source ∈ bundle.sources, source.name = name ∧
        ∃ held, w.store.read w.here source = .ok held ∧ digest = Digest.hexDigest held) ∧
      ∀ (other : Bundle) (w' v' after' : Workspace η) (p' q' : Path), other.IsMadeFrom w' →
        (writeManifest other p').run v' = (.ok q', after') →
        (after'.store.read after'.here p' = .ok bytes ↔
          ∀ member, member ∈ bundle.digests ↔ member ∈ other.digests) := by
  refine ⟨_, _, bundle.members, read_of_run_writeManifest_ok ran, Manifest.ascii_text bundle,
    Manifest.endsInOneFeed_text bundle, Text.decodeText_encodeText _, Manifest.read?_text bundle,
    made.pairwise_members, made.length_members, ?_, ?_⟩
  · intro name digest
    rw [made.mem_members_iff, made.mem_digests_iff]
  · intro other w' v' after' p' q' otherMade otherRan
    rw [read_of_run_writeManifest_ok otherRan, Except.ok.injEq, eq_comm,
      made.encodeText_text_eq_iff otherMade]

theorem writeManifest_exact_twoScripts :
    ∃ (bundle : Bundle) (after last : Workspace Unit) (bytes : Bytes) (text : String)
      (members : List (String × String)),
      (writeBundle "M" ⟨.here, ["src"]⟩ ⟨.here, ["out"]⟩ {} "psm1").run (twoScripts [0x62]) =
        (.ok bundle, after) ∧
      (writeManifest bundle ⟨.here, ["m.json"]⟩).run after = (.ok ⟨.here, ["m.json"]⟩, last) ∧
      last.store.read last.here ⟨.here, ["m.json"]⟩ = .ok bytes ∧ Text.decodeText bytes = .ok text ∧
      Json.read? text.toList = some (.object (members.map Manifest.valueOf)) ∧
      ("b.ps1", Digest.hexDigest [0x62]) ∈ members := by
  obtain ⟨bundle, after, ran⟩ := exists_bundle_twoScripts
  obtain ⟨-, -, listed, -, -, here, location, -, free, stored⟩ :=
    exists_put_of_run_writeBundle_ok ran
  have sources : bundle.sources = scriptPaths := by
    have found := listSources_twoScripts [0x62]
    rw [run_listSources, listed] at found
    exact Except.ok.inj found
  have root : after.store.at? after.here = some .directory := by rw [here]; rfl
  have led : after.store.locate after.here ⟨.here, ["m.json"]⟩ = .ok (after.here ++ ["m.json"]) :=
    Store.locate_name root (by decide) (by rw [String.contains_char_eq]; decide)
  have vacant : after.store.at? (after.here ++ ["m.json"]) ≠ some .directory := by
    have before :
        (twoScripts [0x62]).store.at? ((twoScripts [0x62]).here ++ ["m.json"]) = none := rfl
    rw [here, stored]
    intro there
    have old := (Store.sameDirectories_put free _ _).mpr there
    rw [before] at old
    cases old
  have written : after.store.write after.here ⟨.here, ["m.json"]⟩
      (Text.encodeText (Manifest.text bundle)) = .ok _ :=
    Store.write_eq_ok_iff.mpr ⟨_, led, vacant, rfl⟩
  have wrote :
      (writeManifest bundle ⟨.here, ["m.json"]⟩).run after = (.ok ⟨.here, ["m.json"]⟩, _) :=
    run_bind_of_ok (Act.run_writeText_of_ok written)
  have made : bundle.IsMadeFrom (twoScripts [0x62]) :=
    ⟨isTree_twoScripts _, "M", "psm1", ⟨.here, ["src"]⟩, ⟨.here, ["out"]⟩, {}, after,
      by decide, ran⟩
  obtain ⟨bytes, text, members, read, -, -, decoded, object, -, -, each, -⟩ :=
    writeManifest_exact made wrote
  have second := (List.cons.inj (List.cons.inj (read_twoScripts [0x62])).2).1
  refine ⟨bundle, after, _, bytes, text, members, ran, wrote, read, decoded, object, ?_⟩
  refine (each _ _).mpr ⟨⟨.here, ["src", "b.ps1"]⟩, ?_, rfl, [0x62], second, rfl⟩
  rw [sources]
  simp [scriptPaths]

end CommandDocs
