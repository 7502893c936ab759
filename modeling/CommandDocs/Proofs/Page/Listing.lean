import CommandDocs.Proofs.Page.Lossless
import CommandDocs.Proofs.Text.Lines
import CommandDocs.Summary

/-!
# The lines of a summary

A summary is a head, one line for each entry, and a foot.  Nothing in it is escaped, but no part of
a line holds a line feed, so that no entry can add a line or take one away; and no link starts like
the marker, so that no entry can flag itself.
-/

namespace CommandDocs.Summary

open Help (IsFlat)
open Page (isFlat_append isFlat_framed)

/-! ## Lines of a page -/

theorem toList_intercalate_feed (lines : List String) :
    ("\n".intercalate lines).toList = Text.joinFeeds (lines.map String.toList) := by
  induction lines with
  | nil => simp [Text.joinFeeds, Text.joinWith]
  | cons line rest ih =>
      cases rest with
      | nil => simp [Text.joinFeeds, Text.joinWith]
      | cons next others =>
          rw [String.intercalate_cons_cons, String.toList_append, String.toList_append, ih,
            List.append_assoc]
          rfl

theorem splitFeeds_joinLines {lines : List String} (nonempty : lines ≠ [])
    (flat : ∀ line ∈ lines, IsFlat line) :
    Text.splitFeeds (joinLines lines).toList = lines.map String.toList ++ [[]] := by
  have joined : joinLines lines = "\n".intercalate (lines ++ [""]) := by
    rw [String.intercalate_append_of_ne_nil nonempty (by simp), String.intercalate_singleton,
      String.append_empty]
    rfl
  rw [joined, toList_intercalate_feed, List.map_append]
  refine Text.splitAt_joinWith (by simp) fun piece member => ?_
  rcases List.mem_append.mp member with line | last
  · obtain ⟨source, known, rfl⟩ := List.mem_map.mp line
    exact flat source known
  · rw [List.mem_singleton.mp last]
    decide

/-! ## Styles -/

/-- How a summary is laid out: the lines before the list, what opens an item, the marker of a
flagged item, its link, what closes it, and the lines after the list.  No link can be taken for the
marker, and no line after the list for an item. -/
structure Style where
  headLines : Nat
  head : (module sentence : String) → List String
  bullet : String
  flag : String
  link : String → String
  closing : String
  foot : List String
  headed : headLines ≠ 0
  length_head : ∀ module sentence, (head module sentence).length = headLines
  bulleted : bullet ≠ ""
  apart : ∀ name rest, ¬flag.toList <+: (link name).toList ++ rest
  footless : ∀ line ∈ foot, ¬bullet.toList <+: line.toList

namespace Style

/-- A style without line feeds of its own. -/
structure IsPlain (style : Style) : Prop where
  head : ∀ {module sentence}, IsFlat module → IsFlat sentence →
    ∀ line ∈ style.head module sentence, IsFlat line
  bullet : IsFlat style.bullet
  flag : IsFlat style.flag
  link : ∀ {name}, IsFlat name → IsFlat (style.link name)
  closing : IsFlat style.closing
  foot : ∀ line ∈ style.foot, IsFlat line

/-- The item of an entry: bullet, marker if it is flagged, link and synopsis. -/
def item (style : Style) (flagged : List String) (e : Entry) : String :=
  style.bullet ++ (if e.name ∈ flagged then style.flag else "") ++ style.link e.name ++ " - " ++
    e.synopsis ++ style.closing

/-- The sentence that gives the number of some commands, with its decimal digits. -/
def sentence (module : String) (count : Nat) : String :=
  "The " ++ module ++ " module contains " ++ String.ofList (Nat.toDigits 10 count) ++
    (if count = 1 then " command:" else " commands:")

theorem intro_eq_sentence (module : String) (count : Nat) :
    intro module count = sentence module count := by
  have number : toString count = String.ofList (Nat.toDigits 10 count) := rfl
  simp only [intro, sentence, number, beq_iff_eq]

/-- The lines of a summary. -/
def lines (style : Style) (module : String) (entries : List Entry) (flagged : List String) :
    List String :=
  style.head module (intro module entries.length) ++ entries.map (style.item flagged) ++ style.foot

/-- The lines of a page after the head that start with the bullet. -/
def itemLines (style : Style) (page : String) : List (List Char) :=
  ((Text.splitFeeds page.toList).drop style.headLines).filter fun line =>
    style.bullet.toList.isPrefixOf line

/-- A line that shows an entry: it links to its name and ends in its synopsis, and the marker
stands after the bullet if and only if the name is flagged. -/
structure IsItem (style : Style) (flagged : List String) (e : Entry) (line : List Char) : Prop where
  shape : line = (style.item flagged e).toList
  marked : (style.bullet ++ style.flag).toList <+: line ↔ e.name ∈ flagged

/-- A page that lists some entries.  Between head and foot there is one item for each entry, in
order, there are no other items after the head, and the sentence in the head gives their number. -/
structure Lists (style : Style) (module : String) (flagged : List String) (entries : List Entry)
    (page : String) : Prop where
  lines : Text.splitFeeds page.toList =
    (style.head module (sentence module (style.itemLines page).length)).map String.toList ++
      style.itemLines page ++ (style.foot ++ [""]).map String.toList
  items : List.Forall₂ (style.IsItem flagged) entries (style.itemLines page)

/-- Only the marker itself stands after the bullet where the marker would. -/
theorem flag_iff (style : Style) (flagged : List String) (e : Entry) :
    (style.bullet ++ style.flag).toList <+: (style.item flagged e).toList ↔ e.name ∈ flagged := by
  simp only [item, String.toList_append, List.append_assoc, List.prefix_append_right_inj]
  by_cases member : e.name ∈ flagged
  · rw [if_pos member]
    exact iff_of_true (List.prefix_append _ _) member
  · rw [if_neg member, String.toList_empty, List.nil_append]
    exact iff_of_false (style.apart _ _) member

theorem isItem_item (style : Style) (flagged : List String) (e : Entry) :
    style.IsItem flagged e (style.item flagged e).toList :=
  ⟨rfl, style.flag_iff flagged e⟩

theorem bullet_prefix_item (style : Style) (flagged : List String) (e : Entry) :
    style.bullet.toList <+: (style.item flagged e).toList := by
  simp only [item, String.toList_append, List.append_assoc]
  exact List.prefix_append _ _

variable {style : Style} {module page : String} {flagged : List String} {entries : List Entry}

theorem isFlat_intro (flat : IsFlat module) (count : Nat) : IsFlat (intro module count) := by
  have number : IsFlat (toString count) := Page.isFlat_toString count
  unfold intro
  refine isFlat_append (isFlat_append (isFlat_append (isFlat_append (by decide) flat) (by decide))
    number) ?_
  split <;> decide

theorem IsPlain.isFlat_item (plain : style.IsPlain) {e : Entry} (name : IsFlat e.name)
    (synopsis : IsFlat e.synopsis) : IsFlat (style.item flagged e) := by
  have marker : IsFlat (if e.name ∈ flagged then style.flag else "") := by
    split
    · exact plain.flag
    · decide
  exact isFlat_append (isFlat_append (isFlat_append (isFlat_append
    (isFlat_append plain.bullet marker) (plain.link name)) (by decide)) synopsis) plain.closing

theorem IsPlain.isFlat_of_mem_lines (plain : style.IsPlain) (flat : IsFlat module)
    (flatEntries : ∀ e ∈ entries, IsFlat e.name ∧ IsFlat e.synopsis) {line : String}
    (member : line ∈ style.lines module entries flagged) : IsFlat line := by
  rcases List.mem_append.mp member with before | after
  · rcases List.mem_append.mp before with head | item
    · exact plain.head flat (isFlat_intro flat _) line head
    · obtain ⟨e, known, rfl⟩ := List.mem_map.mp item
      exact plain.isFlat_item (flatEntries e known).1 (flatEntries e known).2
  · exact plain.foot line after

/-- The items of a page stand between its head and its foot. -/
theorem itemLines_eq {head : List (List Char)} {items foot : List String}
    (split : Text.splitFeeds page.toList =
      head ++ items.map String.toList ++ (foot ++ [""]).map String.toList)
    (long : head.length = style.headLines)
    (opened : ∀ line ∈ items, style.bullet.toList <+: line.toList)
    (footless : ∀ line ∈ foot, ¬style.bullet.toList <+: line.toList) :
    style.itemLines page = items.map String.toList := by
  have inside : (items.map String.toList).filter (fun line => style.bullet.toList.isPrefixOf line) =
      items.map String.toList := by
    refine List.filter_eq_self.mpr fun line member => ?_
    obtain ⟨source, known, rfl⟩ := List.mem_map.mp member
    exact List.isPrefixOf_iff_prefix.mpr (opened source known)
  have outside : ((foot ++ [""]).map String.toList).filter
      (fun line => style.bullet.toList.isPrefixOf line) = [] := by
    refine List.filter_eq_nil_iff.mpr fun line member => ?_
    obtain ⟨source, known, rfl⟩ := List.mem_map.mp member
    rw [List.isPrefixOf_iff_prefix]
    rcases List.mem_append.mp known with last | empty
    · exact footless source last
    · rw [List.mem_singleton.mp empty]
      exact fun opens => style.bulleted (String.toList_eq_nil_iff.mp (List.prefix_nil.mp opens))
  rw [itemLines, split, List.append_assoc, List.drop_left' long, List.filter_append, inside,
    outside, List.append_nil]

/-- **Summaries list their entries.**  Whatever flat entries say, the items of their summary are
theirs, one line for each. -/
theorem IsPlain.lists (plain : style.IsPlain) (flat : IsFlat module)
    (flatEntries : ∀ e ∈ entries, IsFlat e.name ∧ IsFlat e.synopsis) (flagged : List String) :
    style.Lists module flagged entries (joinLines (style.lines module entries flagged)) := by
  have full : style.lines module entries flagged ≠ [] := by
    intro empty
    have head := (List.append_eq_nil_iff.mp (List.append_eq_nil_iff.mp empty).1).1
    have long := style.length_head module (intro module entries.length)
    rw [head] at long
    exact style.headed long.symm
  have split : Text.splitFeeds (joinLines (style.lines module entries flagged)).toList =
      (style.head module (intro module entries.length)).map String.toList ++
        (entries.map (style.item flagged)).map String.toList ++
          (style.foot ++ [""]).map String.toList := by
    rw [splitFeeds_joinLines full fun line member => plain.isFlat_of_mem_lines flat flatEntries
      member]
    simp [lines]
  have items : style.itemLines (joinLines (style.lines module entries flagged)) =
      (entries.map (style.item flagged)).map String.toList := by
    refine itemLines_eq split ?_ ?_ style.footless
    · rw [List.length_map, style.length_head]
    · intro line member
      obtain ⟨e, _, rfl⟩ := List.mem_map.mp member
      exact style.bullet_prefix_item flagged e
  refine ⟨?_, ?_⟩
  · rw [items, List.length_map, List.length_map, ← intro_eq_sentence]
    exact split
  · rw [items, List.map_map, List.forall₂_map_right_iff]
    exact List.forall₂_same.mpr fun e _ => style.isItem_item flagged e

/-! ## The styles of the program -/

/-- Summaries in HTML link to the pages beside them. -/
def html : Style where
  headLines := 2
  head _ sentence := ["<p>" ++ sentence ++ "</p>", "<ul>"]
  bullet := "<li>"
  flag := "<strong>IN PROGRESS</strong> "
  link name := "<a href=\"cmdlets/" ++ name ++ ".html\">" ++ name ++ "</a>"
  closing := "</li>"
  foot := ["</ul>"]
  headed := by decide
  length_head _ _ := rfl
  bulleted := by decide
  apart name rest opens := by
    simp only [String.toList_append, List.append_assoc] at opens
    exact absurd opens (by simp)
  footless := by decide

/-- Summaries in Markdown link to an address. -/
def markdown (address : String) : Style where
  headLines := 4
  head module sentence := ["# " ++ module, "", sentence, ""]
  bullet := "* "
  flag := "**IN PROGRESS** "
  link name := "[" ++ name ++ "](" ++ trimSlashes address ++ "/" ++ name ++ ".html)"
  closing := ""
  foot := []
  headed := by decide
  length_head _ _ := rfl
  bulleted := by decide
  apart name rest opens := by
    simp only [String.toList_append, List.append_assoc] at opens
    exact absurd opens (by simp)
  footless := by simp

theorem htmlItem_eq : htmlItem = html.item := by
  funext flagged e
  have link : "</a> - " = "</a>" ++ " - " := rfl
  simp only [htmlItem, item, html, marker, List.contains_iff_mem, link, String.append_assoc]
  rfl

theorem markdownItem_eq (address : String) :
    markdownItem (trimSlashes address) = (markdown address).item := by
  funext flagged e
  have link : ".html) - " = ".html)" ++ " - " := rfl
  simp only [markdownItem, item, markdown, marker, List.contains_iff_mem, link, String.append_assoc,
    String.append_empty]
  rfl

theorem renderHtml_eq (module : String) (entries : List Entry) (flagged : List String) :
    renderHtml module entries flagged = joinLines (html.lines module entries flagged) := by
  rw [renderHtml, htmlLines, htmlItem_eq]
  rfl

theorem renderMarkdown_eq (module : String) (entries : List Entry) (address : String)
    (flagged : List String) :
    renderMarkdown module entries address flagged =
      joinLines ((markdown address).lines module entries flagged) := by
  rw [renderMarkdown, markdownLines, markdownItem_eq]
  exact congrArg joinLines (List.append_nil _).symm

theorem isFlat_trimSlashes {address : String} (flat : IsFlat address) :
    IsFlat (trimSlashes address) := by
  refine Help.isFlat_ofList fun member => flat ?_
  have kept := (List.dropWhile_sublist _).subset (List.mem_reverse.mp member)
  exact List.mem_reverse.mp kept

theorem isPlain_html : html.IsPlain where
  head _ sentence line member := by
    simp only [html, List.mem_cons, List.not_mem_nil, or_false] at member
    rcases member with rfl | rfl
    · exact isFlat_framed sentence (by decide)
    · decide
  bullet := by decide
  flag := by decide
  link name := isFlat_append (isFlat_append (isFlat_framed name (by decide)) name) (by decide)
  closing := by decide
  foot := by decide

theorem isPlain_markdown {address : String} (flat : IsFlat address) :
    (markdown address).IsPlain where
  head module sentence line member := by
    simp only [markdown, List.mem_cons, List.not_mem_nil, or_false] at member
    rcases member with rfl | rfl | rfl | rfl
    · exact isFlat_append (by decide) module
    · decide
    · exact sentence
    · decide
  bullet := show IsFlat "* " by decide
  flag := show IsFlat ("**" ++ markerText ++ "** ") by decide
  link {name} plain := by
    have base : IsFlat ("[" ++ name ++ "](" ++ trimSlashes address) :=
      isFlat_append (isFlat_framed plain (by decide)) (isFlat_trimSlashes flat)
    exact isFlat_append (isFlat_append (isFlat_append base (by decide)) plain) (by decide)
  closing := show IsFlat "" by decide
  foot _ member := nomatch member

/-- A synopsis that looks like another item stays inside its own. -/
example : html.itemLines (renderHtml "Tools" [⟨"Get-A", "</li><li>Get-B"⟩] []) =
    ["<li><a href=\"cmdlets/Get-A.html\">Get-A</a> - </li><li>Get-B</li>".toList] := by
  decide +kernel

end Style

end CommandDocs.Summary
