import CommandDocs.Host.Script
import Mathlib.Data.List.Basic

/-!
# Quoted values as literals

The shell knows five characters for a single quote.  Any of them opens a literal, two in a row
inside it stand for the second one, and one alone closes it.  Quoting doubles the plain quote and
none of the other four, so that a quoted value is one literal exactly when it holds none of them.
-/

namespace CommandDocs.Host

/-! ## Reading a literal -/

/-- The characters that count as a single quote: the plain one and the four typographic ones. -/
def isQuoteMark (c : Char) : Bool :=
  c == '\'' || (0x2018 ≤ c.toNat && c.toNat ≤ 0x201B)

/-- The content of a literal after its opening mark, and what follows the mark that closes it. -/
def readContent : List Char → Option (List Char × List Char)
  | [] => none
  | [c] => if isQuoteMark c then some ([], []) else none
  | c :: d :: rest =>
      if isQuoteMark c then
        if isQuoteMark d then (readContent rest).map fun (content, after) => (d :: content, after)
        else some ([], d :: rest)
      else (readContent (d :: rest)).map fun (content, after) => (c :: content, after)

/-- The content of the literal that opens a script, and the script after it. -/
def readLiteral : List Char → Option (List Char × List Char)
  | [] => none
  | c :: rest => if isQuoteMark c then readContent rest else none

theorem readContent_cons_of_plain {c : Char} (plain : isQuoteMark c = false) (s : List Char) :
    readContent (c :: s) = (readContent s).map fun (content, after) => (c :: content, after) := by
  cases s <;> simp [readContent, plain]

theorem readContent_pair {c d : Char} (first : isQuoteMark c = true) (second : isQuoteMark d = true)
    (s : List Char) :
    readContent (c :: d :: s) =
      (readContent s).map fun (content, after) => (d :: content, after) := by
  simp [readContent, first, second]

/-- A mark before anything but a mark closes the literal. -/
theorem readContent_closing {c : Char} (mark : isQuoteMark c = true) {rest : List Char}
    (apart : ∀ d ∈ rest.head?, isQuoteMark d = false) :
    readContent (c :: rest) = some ([], rest) := by
  cases rest with
  | nil => simp [readContent, mark]
  | cons d rest => simp [readContent, mark, apart d rfl]

/-- A literal takes one character for each of its content, another for each pair of marks, and the
mark that closes it. -/
theorem exists_of_readContent {s content after : List Char}
    (read : readContent s = some (content, after)) :
    ∃ taken, s = taken ++ after ∧
      2 * content.length + taken.countP isQuoteMark + 1 = 2 * taken.length := by
  fun_induction readContent s generalizing content with
  | case1 | case3 => cases read
  | case2 c mark =>
      cases read
      exact ⟨[c], rfl, by simp [mark]⟩
  | case4 c d rest first second ih =>
      obtain ⟨⟨inner, last⟩, found, same⟩ := Option.map_eq_some_iff.mp read
      cases same
      obtain ⟨taken, rfl, balance⟩ := ih found
      refine ⟨c :: d :: taken, rfl, ?_⟩
      simp only [List.length_cons, List.countP_cons, first, second, if_true]
      omega
  | case5 c d rest first second =>
      cases read
      exact ⟨[c], rfl, by simp [first]⟩
  | case6 c d rest plain ih =>
      obtain ⟨⟨inner, last⟩, found, same⟩ := Option.map_eq_some_iff.mp read
      cases same
      obtain ⟨taken, split, balance⟩ := ih found
      refine ⟨c :: taken, by rw [split, List.cons_append], ?_⟩
      simp only [List.length_cons, List.countP_cons, plain, Bool.false_eq_true, if_false]
      omega

/-! ## What quoting writes -/

theorem length_doubleQuotes (value : List Char) :
    (doubleQuotes value).length = value.length + value.count '\'' := by
  induction value with
  | nil => rfl
  | cons c rest ih =>
      by_cases plain : c = '\''
      · simp [doubleQuotes, plain, ih]
        omega
      · simp [doubleQuotes, plain, ih]
        omega

theorem countP_doubleQuotes (value : List Char) :
    (doubleQuotes value).countP isQuoteMark =
      value.countP isQuoteMark + value.count '\'' := by
  have mark : isQuoteMark '\'' = true := by decide
  induction value with
  | nil => rfl
  | cons c rest ih =>
      by_cases plain : c = '\''
      · simp [doubleQuotes, plain, ih, mark]
        omega
      · simp [doubleQuotes, plain, ih, List.countP_cons]
        omega

theorem toList_quote_append (value : String) (rest : List Char) :
    (quote value).toList ++ rest = '\'' :: (doubleQuotes value.toList ++ '\'' :: rest) := by
  simp [quote]

/-- A value without typographic marks is read back. -/
theorem readContent_doubleQuotes {value rest : List Char}
    (plain : ∀ c ∈ value, isQuoteMark c = true → c = '\'')
    (apart : ∀ c ∈ rest.head?, isQuoteMark c = false) :
    readContent (doubleQuotes value ++ '\'' :: rest) = some (value, rest) := by
  have mark : isQuoteMark '\'' = true := by decide
  induction value with
  | nil => exact readContent_closing mark apart
  | cons c value ih =>
      have later := ih fun d member => plain d (List.mem_cons_of_mem c member)
      by_cases own : c = '\''
      · subst own
        rw [doubleQuotes, if_pos (by decide), List.cons_append, List.cons_append,
          readContent_pair mark mark, later]
        rfl
      · have unmarked : isQuoteMark c = false :=
          Bool.eq_false_iff.mpr fun marked => own (plain c List.mem_cons_self marked)
        rw [doubleQuotes, if_neg (by simpa using own), List.cons_append,
          readContent_cons_of_plain unmarked, later]
        rfl

/-- A text with as many marks as plain quotes holds no other mark. -/
theorem eq_of_countP_eq_count {value : List Char}
    (same : value.countP isQuoteMark = value.count '\'') :
    ∀ c ∈ value, isQuoteMark c = true → c = '\'' := by
  have parted := List.countP_eq_countP_filter_add value isQuoteMark (· == '\'')
  have quotes : (value.filter (· == '\'')).countP isQuoteMark = value.count '\'' := by
    rw [List.countP_filter, List.count]
    refine List.countP_congr fun c _ => ?_
    by_cases own : c = '\''
    · simp [own, isQuoteMark]
    · simp [own]
  have none : (value.filter (!· == '\'')).countP isQuoteMark = 0 := by omega
  intro c member marked
  by_contra other
  have kept : c ∈ value.filter (!· == '\'') := List.mem_filter.mpr ⟨member, by simpa using other⟩
  exact List.countP_eq_zero.mp none c kept marked

/-- **A quoted value is one literal with the value as its content exactly when it holds no
typographic quote.** -/
theorem readLiteral_quote_iff (value : String) {rest : List Char}
    (apart : ∀ c ∈ rest.head?, isQuoteMark c = false) :
    readLiteral ((quote value).toList ++ rest) = some (value.toList, rest) ↔
      ∀ c ∈ value.toList, isQuoteMark c = true → c = '\'' := by
  have opened : readLiteral ((quote value).toList ++ rest) =
      readContent (doubleQuotes value.toList ++ '\'' :: rest) := by
    rw [toList_quote_append, readLiteral, if_pos (by decide)]
  rw [opened]
  constructor
  · intro read
    obtain ⟨taken, split, balance⟩ := exists_of_readContent read
    have whole : taken = doubleQuotes value.toList ++ ['\''] := by
      refine (List.append_left_inj rest).mp (split.symm.trans ?_)
      rw [List.append_assoc, List.singleton_append]
    refine eq_of_countP_eq_count ?_
    have mark : isQuoteMark '\'' = true := by decide
    rw [whole, List.countP_append, countP_doubleQuotes, List.length_append, length_doubleQuotes,
      List.countP_singleton, if_pos mark, List.length_singleton] at balance
    omega
  · exact fun plain => readContent_doubleQuotes plain apart

/-- A name that opens with a typographic quote ends its literal at once, and the rest of the name
stands in the script. -/
theorem not_readLiteral_quote_typographic :
    (∀ c ∈ [' ', '-', 'F'].head?, isQuoteMark c = false) ∧
      ¬readLiteral ((quote "\u2019; exit #").toList ++ [' ', '-', 'F']) =
        some ("\u2019; exit #".toList, [' ', '-', 'F']) := by
  have apart : ∀ c ∈ [' ', '-', 'F'].head?, isQuoteMark c = false := by
    rintro c ⟨⟩
    decide
  refine ⟨apart, fun read => ?_⟩
  have plain := (readLiteral_quote_iff "\u2019; exit #" apart).mp read '\u2019' (by decide)
    (by decide)
  exact absurd plain (by decide)

example : readLiteral ((quote "\u2019; exit #").toList ++ [' ', '-', 'F']) =
    some ([], "; exit #' -F".toList) := by
  decide

end CommandDocs.Host
