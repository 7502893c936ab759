import CommandDocs.Console.ColorNames
import CommandDocs.Text.Lower
import CommandDocs.Text.Number

/-!
# Styles

A style is described in words: attributes and colors in any order, a background color after "on",
an attribute that is switched off after "not", the target of a link after "link". Descriptions
that give the same style have the same normal form. What describes no style is its own normal
form, in small letters.
-/

namespace CommandDocs.Console

/-- What a style can switch on or off. -/
inductive Attribute where
  | bold
  | dim
  | italic
  | underline
  | blink
  | blink2
  | reverse
  | conceal
  | strike
  | underline2
  | frame
  | encircle
  | overline
  deriving DecidableEq, Repr

namespace Attribute

/-- Every attribute, in the order in which they are written. -/
def all : List Attribute :=
  [.bold, .dim, .italic, .underline, .blink, .blink2, .reverse, .conceal, .strike, .underline2,
    .frame, .encircle, .overline]

/-- The name of an attribute. -/
def name : Attribute → String
  | .bold => "bold"
  | .dim => "dim"
  | .italic => "italic"
  | .underline => "underline"
  | .blink => "blink"
  | .blink2 => "blink2"
  | .reverse => "reverse"
  | .conceal => "conceal"
  | .strike => "strike"
  | .underline2 => "underline2"
  | .frame => "frame"
  | .encircle => "encircle"
  | .overline => "overline"

def shortName? : Attribute → Option String
  | .bold => some "b"
  | .dim => some "d"
  | .italic => some "i"
  | .underline => some "u"
  | .reverse => some "r"
  | .conceal => some "c"
  | .strike => some "s"
  | .underline2 => some "uu"
  | .overline => some "o"
  | _ => none

def ofName? (word : List Char) : Option Attribute :=
  let name := String.ofList word
  all.find? fun a => a.name == name || a.shortName? == some name

theorem ofName?_name (a : Attribute) : ofName? a.name.toList = some a := by
  cases a <;> decide

end Attribute

/-- A style: the attributes that are switched on or off, the latest first, the colors and the
target of the link. -/
structure Style where
  attributes : List (Attribute × Bool) := []
  color : Option (List Char) := none
  background : Option (List Char) := none
  link : Option (List Char) := none
  deriving DecidableEq, Repr

namespace Style

/-- Why a text describes no style: it is none, or it holds a number that is none. -/
inductive Fault where
  | none
  | number (fault : Text.NumberFault)
  deriving DecidableEq, Repr

def isSixDigits (s : List Char) : Bool :=
  s.length == 6 && s.all fun c => ('0' ≤ c && c ≤ '9') || ('a' ≤ c && c ≤ 'f')

/-- The text between a start and a closing parenthesis at the end. -/
def between? (start : String) (s : List Char) : Option (List Char) :=
  match Text.afterStart? start.toList s with
  | some rest => if rest.getLast? == some ')' then some rest.dropLast else none
  | none => none

def isColorNumber (s : List Char) : Bool :=
  !s.isEmpty && s.length ≤ 3 && s.all (fun c => '0' ≤ c && c ≤ '9') && Text.decimalValue s ≤ 255

/-- Checks the three shares of red, green and blue. -/
def checkShares (s : List Char) : Except Fault Unit :=
  if s.isEmpty || !s.all fun c => Text.isDecimal c || c == ',' then .error .none
  else
    let parts := Text.splitAt ',' s
    if parts.length != 3 then .error .none
    else
      match parts.mapM Text.readInteger with
      | .error fault => .error (.number fault)
      | .ok shares => if shares.all (· ≤ 255) then .ok () else .error .none

/-- The name of a color in small letters: a known name, a number, or shares of red, green and
blue. -/
def readColor (word : List Char) : Except Fault (List Char) :=
  let name := Text.lower word
  if colorNames.contains name then .ok name
  else
    match name with
    | '#' :: digits => if isSixDigits digits then .ok name else .error .none
    | _ =>
        match between? "color(" name with
        | some digits => if isColorNumber digits then .ok name else .error .none
        | none =>
            match between? "rgb(" name with
            | some shares => (checkShares shares).map fun _ => name
            | none => .error .none

/-- A word that says what the next one is: a background color, an attribute to switch off, or the
target of a link. -/
inductive Keyword where
  | on
  | off
  | link
  deriving DecidableEq, Repr

def Keyword.ofWord? (word : List Char) : Option Keyword :=
  let name := String.ofList (Text.lower word)
  if name == "on" then some .on
  else if name == "not" then some .off
  else if name == "link" then some .link
  else none

/-- A style with one more word of its description, after a keyword if there is one. -/
def addWord (s : Style) (word : List Char) : Option Keyword → Except Fault Style
  | some .on => (readColor word).map fun color => { s with background := some color }
  | some .off =>
      match Attribute.ofName? word with
      | some a => .ok { s with attributes := (a, false) :: s.attributes }
      | none => .error .none
  | some .link => .ok { s with link := some word }
  | none =>
      match Attribute.ofName? (Text.lower word) with
      | some a => .ok { s with attributes := (a, true) :: s.attributes }
      | none => (readColor word).map fun color => { s with color := some color }

/-- A style with more words of its description, after a keyword if there is one. -/
def addWords (s : Style) : Option Keyword → List (List Char) → Except Fault Style
  | none, [] => .ok s
  | some _, [] => .error .none
  | some keyword, word :: rest =>
      match addWord s word (some keyword) with
      | .ok next => addWords next none rest
      | .error fault => .error fault
  | none, word :: rest =>
      match Keyword.ofWord? word with
      | some keyword => addWords s (some keyword) rest
      | none =>
          match addWord s word none with
          | .ok next => addWords next none rest
          | .error fault => .error fault

def wordsOf (s : List Char) : List (List Char) :=
  (s.splitBy fun a b => Text.isBlank a == Text.isBlank b).filter fun run => !run.all Text.isBlank

/-- The style that a text describes. -/
def read (s : List Char) : Except Fault Style :=
  if Text.trim s == "none".toList then .ok {} else addWords {} none (wordsOf s)

/-- The description of an attribute that is switched on or off. -/
def describe (s : Style) (a : Attribute) : Option (List Char) :=
  (s.attributes.lookup a).map fun on => (if on then a.name else "not " ++ a.name).toList

/-- The normal form of the description of a style. -/
def text (s : Style) : List Char :=
  let on := match s.background with
    | some color => ["on".toList, color]
    | none => []
  let link := match s.link with
    | some target => ["link".toList, target]
    | none => []
  match Attribute.all.filterMap s.describe ++ s.color.toList ++ on ++ link with
  | [] => "none".toList
  | parts => Text.joinWith ' ' parts

def normalForm (s : List Char) : Except Text.NumberFault (List Char) :=
  match read s with
  | .ok style => .ok style.text
  | .error .none => .ok (Text.lower (Text.trim s))
  | .error (.number fault) => .error fault

end Style

end CommandDocs.Console
