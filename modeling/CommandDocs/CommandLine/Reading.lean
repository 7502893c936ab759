import CommandDocs.CommandLine.Usage

/-!
# Reading a command line

The words of a command line are options, their values, and operands. A group stops at its first
operand, which names the command to go on with; other commands take options and operands in any
order. Two dashes end the options.
-/

namespace CommandDocs.CommandLine

/-- What the words of a command say: the options with their values in the order in which they are
given, and the operands. An option without a value is given with the empty text. -/
structure Reading where
  given : List (Switch × String) := []
  operands : List String := []
  deriving DecidableEq, Repr

namespace Reading

/-- Whether an option is given. -/
def has (r : Reading) (s : Switch) : Bool :=
  r.given.any fun g => g.1 == s

def values (r : Reading) (s : Switch) : List String :=
  r.given.filterMap fun g => if g.1 == s then some g.2 else none

/-- The last value that is given for an option. -/
def value? (r : Reading) (s : Switch) : Option String :=
  (r.values s).getLast?

/-- The options that are given, each at its first place. -/
def switches (r : Reading) : List Switch :=
  (r.given.map (·.1)).eraseDups

def operand (r : Reading) (n : Nat) : String :=
  r.operands.getD n ""

end Reading

namespace Command

def named? (c : Command) (name : String) : Option Switch :=
  c.switches.find? fun s => s.name == name

def lettered? (c : Command) (letter : Char) : Option Switch :=
  c.switches.find? fun s => s.letter? == some letter

end Command

inductive Word where
  | endOfOptions
  | operand
  | options (given : List Switch)
  | optionWith (s : Switch) (value : String)
  | optionBefore (s : Switch)
  deriving DecidableEq, Repr

/-- A word up to its first equals sign, and what stands after it. -/
def splitAtEquals (word : List Char) : String × Option String :=
  let name := word.takeWhile (· != '=')
  (String.ofList name,
    if name.length < word.length then some (String.ofList (word.drop (name.length + 1))) else none)

/-- Options given by their letters behind one dash. -/
def readLetters (c : Command) : List Char → Except UsageFault (List Switch)
  | [] => .ok []
  | letter :: rest =>
      match c.lettered? letter with
      | none => .error (.unknownOption ("-" ++ String.singleton letter) [])
      | some s => (readLetters c rest).map (s :: ·)

/-- An option with the value that its word holds, if it holds one. -/
def readNamed (s : Switch) (name : String) (value : Option String) : Except UsageFault Word :=
  match s.takes, value with
  | .nothing, none => .ok (.options [s])
  | .nothing, some _ => .error (.valueUnwanted name)
  | _, none => .ok (.optionBefore s)
  | _, some v => .ok (.optionWith s v)

/-- What a word is to a command. A word that begins with a dash is an option, but a dash alone is
not. -/
def readWord (c : Command) (word : String) : Except UsageFault Word :=
  match word.toList with
  | ['-', '-'] => .ok .endOfOptions
  | '-' :: letter :: rest =>
      let (name, value) := splitAtEquals word.toList
      match c.named? name with
      | some s => readNamed s name value
      | none =>
          if letter == '-' then
            .error (.unknownOption name (Text.closest name (c.switches.map (·.name))))
          else (readLetters c (letter :: rest)).map .options
  | _ => .ok .operand

def Reading.withGiven (given : List (Switch × String)) (r : Reading) : Reading :=
  { r with given := given ++ r.given }

def read (c : Command) : List String → Except UsageFault Reading
  | [] => .ok {}
  | word :: rest =>
      match readWord c word with
      | .error fault => .error fault
      | .ok .endOfOptions => .ok { operands := rest }
      | .ok .operand =>
          if c.isGroup then .ok { operands := word :: rest }
          else (read c rest).map fun r => { r with operands := word :: r.operands }
      | .ok (.options given) => (read c rest).map (·.withGiven (given.map fun s => (s, "")))
      | .ok (.optionWith s value) => (read c rest).map (·.withGiven [(s, value)])
      | .ok (.optionBefore s) =>
          match rest with
          | [] => .error (.valueNeeded s.name)
          | value :: more => (read c more).map (·.withGiven [(s, value)])

end CommandDocs.CommandLine
