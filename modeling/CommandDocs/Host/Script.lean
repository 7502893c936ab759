/-!
# Host scripts

Every question to the host shell is one script. Names and paths are embedded as single-quoted
literals, in which a quote is written twice.
-/

namespace CommandDocs.Host

def doubleQuotes : List Char → List Char
  | [] => []
  | c :: rest => if c == '\'' then '\'' :: '\'' :: doubleQuotes rest else c :: doubleQuotes rest

/-- A text as a single-quoted literal. -/
def quote (value : String) : String :=
  String.ofList ('\'' :: doubleQuotes value.toList ++ ['\''])

/-- What the host is asked to do. -/
inductive Request where
  | commandExists (name : String)
  | moduleExists (name : String)
  | moduleCommands (name : String)
  | writeHelp (command path : String) (width : Int)
  | importModule (path : String)
  deriving DecidableEq, Repr

/-- A script that prints whether another one yields anything. -/
def checkScript (script : String) : String :=
  "if (" ++ script ++ ") \x7b 'True' \x7d else \x7b 'False' \x7d"

def importScript (path : String) : String :=
  "Import-Module -Name " ++ quote path ++ " -Force -ErrorAction Stop"

def Request.script : Request → String
  | .commandExists name =>
      checkScript ("Get-Command -Name " ++ quote name ++
        " -CommandType Cmdlet,Function -ErrorAction SilentlyContinue")
  | .moduleExists name => checkScript ("Get-Module -ListAvailable -Name " ++ quote name)
  | .moduleCommands name =>
      "Get-Command -Module " ++ quote name ++ " | ForEach-Object \x7b $_.Name \x7d"
  | .writeHelp command path width =>
      "Get-Help -Name " ++ quote command ++ " -Full | Out-File -FilePath " ++ quote path ++
        " -Width " ++ toString width ++ " -Encoding utf8"
  | .importModule path => importScript path

/-- The whole script of a request: the registered modules are imported first, one line each. -/
def fullScript (registered : List String) (request : Request) : String :=
  "\n".intercalate (registered.map importScript ++ [request.script])

end CommandDocs.Host
