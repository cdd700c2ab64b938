/-!
# The command line of a check

Configuration files are named on the command line, together with options. An
option takes its value from the same word or from the next one. Reading goes
from left to right and stops at the first fault or at a wish for help.
-/

namespace RadarRelay.Check

/-- What is to be checked. -/
structure Arguments where
  /-- Configuration files of rules. -/
  files : List String
  /-- The configuration file of a node. -/
  node : Option String
  /-- A file with metadata, against which every filter is evaluated. -/
  metadata : Option String
  /-- Whether plugins are built too. -/
  checkPlugins : Bool
  deriving DecidableEq, Repr

/-- What a command line asks for. -/
inductive CommandLine where
  | check (arguments : Arguments)
  | help
  /-- The command line has a fault. -/
  | misuse
  deriving DecidableEq, Repr

/-- Options that take a value. -/
inductive Setting where
  | node
  | metadata
  deriving DecidableEq, Repr

/-- Sets an option. Its value is not empty, and it is set only once. -/
def Setting.give (value : String) (arguments : Arguments) : Setting → Option Arguments
  | node =>
      if value = "" || arguments.node.isSome then none
      else some { arguments with node := some value }
  | metadata =>
      if value = "" || arguments.metadata.isSome then none
      else some { arguments with metadata := some value }

/-- The option of a single letter. -/
def Setting.ofLetter? : Char → Option Setting
  | 'n' => some node
  | 'm' => some metadata
  | _ => none

/-- The option of a name. -/
def Setting.ofName? : String → Option Setting
  | "node" => some node
  | "metadata" => some metadata
  | _ => none

/-- What one word of a command line means. -/
inductive Word where
  | file (path : String)
  /-- Every later word is a file. -/
  | filesOnly
  | checkPlugins
  | help
  /-- An option and its value, which is the next word if it does not stand in this one. -/
  | setting (setting : Setting) (value : Option String)
  | unknown
  deriving DecidableEq, Repr

namespace Word

/-- The word after two hyphens. -/
def ofName (text : List Char) : Word :=
  let name := String.ofList (text.takeWhile (· != '='))
  let value := match text.dropWhile (· != '=') with
    | [] => none
    | _ :: value => some (String.ofList value)
  match Setting.ofName? name, name, value with
  | some found, _, value => setting found value
  | none, "check-plugins", none => checkPlugins
  | none, "help", none => help
  | _, _, _ => unknown

/-- The word after a single hyphen. An equals sign before a value is left out. -/
def ofLetters : List Char → Word
  | [] => file "-"
  | 'h' :: _ => help
  | letter :: rest =>
      match Setting.ofLetter? letter, rest with
      | some found, [] => setting found none
      | some found, '=' :: value => setting found (some (String.ofList value))
      | some found, value => setting found (some (String.ofList value))
      | none, _ => unknown

def read (text : String) : Word :=
  match text.toList with
  | ['-', '-'] => filesOnly
  | '-' :: '-' :: name => ofName name
  | '-' :: letters => ofLetters letters
  | _ => file text

end Word

namespace CommandLine

/-- Adds files. Their paths are not empty. -/
def addFiles (paths : List String) (arguments : Arguments) : Option Arguments :=
  if paths.contains "" then none else some { arguments with files := arguments.files ++ paths }

/-- Ends a command line, which names at least one file. -/
def finish (arguments : Option Arguments) : CommandLine :=
  match arguments with
  | some arguments => if arguments.files.isEmpty then misuse else check arguments
  | none => misuse

/-- Reads words after others have been read. -/
def readAfter : List String → Arguments → CommandLine
  | [], arguments => finish (some arguments)
  | word :: words, arguments =>
      match Word.read word with
      | .file path =>
          match addFiles [path] arguments with
          | some arguments => readAfter words arguments
          | none => misuse
      | .filesOnly => finish (addFiles words arguments)
      | .checkPlugins =>
          if arguments.checkPlugins then misuse
          else readAfter words { arguments with checkPlugins := true }
      | .help => help
      | .setting setting (some value) =>
          match setting.give value arguments with
          | some arguments => readAfter words arguments
          | none => misuse
      | .setting setting none =>
          match words with
          | [] => misuse
          | value :: rest =>
              match Word.read value, setting.give value arguments with
              | .file _, some arguments => readAfter rest arguments
              | _, _ => misuse
      | .unknown => misuse

/-- Reads a command line. -/
def read (words : List String) : CommandLine :=
  readAfter words ⟨[], none, none, false⟩

end CommandLine

/-- How the command line is used. -/
def usage : String := "Usage: exchange-config-check [OPTIONS] <FILE>..."

/-- The answer to a wish for help. -/
def helpLines : List String :=
  [ "Validates exchange subscription and publication configuration files",
    "",
    usage,
    "",
    "Arguments:",
    "  <FILE>...  Subscription or publication configuration files (JSON5)",
    "",
    "Options:",
    "  -n, --node <FILE>      Node configuration file to validate as well",
    "  -m, --metadata <FILE>  Metadata document (JSON) to evaluate every filter against",
    "      --check-plugins    Also resolve connection, sender and decorator classes against the "
      ++ "built-in plugins",
    "  -h, --help             Print help" ]

end RadarRelay.Check
