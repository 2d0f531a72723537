import DenoBridge.CommandLine.Grammar
import DenoBridge.Machine.Basic
import DenoBridge.Text.WordChar

/-! # Tasks

    What a command line asks for: one of five commands with its options, or
    help.  The words up to the name of the command are read first.  The file
    that a command is to format has to be there when the words after the name
    are read.
-/

namespace DenoBridge.CommandLine

/-! ## Section 1: Commands -/

/-- The commands. -/
inductive Command where
  | info
  | format
  | types
  | resolve
  | doctor
  deriving Repr, DecidableEq

namespace Command

/-- All commands, in order. -/
def all : List Command :=
  [.info, .format, .types, .resolve, .doctor]

/-- The name of a command. -/
def name : Command → String
  | .info => "info"
  | .format => "fmt"
  | .types => "types"
  | .resolve => "resolve"
  | .doctor => "doctor"

/-- The command with a given name. -/
def ofName? (name : String) : Option Command :=
  all.find? (·.name == name)

/-- What a command does, in a few words. -/
def summary : Command → String
  | .info => "Show the toolchain location, its versions and the cache layout."
  | .format => "Format source and print the result."
  | .types => "Synchronise the cached declaration file with the installed toolchain."
  | .resolve => "Print the file the toolchain uses to cache a URL."
  | .doctor => "Check that the toolchain is usable and agrees on the cache root."

/-- The options that choose a mode. -/
def modeOptions : List (String × Setting) :=
  [("--unstable", .unstable true), ("--stable", .unstable false)]

/-- The options that every command has. -/
def commonOptions : List (String × Setting) :=
  [("--emoji", .emoji true), ("--no-emoji", .emoji false), ("--help", .help)]

/-- The options of a command. -/
def options : Command → List (String × Setting)
  | .info | .types => ("--cache-root", .cacheRoot) :: modeOptions ++ commonOptions
  | .format => ("--fragment", .fragment) :: commonOptions
  | .resolve | .doctor => ("--cache-root", .cacheRoot) :: commonOptions

/-- How the words after a command are read. -/
def grammar (command : Command) : Grammar :=
  ⟨command.options, [], true⟩

end Command

/-- How the words before a command are read. -/
def mainGrammar : Grammar :=
  ⟨[("--verbose", .verbose), ("--help", .help)], [('v', .verbose)], false⟩

/-! ## Section 2: Tasks -/

/-- What options say; of two that speak of the same thing the last counts. -/
structure Choices where
  verbose : Bool
  help : Bool
  root : Option String
  unstable : Option Bool
  emoji : Bool
  fragment : Bool
  deriving Repr, DecidableEq

/-- What counts when no option is given. -/
def Choices.default : Choices :=
  ⟨false, false, none, none, true, false⟩

/-- The choices after one more option. -/
def Choices.add (c : Choices) (given : Setting × String) : Choices :=
  match given.1 with
  | .help => { c with help := true }
  | .verbose => { c with verbose := true }
  | .unstable value => { c with unstable := some value }
  | .emoji value => { c with emoji := value }
  | .fragment => { c with fragment := true }
  | .cacheRoot => { c with root := some given.2 }

/-- What a list of options says. -/
def Choices.ofSettings (settings : List (Setting × String)) : Choices :=
  settings.foldl Choices.add .default

/-- What is to be done. -/
inductive Task where
  | info (root : Option String) (unstable : Option Bool) (emoji : Bool)
  | types (root : Option String) (unstable : Option Bool) (emoji : Bool)
  /-- Without a file, standard input is formatted. -/
  | format (file : Option String) (fragment emoji : Bool)
  | resolve (url : String) (root : Option String) (emoji : Bool)
  | doctor (root : Option String) (emoji : Bool)
  deriving Repr, DecidableEq

/-- What the words up to the name of a command say. -/
inductive Opening where
  | help
  /-- A command, and the words after its name. -/
  | command (verbose : Bool) (command : Command) (words : List String)
  deriving Repr, DecidableEq

/-- What the words after the name of a command say. -/
inductive Request where
  | help
  | run (task : Task)
  deriving Repr, DecidableEq

/-! ## Section 3: Up to the name of a command -/

/-- A flaw that suggests no commands. -/
def usage : Except Halt α → Except UsageError α
  | .ok a => .ok a
  | .error halt => .error ⟨halt.flaw, []⟩

/-- The commands whose names are similar to the first of the words. -/
def similarCommands (words : List String) : List String :=
  match words with
  | [] => []
  | word :: _ => Similar.among (Command.all.map Command.name) word

/-- A word that is no command, and the words after it.  One that does not begin
    like a name is read as an option first, and then the word after those that
    were read is the one that may have been meant for a command. -/
def readStranger (word : String) (rest : List String) : Except UsageError Opening :=
  if word.toList.head?.all Text.isAlphanumeric then
    .error ⟨.noSuchCommand word, similarCommands [word]⟩
  else
    match readWords mainGrammar (word :: rest) with
    | .error halt => .error ⟨halt.flaw, similarCommands halt.rest⟩
    | .ok given =>
      if (Choices.ofSettings given.settings).help then .ok .help
      else .error ⟨.noSuchCommand word, similarCommands given.arguments⟩

/-- What the words up to the name of a command say. -/
def readOpening (line : List String) : Except UsageError Opening := do
  let main ← usage (readWords mainGrammar line)
  let choices := Choices.ofSettings main.settings
  if choices.help || line.isEmpty then return .help
  match main.arguments with
  | [] => throw ⟨.commandMissing, []⟩
  | word :: rest =>
    match Command.ofName? word with
    | some command => return .command choices.verbose command rest
    | none => readStranger word rest

/-! ## Section 4: After the name of a command -/

/-- Why the words after the name of a command are not read. -/
inductive ReadError where
  | usage (flaw : UsageFlaw)
  /-- A path holds a NUL. -/
  | embeddedNul
  deriving Repr, DecidableEq

/-- A path that can be looked at. -/
def checkPath (path : String) : Except ReadError Unit :=
  if path.toList.contains '\x00' then .error .embeddedNul else .ok ()

/-- The file to format: it is there and no directory. -/
def checkFile (m : Machine) (file : String) : Except ReadError Unit := do
  checkPath file
  match m.files.find m.directory (Path.ofString file).text with
  | .error _ => throw (.usage (.noSuchFile "path" file))
  | .ok (_, .directory) => throw (.usage (.isDirectory "path" file))
  | .ok _ => return ()

/-- No arguments are left over. -/
def checkNone : List String → Except ReadError Unit
  | [] => .ok ()
  | arguments => .error (.usage (.extraArguments arguments))

/-- The task of a command with its choices and arguments. -/
def taskOf (m : Machine) (c : Choices) (command : Command) (arguments : List String) :
    Except ReadError Task := do
  c.root.forM checkPath
  match command, arguments with
  | .info, arguments => do
    checkNone arguments
    return .info c.root c.unstable c.emoji
  | .types, arguments => do
    checkNone arguments
    return .types c.root c.unstable c.emoji
  | .doctor, arguments => do
    checkNone arguments
    return .doctor c.root c.emoji
  | .format, [] => return .format none c.fragment c.emoji
  | .format, file :: others => do
    checkFile m file
    checkNone others
    return .format (some file) c.fragment c.emoji
  | .resolve, [] => throw (.usage (.argumentMissing "url"))
  | .resolve, url :: others => do
    checkNone others
    return .resolve url c.root c.emoji

/-- What the words after the name of a command ask for on a machine. -/
def readRequest (m : Machine) (command : Command) (words : List String) :
    Except ReadError Request :=
  match readWords command.grammar words with
  | .error halt => .error (.usage halt.flaw)
  | .ok given =>
    let choices := Choices.ofSettings given.settings
    if choices.help then .ok .help
    else (taskOf m choices command given.arguments).map .run

end DenoBridge.CommandLine
