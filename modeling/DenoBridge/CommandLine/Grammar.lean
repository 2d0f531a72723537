import DenoBridge.CommandLine.Similar
import DenoBridge.Text.Quoted
import DenoBridge.Text.Split

/-! # Options and arguments

    A command line is a sequence of options and arguments.  An option is
    spelled with two hyphens, or with one hyphen and a letter; letters can
    share a hyphen.  Its value follows an equals sign or is the next word.
    After two hyphens alone, everything is an argument.
-/

namespace DenoBridge.CommandLine

/-! ## Section 1: Errors -/

/-- What is wrong with a command line. -/
inductive UsageFlaw where
  /-- There is no such option; options of similar names follow. -/
  | noSuchOption (option : String) (options : List String)
  | valueMissing (option : String)
  | valueUnwanted (option : String)
  | noSuchCommand (command : String)
  | commandMissing
  | argumentMissing (argument : String)
  | noSuchFile (argument file : String)
  | isDirectory (argument file : String)
  | extraArguments (arguments : List String)
  deriving Repr, DecidableEq

/-- Why a command line cannot be used. -/
structure UsageError where
  flaw : UsageFlaw
  /-- The commands that may have been meant. -/
  commands : List String
  deriving Repr, DecidableEq

/-- Words between commas. -/
def listed (words : List String) : String :=
  String.intercalate ", " words

/-- What is said of a flaw. -/
def UsageFlaw.sentence : UsageFlaw → String
  | .noSuchOption option _ => "No such option: " ++ option
  | .valueMissing option => s!"Option {Text.quote option} requires an argument."
  | .valueUnwanted option => s!"Option {Text.quote option} does not take a value."
  | .noSuchCommand command => s!"No such command {Text.quote command}."
  | .commandMissing => "Missing command."
  | .argumentMissing argument => s!"Missing argument '{argument}'."
  | .noSuchFile argument file =>
    s!"Invalid value for '{argument}': file {Text.quote file} does not exist."
  | .isDirectory argument file =>
    s!"Invalid value for '{argument}': file {Text.quote file} is a directory."
  | .extraArguments arguments =>
    "Got unexpected extra argument(s) (" ++ String.intercalate " " arguments ++ ")"

/-- What is said after all else. -/
def UsageFlaw.hint : UsageFlaw → String
  | .noSuchOption _ (option :: options) =>
    " (Possible options: " ++ listed ((option :: options).mergeSort fun a b => a ≤ b) ++ ")"
  | _ => ""

/-- A sentence, or with commands to suggest a question after it. -/
def suggest (sentence : String) (commands : List String) : String :=
  if commands.isEmpty then sentence
  else
    String.ofList (Text.dropTail (· == '.') sentence.toList) ++ ". Did you mean " ++
      listed (commands.map Text.quote) ++ "?"

/-- A character in a message; one that controls a terminal is written by its
    code. -/
def showControl (c : Char) : List Char :=
  if (c < ' ' || ('\x7f' ≤ c && c ≤ '\u009f')) && c != '\n' && c != '\t' then
    Text.escapeCode c.toNat
  else [c]

/-- The wording of a usage error. -/
def UsageError.message (e : UsageError) : String :=
  String.ofList ((suggest e.flaw.sentence e.commands ++ e.flaw.hint).toList.flatMap showControl)

/-! ## Section 2: Grammars -/

/-- What an option says. -/
inductive Setting where
  | help
  | verbose
  | unstable (value : Bool)
  | emoji (value : Bool)
  | fragment
  | cacheRoot
  deriving Repr, DecidableEq

/-- Does the option have a value? -/
def Setting.hasValue : Setting → Bool
  | .cacheRoot => true
  | _ => false

/-- The options of a command. -/
structure Grammar where
  /-- The options with two hyphens. -/
  long : List (String × Setting)
  /-- The letters that stand for options without a value. -/
  short : List (Char × Setting)
  /-- May options follow an argument? -/
  mixed : Bool

/-- What a command line gives: options with their values, empty for those
    that have none, and arguments. -/
structure Given where
  settings : List (Setting × String)
  arguments : List String
  deriving Repr, DecidableEq

/-- An option before others. -/
def Given.withSetting (setting : Setting) (value : String) (g : Given) : Given :=
  { g with settings := (setting, value) :: g.settings }

/-- An argument before others. -/
def Given.withArgument (argument : String) (g : Given) : Given :=
  { g with arguments := argument :: g.arguments }

/-! ## Section 3: Reading -/

/-- The options that the letters after a hyphen stand for. -/
def readLetters (g : Grammar) : List Char → Except UsageFlaw (List Setting)
  | [] => .ok []
  | letter :: rest =>
    match g.short.lookup letter with
    | none => .error (.noSuchOption (String.ofList ['-', letter]) [])
    | some setting => (readLetters g rest).map (setting :: ·)

/-- What a word that begins with a hyphen is. -/
inductive OptionWord where
  /-- Options that are complete. -/
  | complete (settings : List (Setting × String))
  /-- An option whose value is the next word. -/
  | awaiting (name : String) (setting : Setting)
  deriving Repr, DecidableEq

/-- The options in a word that begins with a hyphen. -/
def readOption (g : Grammar) (word : String) : Except UsageFlaw OptionWord :=
  let (name, value) := Text.cutAt (· == '=') word.toList
  let name := String.ofList name
  match g.long.lookup name with
  | some setting =>
    match setting.hasValue, value with
    | true, some value => .ok (.complete [(setting, String.ofList value)])
    | true, none => .ok (.awaiting name setting)
    | false, some _ => .error (.valueUnwanted name)
    | false, none => .ok (.complete [(setting, "")])
  | none =>
    if "--".toList.isPrefixOf word.toList then
      .error (.noSuchOption name (Similar.among (g.long.map (·.1)) name))
    else
      (readLetters g (word.toList.drop 1)).map fun settings =>
        .complete (settings.map fun setting => (setting, ""))

/-- Is the word an option? -/
def isOption (word : String) : Bool :=
  word.toList.head? = some '-' && 1 < word.length

/-- A flaw, with the words that were not looked at when it was found. -/
structure Halt where
  flaw : UsageFlaw
  rest : List String
  deriving Repr, DecidableEq

/-- A result before `rest` is looked at. -/
def orHalt (rest : List String) : Except UsageFlaw α → Except Halt α
  | .ok a => .ok a
  | .error flaw => .error ⟨flaw, rest⟩

/-- What the words of a command line give. -/
def readWords (g : Grammar) : List String → Except Halt Given
  | [] => .ok ⟨[], []⟩
  | word :: rest =>
    if word = "--" then .ok ⟨[], rest⟩
    else if isOption word then
      match orHalt rest (readOption g word), rest with
      | .error halt, _ => .error halt
      | .ok (.complete settings), rest =>
        (readWords g rest).map fun given => { given with settings := settings ++ given.settings }
      | .ok (.awaiting name _), [] => .error ⟨.valueMissing name, []⟩
      | .ok (.awaiting _ setting), value :: rest =>
        (readWords g rest).map (.withSetting setting value)
    else if g.mixed then (readWords g rest).map (.withArgument word)
    else .ok ⟨[], word :: rest⟩

end DenoBridge.CommandLine
