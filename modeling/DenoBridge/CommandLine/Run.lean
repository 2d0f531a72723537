import DenoBridge.CommandLine.Desk
import DenoBridge.CommandLine.Task
import DenoBridge.Doctor.Report
import DenoBridge.Machine.Home

/-! # Running tasks

    Each command opens a session, does its work and tells the user about it.
    A command that could not do its work exits with status 1, one that was
    given something unusable with status 2.
-/

namespace DenoBridge.CommandLine

open Terminal

/-! ## Section 1: Failures -/

/-- Why a command fails instead of exiting. -/
inductive Failure where
  | usage (e : UsageError)
  | file (fault : FileFault)
  | undecodable (fault : Utf8.Fault)
  | root (e : ResolveError)
  | url (e : Url.KeyError)
  | excess (e : VersionReport.Excess)
  | command (e : CommandError)
  | display (fault : DisplayFault)
  deriving Repr, DecidableEq

/-- The wording of a failure. -/
def Failure.message : Failure → String
  | .usage e => e.message
  | .file fault => fault.message
  | .undecodable fault => fault.message
  | .root e => e.message
  | .url e => e.message
  | .excess e => e.message
  | .command e => e.message
  | .display fault => fault.message

/-- A reason why words after a command are not read, as a failure. -/
def Failure.ofReadError : ReadError → Failure
  | .usage flaw => .usage ⟨flaw, []⟩
  | .embeddedNul => .file .embeddedNul

/-! ## Section 2: Telling the user -/

/-- Tells the user something. -/
def say (channel : Channel) (kind : Notice) (emoji : Bool) (message : String) : Work Failure Unit :=
  Desk.notice .display channel kind emoji none message

/-- The text without the sequences that control a terminal: an escape and an
    opening bracket, digits, semicolons and question marks, and a letter. -/
def stripControls : List Char → List Char
  | [] => []
  | '\x1b' :: '[' :: rest =>
    let after := rest.dropWhile fun c => c.isDigit || c == ';' || c == '?'
    match after with
    | c :: _ => if c.isAlpha then stripControls (rest.drop (rest.length - after.length + 1))
                else '\x1b' :: stripControls ('[' :: rest)
    | [] => '\x1b' :: stripControls ('[' :: rest)
  | c :: rest => c :: stripControls rest
termination_by text => text.length
decreasing_by all_goals simp <;> omega

/-- Writes a result to standard output.  Only a terminal gets the sequences
    that control it. -/
def echo (text : String) : Work Failure Unit :=
  Desk.change fun d =>
    d.write .output
      (if d.streams.isTerminal .output then text else String.ofList (stripControls text.toList))

/-! ## Section 3: Sessions -/

/-- The most bytes of a value that a complaint shows. -/
def valueLimit : Nat := 50

/-- A value cut to `valueLimit` bytes, with dots in the place of its middle. -/
def abridgeValue (value : String) : String :=
  let bytes := Utf8.encodeString value
  if bytes.length ≤ valueLimit then value
  else
    let half := valueLimit / 2
    let start := Utf8.decodeIgnoring (bytes.take half)
    let stop := Utf8.decodeIgnoring (bytes.drop (bytes.length - (half - 1)))
    String.ofList start ++ "..." ++ String.ofList stop

/-- The lines about one complaint. -/
def complaintText (c : Settings.Complaint) : String :=
  let value := abridgeValue (Text.quote (c.input.string?.getD ""))
  s!"{c.field}\n  {c.flaw.message} [type={c.flaw.kind}, input_value={value}, input_type=str]\n" ++
    s!"    For further information visit https://errors.pydantic.dev/2.14/v/{c.flaw.kind}"

/-- The text about settings that cannot be used. -/
def complaintsText (complaints : List Settings.Complaint) : String :=
  let noun := if complaints.length = 1 then "error" else "errors"
  String.intercalate "\n"
    (s!"{complaints.length} validation {noun} for {Settings.kind}" :: complaints.map complaintText)

/-- The cache root that the text of an option means. -/
def rootOf (m : Machine) (text : String) : Except ResolveError Path := do
  m.resolvePath (← Path.expandHome m.environment (.ofString text))

/-- Opens the session of a command.  Settings that cannot be used end it. -/
def openSession (channel : Channel) (emoji : Bool) (root : Option String) (unstable : Option Bool) :
    Work Failure Session := do
  let m ← Desk.asks (·.machine)
  let overrides := unstable.toList.map fun mode => (Settings.Field.unstable.name, Json.bool mode)
  match Settings.fromEnvironment m.environment overrides with
  | .error complaints =>
    say channel .failure emoji ("Invalid configuration: " ++ complaintsText complaints)
    Desk.exit 2
  | .ok settings =>
    let s : Session := ⟨settings, none, .linux⟩
    match root with
    | none => return s
    | some text =>
      let path ← Desk.orFail .root (rootOf m text)
      return { s with settings := { s.settings with cacheRootOverride := some path } }

/-- The text that says that there is no executable. -/
def notFound (s : Session) : String :=
  "'" ++ s.settings.executable ++ "' was not found on PATH"

/-! ## Section 4: Commands -/

/-- Shows where the toolchain and the cache are, and the versions. -/
def info (root : Option String) (unstable : Option Bool) (emoji : Bool) : Work Failure Unit := do
  let s ← openSession .output emoji root unstable
  let m ← Desk.asks (·.machine)
  Desk.heading .display "Cache"
  say .output .info emoji s!"Cache root: {(s.cacheRoot m).text}"
  say .output .info emoji s!"Dependency cache: {(s.dependencyRoot m).text}"
  say .output .info emoji s!"Declaration file: {(s.declarationFile m).text}"
  Desk.heading .display "Toolchain"
  match s.executable m with
  | none =>
    say .output .failure emoji (notFound s)
    Desk.exit 1
  | some executable => do
    say .output .info emoji s!"Executable: {executable.text}"
    match ← Desk.orFail .excess (← Desk.run (Toolchain.version s.settings)) with
    | none =>
      say .output .failure emoji "Unable to query the toolchain version"
      Desk.exit 1
    | some report =>
      for line in Text.lines (Glyph.stringOf report.display).toList do
        let screen ← Desk.screen .display .output none
        Desk.writeShown .display [report.display]
          (Notice.success.display screen emoji (String.ofList line))

/-- The text of the file to format, or of standard input. -/
def sourceText (input : String) (file : Option String) : Work Failure String := do
  match file with
  | none => return String.ofList (Text.unifyLineEnds input.toList)
  | some file =>
    let m ← Desk.asks (·.machine)
    let path := (Path.ofString file).text
    let bytes ← Desk.orFail (fun e => .file (.os ⟨e, path⟩)) (m.files.read m.directory path)
    let text ← Desk.orFail .undecodable (Utf8.decode bytes)
    return String.ofList (Text.unifyLineEnds text)

/-- Formats a file or standard input.  Messages go to standard error only. -/
def format (input : String) (file : Option String) (fragment emoji : Bool) : Work Failure Unit := do
  let s ← openSession .errors emoji none none
  let source ← sourceText input file
  let format := if fragment then Toolchain.formatFragment else Toolchain.format
  match ← Desk.run (format s.settings source) with
  | .error (.command e) => Desk.fail (.command e)
  | .error (.formatter e) =>
    say .errors .failure emoji e.message
    Desk.exit 1
  | .ok none =>
    say .errors .failure emoji (notFound s)
    Desk.exit 1
  | .ok (some text) => echo text

/-- What is said of an outcome, in front of the file's path. -/
def outcomeText : Declarations.Outcome → String
  | .created => "Created"
  | .updated => "Refreshed"
  | .unchanged => "Up to date:"

/-- Brings the declaration file in line with the toolchain. -/
def types (root : Option String) (unstable : Option Bool) (emoji : Bool) : Work Failure Unit := do
  let s ← openSession .output emoji root unstable
  let target := (s.declarationFile (← Desk.asks (·.machine))).text
  say .output .info emoji ("Synchronising " ++ target)
  match ← Desk.run (s.synchronize none) with
  | .error .unavailable =>
    say .output .failure emoji (Declarations.Failure.unavailable.message ++ "; is Deno installed?")
    Desk.exit 1
  | .error (.file e) =>
    say .output .failure emoji e.message
    Desk.exit 1
  | .error .embeddedNul => Desk.fail (.file .embeddedNul)
  | .error (.excess e) => Desk.fail (.excess e)
  | .ok outcome =>
    say .output .success emoji (outcomeText outcome ++ " " ++ target)
    if s.settings.unstable then
      let report ← Desk.orFail .excess (← Desk.run (Toolchain.version s.settings))
      let supported ← Desk.orFail (fun e => .excess (.digits e)) (supportsUnstable report)
      if !supported then
        say .output .warning emoji
          s!"Deno older than {unstableFloor} has no unstable declarations; stable ones were written"

/-- Prints the file in which a module is cached. -/
def resolve (url : String) (root : Option String) (emoji : Bool) : Work Failure Unit := do
  let s ← openSession .output emoji root none
  match s.cachedFile (← Desk.asks (·.machine)) url with
  | .ok file => echo (file.text ++ "\n")
  | .error (.incomplete url) =>
    say .output .failure emoji (Url.KeyError.incomplete url).message
    Desk.exit 2
  | .error e => Desk.fail (.url e)

/-- Shows the checks of the environment. -/
def doctor (root : Option String) (emoji : Bool) : Work Failure Unit := do
  let s ← openSession .output emoji root none
  let screen ← Desk.screen .display .output none
  Desk.rule .display screen emoji Doctor.title
  match ← Desk.run (Doctor.checks s) with
  | .error (.excess e) => Desk.fail (.excess e)
  | .error (.os e) => Desk.fail (.file (.os e))
  | .ok checks =>
    let table ← Desk.orFail (.display ∘ .markup) (Doctor.table emoji screen.columns checks)
    Desk.writeShown .display (checks.map (·.detail)) (screen.display (table.lines screen.columns))
    Desk.exit (if Doctor.isHealthy checks then 0 else 1)

/-! ## Section 5: Command lines -/

/-- The text that explains the program. -/
def helpText : String :=
  let line := fun (command : Command) => s!"  {command.name}: {command.summary}\n"
  "Usage: denokit [--verbose] COMMAND [OPTIONS] [ARGUMENTS]\n\n" ++
    String.join (Command.all.map line)

/-- Does a task on the given standard input. -/
def perform (input : String) : Task → Work Failure Unit
  | .info root unstable emoji => info root unstable emoji
  | .types root unstable emoji => types root unstable emoji
  | .format file fragment emoji => format input file fragment emoji
  | .resolve url root emoji => resolve url root emoji
  | .doctor root emoji => doctor root emoji

/-- Shows help. -/
def help (status : Nat) : Work Failure Unit := do
  echo helpText
  Desk.exit status

/-- Does what a command line asks for. -/
def execute (line : List String) (input : String) : Work Failure Unit := do
  match ← Desk.orFail .usage (readOpening line) with
  | .help => help (if line.isEmpty then 2 else 0)
  | .command verbose command words =>
    Desk.configure .display verbose
    match ← Desk.orFail .ofReadError (readRequest (← Desk.asks (·.machine)) command words) with
    | .help => help 0
    | .run task => perform input task

/-- How a command ends, and what it wrote. -/
structure Report where
  stop : Stop Failure
  output : String
  errors : String
  deriving Repr, DecidableEq

/-- The command line run on a machine. -/
def run (machine : Machine) (streams : Streams) (line : List String) (input : String) :
    Report × Machine :=
  let (stop, desk) := (execute line input).run (Desk.start machine streams)
  let stop :=
    match stop with
    | .ok () => .exit 0
    | .error stop => stop
  (⟨stop, desk.output, desk.errors⟩, desk.machine)

end DenoBridge.CommandLine
