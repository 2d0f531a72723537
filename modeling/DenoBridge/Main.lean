import DenoBridge.CommandLine.Run
import DenoBridge.Machine.Layout
import DenoBridge.Machine.Search
import DenoBridge.Shell.Run

/-! # The program

    `main` runs a command line.  A command works on a machine that is a value,
    so the variables and the files that a command can look at are read first.
    What it wrote is shown, and the files that it changed are written, when it
    has ended.
-/

namespace DenoBridge.Program

open CommandLine

/-! ## Section 1: What a command can look at -/

/-- The variables that matter to a command. -/
def variableNames : List String :=
  ["PATH", "HOME", "XDG_CACHE_HOME", "COLUMNS", "TERM", "COLORTERM",
    Settings.default.rootVariable, Settings.executableVariable, Settings.unstableVariable]

/-- The words of a command line, and the values that follow an equals sign in
    them. -/
def wordsOf (line : List String) : List String :=
  line ++ line.filterMap fun word => (Text.cutAt (· == '=') word.toList).2.map String.ofList

/-- The session of a command that is given no options. -/
def plainSession (m : Machine) : Session :=
  let settings := Settings.fromEnvironment m.environment []
  ⟨settings.toOption.getD .default, none, .linux⟩

/-- The paths at which the toolchain can stand. -/
def toolchainPaths (m : Machine) : List String :=
  let name := (plainSession m).settings.executable
  let path := (m.environment.get? "PATH").getD defaultSearchPath
  if hasDirectory name then [name] else (searchDirectories path).map (inDirectory · name)

/-- The paths at which declaration files can stand: below the cache root, or
    below a directory that the command line names. -/
def declarationPaths (m : Machine) (line : List String) : List String :=
  let roots := (plainSession m).cacheRoot m :: (wordsOf line).map Path.ofString
  roots.flatMap fun root =>
    [false, true].map fun unstable => (Cache.declarationFile root unstable).text

/-- Does the command line ask for something that reads standard input? -/
def readsInput (m : Machine) (line : List String) : Bool :=
  match readOpening line with
  | .ok (.command _ command words) =>
    match readRequest m command words with
    | .ok (.run (.format none _ _)) => true
    | _ => false
  | _ => false

/-- The exit status of a command line. -/
def statusOf : Stop Failure → Nat
  | .exit status => status
  | .failed (.usage _) => 2
  | .failed _ => 1

/-- What is said about a command that failed. -/
def complaint : Stop Failure → String
  | .exit _ => ""
  | .failed e => "Error: " ++ e.message ++ "\n"

/-- The files of a machine that another one does not have like this. -/
def changedFiles (before after : Machine) : List (Place × Bytes) :=
  after.files.nodes.filterMap fun
    | (place, .file mode content) =>
      if before.files.get? place = some (.file mode content) then none else some (place, content)
    | _ => none

/-! ## Section 2: Reading and writing -/

/-- What stands at a path.  A file that can be read counts as a program. -/
def itemAt (path : String) : IO (Option FileSystem.Item) := do
  try
    let content ← IO.FS.readBinFile path
    return some (.file 0o755 content.toList)
  catch
    | .inappropriateType .. => return some .directory
    | _ => return none

/-- The machine with what stands at a path put in place. -/
def withPath (m : Machine) (path : String) : IO Machine := do
  match ← itemAt path with
  | some item => return { m with files := m.files.place m.directory path item }
  | none => return m

/-- How many brackets may be open at once in what a toolchain prints. -/
def nesting : Nat := 970

/-- The machine on which a command line is run. -/
def readMachine (line : List String) : IO Machine := do
  let here := (Path.ofString (← IO.currentDir).toString).names
  let bindings ← variableNames.filterMapM fun name => do
    return (← IO.getEnv name).map (name, ·)
  let m : Machine := ⟨.bare here, .ofList bindings, here, Shell.runChild, nesting, []⟩
  (line ++ toolchainPaths m ++ declarationPaths m line).foldlM withPath m

/-- Writes a file; the directories above it are made. -/
def writeFile (place : Place) (content : Bytes) : IO Unit := do
  IO.FS.createDirAll (Path.text ⟨.root, place.dropLast⟩)
  IO.FS.writeBinFile (Path.text ⟨.root, place⟩) ⟨content.toArray⟩

/-- What a stream is connected with. -/
def sinkOf (stream : IO.FS.Stream) : IO Terminal.Sink := do
  return if ← stream.isTty then .terminal else .store

/-- Runs a command line and gives its exit status. -/
def run (line : List String) : IO UInt32 := do
  let output ← IO.getStdout
  let errors ← IO.getStderr
  let machine ← readMachine line
  let input ← if readsInput machine line then (← IO.getStdin).readToEnd else pure ""
  let (report, after) := CommandLine.run machine ⟨← sinkOf output, ← sinkOf errors⟩ line input
  (changedFiles machine after).forM fun (place, content) => writeFile place content
  output.putStr report.output
  errors.putStr (report.errors ++ complaint report.stop)
  return UInt32.ofNat (statusOf report.stop)

end DenoBridge.Program

/-- The program. -/
def main (line : List String) : IO UInt32 :=
  DenoBridge.Program.run line
