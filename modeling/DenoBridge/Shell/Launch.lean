import DenoBridge.Machine.Spawn
import DenoBridge.Shell.Builtin
import DenoBridge.Shell.Reader

/-! # Programs that a shell starts

    A name without a slash is looked for in the directories of `PATH`.  A file
    that names no program to read it is read by the shell.  A program gets the
    exported variables and the streams of the shell that starts it; all that it
    leaves behind is what it wrote and did to the files.
-/

namespace DenoBridge.Shell

/-! ## Section 1: Finding programs -/

/-- Does the cause only say that nothing is there? -/
def isAbsent (cause : Errno) : Bool :=
  cause = .noEntry || cause = .notDirectory

/-- What is said about a program that cannot be started. -/
def launchComplaint (cause : Errno) : List Char :=
  (if isAbsent cause then "not found" else cause.message).toList

/-- The status of a command whose program cannot be started. -/
def launchStatus (cause : Errno) : Nat :=
  if isAbsent cause || cause = .tooManyLinks || cause = .nameTooLong then 127 else 126

/-- Where programs are looked for if nothing else is said. -/
def standardPath : String :=
  "/usr/local/sbin:/usr/local/bin:/usr/sbin:/usr/bin:/sbin:/bin"

namespace State

/-- The files that a name can stand for. -/
def candidates (s : State) (name : List Char) : List String :=
  if name.contains '/' then [toName name]
  else
    (searchDirectories (toName ((s.value? "PATH".toList).getD []))).map
      (inDirectory · (toName name))

/-- The files from the first one that may be executed on.  `cause` says why
    those before it may not. -/
def searchFrom (s : State) (cause : Errno) : List String → Except Errno (List String)
  | [] => .error cause
  | file :: more =>
    match s.files.find s.directory file with
    | .error found => searchFrom s (if isAbsent found then cause else found) more
    | .ok (_, node) =>
      let isProgram :=
        match node with
        | .file mode _ => mode &&& FileSystem.executeBits != 0
        | .tool _ => true
        | _ => false
      if isProgram then .ok (file :: more) else searchFrom s .accessDenied more

/-- The first of the files that can be started: its program and the arguments
    of that. -/
def startFrom (s : State) (arguments : List (List Char)) (cause : Errno) :
    List String → Except Errno (Tool × List (List Char))
  | [] => .error cause
  | file :: more =>
    match s.files.program s.directory scriptLimit file (arguments.map toName) with
    | .ok (tool, words) => .ok (tool, words.map ofString)
    | .error .noExecFormat =>
      .ok (.shell, "/bin/sh".toList :: ofString file :: arguments.drop 1)
    | .error found => startFrom s arguments (if isAbsent found then cause else found) more

/-- The program that a command line stands for; an error holds the complaint
    and the status. -/
def program (s : State) (arguments : List (List Char)) :
    Except (List Char × Nat) (Tool × List (List Char)) :=
  let name := arguments.headD []
  let start := fun (files : List String) =>
    match s.startFrom arguments .noEntry files with
    | .ok found => Except.ok found
    | .error cause => .error (launchComplaint cause, launchStatus cause)
  if name.contains '/' then start (s.candidates name)
  else
    match s.searchFrom .noEntry (s.candidates name) with
    | .ok files => start files
    | .error cause => .error (launchComplaint cause, 127)

/-- The file that a name stands for, as text. -/
def found? (s : State) (name : List Char) : Option (List Char) :=
  if name.contains '/' then
    ((s.files.find s.directory (toName name)).toOption).map fun _ => name
  else
    match s.searchFrom .noEntry (s.candidates name) with
    | .ok (file :: _) => some (ofString file)
    | _ => none

/-- The file that is read for a name, as text. -/
def script? (s : State) (name : List Char) : Option (List Char) :=
  if name.contains '/' then some name
  else
    let isFile := fun (file : String) => (s.files.hasFile s.directory file).toOption == some true
    ((s.candidates name).find? isFile).map ofString

/-- The bytes of a file that is read as a script.  A directory can be opened,
    and gives none. -/
def scriptBytes (s : State) (path : List Char) : Except Errno Bytes :=
  match s.files.read s.directory (toName path) with
  | .error .isDirectory => .ok []
  | found => found

end State

/-! ## Section 2: What names stand for -/

/-- What a name stands for when it is used as a command. -/
inductive Meaning where
  | keyword
  | function
  | builtin (isSpecial : Bool)
  | program (file : List Char)
  deriving Repr

/-- What a name stands for, if anything. -/
def State.meaning? (s : State) (name : List Char) : Option Meaning :=
  let text := String.ofList name
  if reservedWords.contains text then some .keyword
  else if specialNames.contains text then some (.builtin true)
  else if (s.functions.lookup name).isSome then some .function
  else if Builtin.names.contains text then some (.builtin false)
  else (s.found? name).map .program

/-- What is said about a name: in short, or as a sentence. -/
def describe (name : List Char) (meaning : Option Meaning) (isShort : Bool) : List Char :=
  match meaning with
  | none => if isShort then [] else name ++ ": not found\n".toList
  | some meaning =>
    let sentence :=
      match meaning with
      | .keyword => name ++ " is a shell keyword".toList
      | .function => name ++ " is a shell function".toList
      | .builtin true => name ++ " is a special shell builtin".toList
      | .builtin false => name ++ " is a shell builtin".toList
      | .program file => name ++ " is ".toList ++ file
    let text :=
      match isShort, meaning with
      | true, .program file => file
      | true, _ => name
      | false, _ => sentence
    text ++ ['\n']

/-! ## Section 3: New shells -/

namespace State

/-- A state with what another shell left behind: files, what was read and
    written, and signals. -/
def leave (before after : State) : State :=
  { before with
    files := after.files
    pending := after.pending
    input := after.input
    output := after.output
    errors := after.errors
    pipes := after.pipes
    opened := after.opened
    next := after.next }

/-- The state of a shell within another one: it has the same variables and
    functions, and the traps that keep signals away. -/
def inner (s : State) : State :=
  { s with
    traps := s.traps.filter (·.2.isEmpty)
    outerTraps := some s.mainTraps
    ending := none }

/-- The variables that every shell has. -/
def firstVariables : List (List Char × Variable) :=
  [("PATH", standardPath), ("PS1", "# "), ("PS2", "> "), ("PS4", "+ "), ("IFS", " \t\n"),
    ("OPTIND", "1")].map fun (name, value) => (name.toList, ⟨some value.toList, false, false⟩)

/-- The state with a variable that a program was given. -/
def receive (s : State) (pair : List Char × List Char) : State :=
  if !isName pair.1 then s
  else if pair.1 = "IFS".toList || pair.1 = "OPTIND".toList then
    s.putVariable pair.1 ⟨s.value? pair.1, true, false⟩
  else s.putVariable pair.1 ⟨some pair.2, true, false⟩

/-- The text of the current directory: what `PWD` says if that is right. -/
def ownText (s : State) : List Char :=
  let plain := ofString (Path.mk .root s.directory).text
  match s.value? "PWD".toList with
  | some text =>
    let found := (s.files.find s.directory (toName text)).toOption.map (·.1)
    if text.head? = some '/' && found == some s.directory then text else plain
  | none => plain

/-- The state of a program of its own with these variables. -/
def fresh (s : State) (pairs : List (List Char × List Char)) : State :=
  let s : State := { s with
    vars := firstVariables
    functions := []
    options := .none
    traps := s.traps.filter (·.2.isEmpty)
    outerTraps := none
    pending := []
    frames := []
    arguments := []
    status := 0
    substituted := 0
    ending := none }
  let s := pairs.foldl receive s
  let here := s.ownText
  { s with here := here }.putVariable "PWD".toList ⟨some here, true, false⟩

end State

/-- Work in a shell within the current one. -/
def inside (work : Act α) : Act α :=
  within State.inner State.leave work

/-- Work of a program of its own. -/
def apart (work : Act α) : Act α :=
  within (fun s => s.fresh s.exported) State.leave work

theorem inside_variables (work : Act α) (s : State) :
    ((inside work).run.run s).2.vars = s.vars := rfl

end DenoBridge.Shell
