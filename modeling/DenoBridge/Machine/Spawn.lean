import DenoBridge.Machine.Search

/-! # Starting children

    The system starts a file that may be executed: a program of its own, or a
    script whose first line names the program that reads it.  A name without
    a slash is tried in every directory of `PATH`; the first failure that
    says more than "not there" is the one reported.  A child that is given
    nothing to read gets the null device, which is opened before any file is
    tried.
-/

namespace DenoBridge

/-! ## Section 1: Scripts -/

/-- Is the byte a blank within the first line of a script? -/
def isLineBlank (byte : UInt8) : Bool :=
  byte == 0x20 || byte == 0x09

/-- The program in the first line of a script, and the argument it gives to
    that program. -/
def interpreter? (content : Bytes) : Option (String × Option String) :=
  match content with
  | 0x23 :: 0x21 :: rest =>
    let line := (rest.takeWhile (· ≠ 0x0a)).dropWhile isLineBlank
    let program := line.takeWhile (!isLineBlank ·)
    let argument := (line.drop program.length).dropWhile isLineBlank
    let argument := (argument.reverse.dropWhile isLineBlank).reverse
    let text := fun bytes => String.ofList (Utf8.decodeReplacing bytes)
    if program.isEmpty then none
    else some (text program, if argument.isEmpty then none else some (text argument))
  | _ => none

/-- How many scripts may be read by scripts. -/
def scriptLimit : Nat := 4

/-- The program that is started for a file, and its arguments. -/
def FileSystem.program (fs : FileSystem) (here : Place) :
    Nat → String → List String → Except Errno (Tool × List String)
  | depth, file, arguments =>
    match fs.find here file with
    | .error e => .error e
    | .ok (_, .tool tool) => .ok (tool, arguments)
    | .ok (_, .file mode content) =>
      if mode &&& FileSystem.executeBits = 0 then .error .accessDenied
      else
        match interpreter? content, depth with
        | none, _ => .error .noExecFormat
        | some _, 0 => .error .tooManyLinks
        | some (program, argument), depth + 1 =>
          fs.program here depth program
            (program :: argument.toList ++ file :: arguments.drop 1)
    | .ok _ => .error .accessDenied

/-! ## Section 2: Standard input -/

/-- The path of the null device. -/
def nullDevice : String := "/dev/null"

/-- What a child is given as its standard input. -/
inductive Feed where
  /-- The null device. -/
  | null
  /-- A pipe with a content. -/
  | pipe (content : Bytes)
  deriving Repr, DecidableEq

namespace Machine

/-- What there is to read for a child.  The null device is opened for reading
    and writing. -/
def feed (m : Machine) : Feed → Except OsError Bytes
  | .null => (m.files.readWritable m.directory nullDevice).mapError (⟨·, nullDevice⟩)
  | .pipe content => .ok content

/-! ## Section 3: Starting -/

/-- The files that are tried in order to start a name. -/
def candidates (m : Machine) (name : String) : List String :=
  if hasDirectory name then [name]
  else
    (searchDirectories ((m.environment.get? "PATH").getD defaultSearchPath)).map
      (inDirectory · name)

/-- The first of the files that can be started, as a launch. -/
def launch? (m : Machine) (arguments : List String) (input : Bytes) :
    Errno → List String → Except Errno Launch
  | failure, [] => .error failure
  | failure, file :: more =>
    match m.files.program m.directory scriptLimit file arguments with
    | .ok (tool, arguments) => .ok ⟨tool, file, arguments, m.environment, m.directory, input⟩
    | .error e =>
      let said := failure ≠ .noEntry ∧ failure ≠ .notDirectory
      m.launch? arguments input (if said then failure else e) more

/-- Runs a command line to its end. -/
def spawn (m : Machine) (name : String) (arguments : List String) (given : Feed) :
    Except FileFault ChildResult × Machine :=
  match m.feed given with
  | .error e => (.error (.os e), m)
  | .ok input =>
    if (name :: arguments).any (·.toList.contains '\x00') then (.error .embeddedNul, m)
    else
      match m.launch? (name :: arguments) input .noEntry (m.candidates name) with
      | .error e => (.error (.os ⟨e, name⟩), m)
      | .ok launch =>
        let (result, files) := m.child launch m.files
        (.ok result, { m with files := files })

end Machine

end DenoBridge
