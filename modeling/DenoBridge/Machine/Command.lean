import DenoBridge.Machine.Spawn
import DenoBridge.Text.Lines

/-! # Running commands

    A command line is run to its end with both output streams captured.  The
    program is resolved first: an absolute path stands for itself, any other
    name is looked up.  Output is taken as bytes or as text; text has to be
    UTF-8, and its line ends are unified.
-/

namespace DenoBridge

/-! ## Section 1: Results and failures -/

/-- What was captured from a stream. -/
inductive Captured where
  | absent
  | text (content : String)
  | bytes (content : Bytes)
  deriving Repr, DecidableEq

/-- The captured content as text, as far as it is UTF-8. -/
def Captured.display : Captured → String
  | .absent => ""
  | .text content => content
  | .bytes content => String.ofList (Utf8.decodeIgnoring content)

/-- A command that ended with a status other than 0. -/
structure CommandFailure where
  program : String
  arguments : List String
  status : Int
  output : Captured
  errors : Captured
  deriving Repr, DecidableEq

/-- The wording of a failed command. -/
def CommandFailure.message (f : CommandFailure) : String :=
  let shown := f.errors.display
  s!"Command '{f.program}' exited with status {f.status}. stderr: " ++
    if shown = "" then "<none>" else shown

/-- Why a command has no result. -/
inductive CommandError where
  | noArguments
  | notFound (name : String)
  | file (fault : FileFault)
  | undecodable (fault : Utf8.Fault)
  | failed (failure : CommandFailure)
  deriving Repr, DecidableEq

/-- The wording of a command error. -/
def CommandError.message : CommandError → String
  | .noArguments => "subprocess command requires at least one argument"
  | .notFound name => "Executable '" ++ name ++ "' was not found on PATH"
  | .file fault => fault.message
  | .undecodable fault => fault.message
  | .failed failure => failure.message

/-- The end of a command with what it wrote. -/
structure Completed (α : Type) where
  program : String
  arguments : List String
  status : Int
  output : α
  errors : α
  deriving Repr, DecidableEq

/-! ## Section 2: Running -/

namespace Machine

/-- The program that the first word of a command line stands for. -/
def resolve (m : Machine) (name : String) : Except CommandError String :=
  let path := Path.ofString name
  if path.isAbsolute then .ok path.text
  else
    match m.which name with
    | some file => .ok file
    | none => .error (.notFound name)

/-- Runs a command line on what it is given to read, whatever status it ends
    with. -/
def execute (m : Machine) (command : List String) (given : Feed) :
    Except CommandError (Completed Bytes) × Machine :=
  match command with
  | [] => (.error .noArguments, m)
  | name :: arguments =>
    match m.resolve name with
    | .error e => (.error e, m)
    | .ok program =>
      match m.spawn program arguments given with
      | (.error fault, m) => (.error (.file fault), m)
      | (.ok child, m) =>
        (.ok ⟨program, arguments, child.ending.status, child.output, child.errors⟩, m)

/-- The result if the status is 0. -/
def checked (capture : α → Captured) (done : Completed α) : Except CommandError (Completed α) :=
  if done.status = 0 then .ok done
  else
    .error (.failed
      ⟨done.program, done.arguments, done.status, capture done.output, capture done.errors⟩)

/-- The text of captured bytes. -/
def decodeText (bytes : Bytes) : Except CommandError String :=
  match Utf8.decode bytes with
  | .ok text => .ok (String.ofList (Text.unifyLineEnds text))
  | .error fault => .error (.undecodable fault)

/-- The result as text. -/
def asText (done : Completed Bytes) : Except CommandError (Completed String) := do
  let output ← decodeText done.output
  let errors ← decodeText done.errors
  return ⟨done.program, done.arguments, done.status, output, errors⟩

/-- Runs a command for its bytes; with `check` the status has to be 0. -/
def runBytes (m : Machine) (command : List String) (check : Bool) :
    Except CommandError (Completed Bytes) × Machine :=
  match m.execute command .null with
  | (.error e, m) => (.error e, m)
  | (.ok done, m) => (if check then checked .bytes done else .ok done, m)

/-- Runs a command for its text; with `check` the status has to be 0. -/
def runText (m : Machine) (command : List String) (check : Bool) :
    Except CommandError (Completed String) × Machine :=
  match m.execute command .null with
  | (.error e, m) => (.error e, m)
  | (.ok done, m) =>
    match asText done with
    | .error e => (.error e, m)
    | .ok done => (if check then checked .text done else .ok done, m)

/-- Runs a command on a text.  Output that is no UTF-8 is read with
    replacement characters. -/
def stream (m : Machine) (command : List String) (input : String) :
    Except CommandError (Completed String) × Machine :=
  match m.execute command (.pipe (Utf8.encodeString input)) with
  | (.error e, m) => (.error e, m)
  | (.ok done, m) =>
    let text := fun bytes => String.ofList (Utf8.decodeReplacing bytes)
    (.ok ⟨done.program, done.arguments, done.status, text done.output, text done.errors⟩, m)

end Machine

end DenoBridge
