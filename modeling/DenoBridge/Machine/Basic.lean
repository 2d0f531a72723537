import DenoBridge.Environment
import DenoBridge.Machine.FileSystem
import DenoBridge.Path.Basic

/-! # The machine

    What a session can see and change outside itself: the files, the process
    environment, the current directory, and the behaviour of child processes.
    The diagnostic records written so far belong to it too.
-/

namespace DenoBridge

/-! ## Section 1: Children -/

/-- What is needed to run a child process. -/
structure Launch where
  tool : Tool
  /-- The file that the system was asked to start. -/
  file : String
  /-- The arguments, the name of the program itself first. -/
  arguments : List String
  environment : Environment
  directory : Place
  input : Bytes

/-- How a child process ended. -/
inductive Ending where
  | exited (status : Nat)
  | killed (signal : Nat)
  deriving Repr, DecidableEq

/-- The status as a number: negative for a signal. -/
def Ending.status : Ending → Int
  | .exited status => status
  | .killed signal => -(signal : Int)

/-- What a child process left behind. -/
structure ChildResult where
  output : Bytes
  errors : Bytes
  ending : Ending
  deriving Repr

/-! ## Section 2: Diagnostics -/

/-- The severities of records, with their numbers. -/
inductive Severity where
  | debug
  | info
  | warning
  | error
  | critical
  deriving Repr, DecidableEq

/-- The number of a severity. -/
def Severity.level : Severity → Nat
  | .debug => 10
  | .info => 20
  | .warning => 30
  | .error => 40
  | .critical => 50

/-- The name of a severity. -/
def Severity.name : Severity → String
  | .debug => "DEBUG"
  | .info => "INFO"
  | .warning => "WARNING"
  | .error => "ERROR"
  | .critical => "CRITICAL"

/-- A diagnostic record. -/
structure LogRecord where
  logger : String
  severity : Severity
  message : String
  deriving Repr, DecidableEq

/-! ## Section 3: Machines -/

/-- The machine. -/
structure Machine where
  files : FileSystem
  environment : Environment
  /-- The current directory. -/
  directory : Place
  /-- What a child does to the files, and what it leaves behind. -/
  child : Launch → FileSystem → ChildResult × FileSystem
  /-- How many brackets may be open at once in a JSON text that is read: what
      the interpreter's stack leaves room for. -/
  nesting : Nat
  /-- The records written so far, the newest first. -/
  log : List LogRecord

namespace Machine

/-- The machine after a debugging record was written. -/
def debug (m : Machine) (logger message : String) : Machine :=
  { m with log := ⟨logger, .debug, message⟩ :: m.log }

/-- The path of the current directory. -/
def currentPath (m : Machine) : Path :=
  ⟨.root, m.directory⟩

end Machine

end DenoBridge
