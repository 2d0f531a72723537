import DenoBridge.Machine.Spawn
import DenoBridge.Shell.Arithmetic
import DenoBridge.Shell.Pattern
import DenoBridge.Shell.Program

/-! # The state of a shell

    A shell holds variables, functions, traps and open streams, and it works on
    the files of a machine.  A command reads and changes this state, or stops
    the commands around it.
-/

namespace DenoBridge.Shell

/-! ## Section 1: Streams -/

/-- Where a stream leads. -/
inductive Channel where
  | input
  | output
  | errors
  | pipe (number : Nat)
  | file (number : Nat)
  /-- To the device that takes everything and gives nothing. -/
  | nowhere
  deriving Repr, DecidableEq

/-- The streams that are open, by their numbers. -/
abbrev Streams := List (Nat × Channel)

/-- The streams of a program. -/
def standardStreams : Streams :=
  [(0, .input), (1, .output), (2, .errors)]

/-- A file that is open, and the place in it where it is read or written. -/
structure OpenFile where
  place : Place
  offset : Nat
  /-- Is it written at its end? -/
  appends : Bool
  deriving Repr

/-! ## Section 2: States -/

/-- A variable.  One that has no value may still be marked. -/
structure Variable where
  value : Option (List Char)
  isExported : Bool
  /-- Is its value never changed again? -/
  isFixed : Bool
  deriving Repr

/-- A function, with the documents of the line that it was made in. -/
structure Function where
  body : Command
  documents : Documents

/-- What a shell does besides its commands. -/
structure Options where
  stopsOnFailure : Bool
  requiresValues : Bool
  keepsPatterns : Bool
  traces : Bool
  /-- Is every variable that is given a value also given to programs? -/
  exportsAll : Bool
  /-- Are files that are there not written anew? -/
  keepsFiles : Bool
  /-- Are commands only read, and not run? -/
  onlyReads : Bool
  deriving Repr, DecidableEq

/-- The options that a shell starts with. -/
def Options.none : Options :=
  ⟨false, false, false, false, false, false, false⟩

/-- What a function made its own, as it was before: variables and options. -/
structure Frame where
  vars : List (List Char × Option Variable)
  options : Option Options

/-- The permissions that are not given if nothing else is said. -/
def standardMask : Nat := 0o022

/-- The state of a shell. -/
structure State where
  files : FileSystem
  directory : Place
  /-- The text of the current directory, which may go through links. -/
  here : List Char
  /-- The name of the program. -/
  name : List Char
  arguments : List (List Char)
  vars : List (List Char × Variable)
  functions : List (List Char × Function)
  options : Options
  /-- What is to be done on a signal; number 0 stands for the end. -/
  traps : List (Nat × List Char)
  /-- In a shell within another one, the traps of the outermost one, which is
      the one that gets signals. -/
  outerTraps : Option (List (Nat × List Char))
  /-- The signals that came and wait for their traps, the oldest first. -/
  pending : List Nat
  /-- What the functions that are being run made their own, the innermost one
      first. -/
  frames : List Frame
  /-- The permissions that new files are not given. -/
  mask : Nat
  streams : Streams
  /-- What is left of the input. -/
  input : Bytes
  output : Bytes
  errors : Bytes
  pipes : List (Nat × Bytes)
  opened : List (Nat × OpenFile)
  /-- The next number for a pipe or an open file. -/
  next : Nat
  /-- The status of the last command. -/
  status : Nat
  /-- The status of the last substitution in the current command. -/
  substituted : Nat
  /-- The status that the shell ends with, if that is known. -/
  ending : Option Nat

/-- What stops the commands that follow. -/
inductive Stop where
  /-- So many loops are left, or gone on with. -/
  | left (loops : Nat)
  | continued (loops : Nat)
  | returned
  | exited
  /-- The shell comes to its end by itself. -/
  | ended
  /-- A message was written about what the shell cannot do. -/
  | failed
  | killed (signal : Nat)
  deriving Repr, DecidableEq

/-- Work of a shell. -/
abbrev Act (α : Type) := ExceptT Stop (StateM State) α

/-- Work after which part of the state is put back.  `leave` is given the state
    before the work and the one after it. -/
def within (enter : State → State) (leave : State → State → State) (work : Act α) : Act α :=
  ExceptT.mk fun s =>
    let (result, after) := work.run.run (enter s)
    (result, leave s after)

/-- Work whose end is looked at, whatever stopped it. -/
def attempt (work : Act α) : Act (Except Stop α) :=
  ExceptT.mk fun s =>
    let (result, after) := work.run.run s
    (.ok result, after)

/-- Sets the status. -/
def setStatus (status : Nat) : Act Unit :=
  modify fun s => { s with status := status }

/-! ## Section 3: Variables -/

namespace State

/-- The value of a variable. -/
def value? (s : State) (name : List Char) : Option (List Char) :=
  (s.vars.lookup name).bind (·.value)

/-- The state with a variable, which takes the place of an older one. -/
def putVariable (s : State) (name : List Char) (found : Variable) : State :=
  if s.vars.any (·.1 = name) then
    { s with vars := s.vars.map fun entry =>
        if entry.1 = name then (name, found) else entry }
  else { s with vars := s.vars ++ [(name, found)] }

/-- The state without a variable. -/
def dropVariable (s : State) (name : List Char) : State :=
  { s with vars := s.vars.filter (·.1 ≠ name) }

/-- The state with a variable as it was before. -/
def restore (s : State) (name : List Char) (before : Option Variable) : State :=
  match before with
  | some found => s.putVariable name found
  | none => s.dropVariable name

/-- The state after a function that made parts of it its own. -/
def leaveFrame (s : State) (frame : Frame) : State :=
  let s := frame.vars.foldl (fun s (name, before) => s.restore name before) s
  { s with options := frame.options.getD s.options }

/-- The mode of a new file. -/
def newMode (s : State) : Nat :=
  0o666 &&& (0o777 - s.mask)

/-- Gives a variable a value; marks stay as they are. -/
def assign (s : State) (name value : List Char) : State :=
  let old := s.vars.lookup name
  let isExported := s.options.exportsAll || old.any (·.isExported)
  s.putVariable name ⟨some value, isExported, old.any (·.isFixed)⟩

/-- The traps that signals meet. -/
def mainTraps (s : State) : List (Nat × List Char) :=
  s.outerTraps.getD s.traps

/-- The shelf that a variable stands on; programs are given the variables shelf
    by shelf. -/
def shelf (name : List Char) : Nat :=
  name.foldl (fun n c => n + c.toNat) (16 * (name.headD '\x00').toNat) % 39

/-- The variables that programs are given. -/
def exported (s : State) : List (List Char × List Char) :=
  let pairs := s.vars.filterMap fun (name, found) =>
    if found.isExported then found.value.map fun value => (name, value) else none
  pairs.mergeSort fun a b => shelf a.1 ≤ shelf b.1

/-- The characters that separate fields. -/
def separators (s : State) : List Char :=
  (s.value? "IFS".toList).getD [' ', '\t', '\n']

/-- What stands for the number of the process. -/
def processNumber : List Char := "4242".toList

/-- The value of a parameter, if it has one. -/
def parameter? (s : State) (name : List Char) : Option (List Char) :=
  match name with
  | ['#'] => some (toString s.arguments.length).toList
  | ['?'] => some (toString s.status).toList
  | ['$'] => some processNumber
  | ['!'] => none
  | ['-'] =>
    let flag := fun (on : Bool) (c : Char) => if on then [c] else []
    some (flag s.options.requiresValues 'u' ++ flag s.options.exportsAll 'a' ++
      flag s.options.keepsFiles 'C' ++ flag s.options.traces 'x' ++
      flag s.options.keepsPatterns 'f' ++ flag s.options.stopsOnFailure 'e')
  | ['0'] => some s.name
  | name =>
    if name.all Char.isDigit then s.arguments[Digits.value name - 1]? else s.value? name

/-! ## Section 4: Input and output -/

/-- The channel of a stream. -/
def channel? (s : State) (stream : Nat) : Option Channel :=
  s.streams.lookup stream

/-- The state with a stream led elsewhere, or closed. -/
def lead (s : State) (stream : Nat) (channel : Option Channel) : State :=
  let others := s.streams.filter (·.1 ≠ stream)
  { s with streams := (channel.map fun found => (stream, found)).toList ++ others }

/-- The bytes that a channel holds. -/
def held (s : State) (channel : Channel) : Bytes :=
  match channel with
  | .input => s.input
  | .pipe number => (s.pipes.lookup number).getD []
  | .file number =>
    match s.opened.lookup number with
    | some file =>
      match s.files.get? file.place with
      | some (.file _ content) => content.drop file.offset
      | _ => []
    | none => []
  | _ => []

/-- The state after so many bytes were read from a channel. -/
def take (s : State) (channel : Channel) (count : Nat) : State :=
  match channel with
  | .input => { s with input := s.input.drop count }
  | .pipe number =>
    { s with pipes := s.pipes.map fun entry =>
        if entry.1 = number then (number, entry.2.drop count) else entry }
  | .file number =>
    { s with opened := s.opened.map fun entry =>
        if entry.1 = number then (number, { entry.2 with offset := entry.2.offset + count })
        else entry }
  | _ => s

/-- A content after bytes were written into it at a place. -/
def overwrite (content bytes : Bytes) (offset : Nat) : Bytes :=
  content.take offset ++ List.replicate (offset - content.length) 0 ++ bytes ++
    content.drop (offset + bytes.length)

/-- The state after bytes were written to a channel. -/
def write (s : State) (channel : Channel) (bytes : Bytes) : State :=
  match channel with
  | .output => { s with output := s.output ++ bytes }
  | .errors => { s with errors := s.errors ++ bytes }
  | .pipe number =>
    { s with pipes := s.pipes.map fun entry =>
        if entry.1 = number then (number, entry.2 ++ bytes) else entry }
  | .file number =>
    match s.opened.lookup number with
    | some file =>
      match s.files.get? file.place with
      | some (.file mode content) =>
        let offset := if file.appends then content.length else file.offset
        let s := { s with files := s.files.put file.place
                            (.file mode (overwrite content bytes offset)) }
        s.take (.file number) (offset + bytes.length - file.offset)
      | _ => s
    | none => s
  | .nowhere | .input => s

/-- A new pipe that holds bytes, and its channel. -/
def openPipe (s : State) (bytes : Bytes) : Channel × State :=
  (.pipe s.next, { s with pipes := (s.next, bytes) :: s.pipes, next := s.next + 1 })

/-- The state without a pipe that is used no more. -/
def dropPipe (s : State) (channel : Channel) : State :=
  { s with pipes := s.pipes.filter fun entry => Channel.pipe entry.1 ≠ channel }

/-- A file opened at its start, or at its end, and its channel. -/
def openFile (s : State) (place : Place) (appends : Bool) : Channel × State :=
  let file : OpenFile := ⟨place, 0, appends⟩
  (.file s.next, { s with opened := (s.next, file) :: s.opened, next := s.next + 1 })

end State

/-! ## Section 5: Messages -/

/-- Writes a text to a stream; `false` if it is closed. -/
def writeTo (stream : Nat) (text : List Char) : Act Bool := do
  match (← get).channel? stream with
  | some channel => do
    modify fun s => s.write channel (toBytes text)
    return true
  | none => return false

/-- Writes a message about a line of the program. -/
def complain (line : Nat) (message : List Char) : Act Unit := do
  let number := (toString line).toList
  let _ ← writeTo 2 ((← get).name ++ ": ".toList ++ number ++ ": ".toList ++ message ++ ['\n'])

/-- Writes a message and stops. -/
def fail (line : Nat) (message : List Char) : Act α := do
  complain line message
  setStatus 2
  throw .failed

/-- Gives a variable a value, unless its value is fixed.  The name ends before an
    equals sign.  `speaker` stands before a message. -/
def setVariable (line : Nat) (speaker name value : List Char) : Act Unit := do
  let name := name.takeWhile (· ≠ '=')
  if !isName name then fail line (speaker ++ name ++ ": bad variable name".toList)
  if ((← get).vars.lookup name).any (·.isFixed) then
    fail line (speaker ++ name ++ ": is read only".toList)
  modify (·.assign name value)

/-! ## Section 6: Signals -/

/-- The names of the signals for programs' own use, with their numbers. -/
def ownSignalNames : List (String × Nat) :=
  (List.range 31).map fun n =>
    let name :=
      if n = 0 then "RTMIN"
      else if n ≤ 15 then s!"RTMIN+{n}"
      else if n < 30 then s!"RTMAX-{30 - n}"
      else "RTMAX"
    (name, 34 + n)

/-- The numbers of the signals, by their names. -/
def signalNames : List (String × Nat) :=
  [("HUP", 1), ("INT", 2), ("QUIT", 3), ("ILL", 4), ("TRAP", 5), ("ABRT", 6), ("BUS", 7),
    ("FPE", 8), ("KILL", 9), ("USR1", 10), ("SEGV", 11), ("USR2", 12), ("PIPE", 13), ("ALRM", 14),
    ("TERM", 15), ("CHLD", 17), ("CONT", 18), ("STOP", 19), ("TSTP", 20), ("TTIN", 21),
    ("TTOU", 22), ("URG", 23), ("XCPU", 24), ("XFSZ", 25), ("VTALRM", 26), ("PROF", 27),
    ("WINCH", 28), ("IO", 29), ("PWR", 30), ("SYS", 31)] ++ ownSignalNames

/-- The greatest number of a signal. -/
def lastSignal : Nat := 64

/-- The signal that a text names. -/
def signal? (text : List Char) : Option Nat :=
  if !text.isEmpty && text.all Char.isDigit then
    (some (Digits.value text)).filter (· ≤ lastSignal)
  else signalNames.lookup (String.ofList (text.map Char.toUpper))

/-- Does the signal end a process that has made no provision for it? -/
def isFatal (signal : Nat) : Bool :=
  0 < signal && !([17, 18, 19, 20, 21, 22, 23, 28].contains signal)

/-- What is said when a program was ended by a signal. -/
def signalText? (signal : Nat) : Option String :=
  [(1, "Hangup"), (3, "Quit"), (4, "Illegal instruction"), (5, "Trace/breakpoint trap"),
    (6, "Aborted"), (7, "Bus error"), (8, "Floating point exception"), (9, "Killed"),
    (10, "User defined signal 1"), (11, "Segmentation fault"), (12, "User defined signal 2"),
    (14, "Alarm clock"), (15, "Terminated"), (16, "Stack fault"), (24, "CPU time limit exceeded"),
    (25, "File size limit exceeded"), (26, "Virtual timer expired"),
    (27, "Profiling timer expired"), (30, "Power failure"), (31, "Bad system call")].lookup signal

end DenoBridge.Shell
