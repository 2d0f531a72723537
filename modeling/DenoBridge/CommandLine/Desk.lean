import DenoBridge.Diagnostics
import DenoBridge.Notice

/-! # The desk

    What a running command works with: the machine, the two output streams and
    what was written to them.  Work on it goes on until it is done, until the
    command exits, or until it fails; what was written stays written.
-/

namespace DenoBridge

open Terminal

/-- The desk. -/
structure Desk where
  machine : Machine
  streams : Streams
  diagnostics : Diagnostics
  /-- What was written to standard output. -/
  output : String
  /-- What was written to standard error. -/
  errors : String

/-- Why work ends before it is done. -/
inductive Stop (ε : Type) where
  | exit (status : Nat)
  | failed (e : ε)
  deriving Repr, DecidableEq

/-- Work on a desk.  What it did before it stopped stays done. -/
abbrev Work (ε α : Type) := ExceptT (Stop ε) (StateM Desk) α

namespace Desk

/-! ## Section 1: Writing -/

/-- The desk before anything was written. -/
def start (machine : Machine) (streams : Streams) : Desk :=
  ⟨machine, streams, .unset, "", ""⟩

/-- The desk after a text was written. -/
def write (d : Desk) (channel : Channel) (text : String) : Desk :=
  match channel with
  | .output => { d with output := d.output ++ text }
  | .errors => { d with errors := d.errors ++ text }

/-! ## Section 2: Records -/

/-- The desk after a record. -/
def record (d : Desk) (record : LogRecord) : Desk :=
  match d.diagnostics.display? record with
  | some text => d.write .errors text
  | none => d

/-- The desk after the records that the machine holds, which are then taken
    away from it. -/
def takeRecords (d : Desk) : Desk :=
  let records := d.machine.log.reverse
  records.foldl record { d with machine := { d.machine with log := [] } }

/-! ## Section 3: Steps of work -/

variable {ε α : Type}

/-- Looks at the desk. -/
def asks (f : Desk → α) : Work ε α := do
  return f (← get)

/-- Changes the desk. -/
def change (f : Desk → Desk) : Work ε Unit :=
  modify f

/-- Lets the machine do something, and shows the records of it. -/
def run (f : Machine → α × Machine) : Work ε α := do
  let d ← get
  let (answer, machine) := f d.machine
  set ({ d with machine := machine } : Desk).takeRecords
  return answer

/-- Ends the command with a status. -/
def exit (status : Nat) : Work ε α :=
  throw (.exit status)

/-- Fails. -/
def fail (e : ε) : Work ε α :=
  throw (.failed e)

/-- A result, or its error as a failure. -/
def orFail (f : δ → ε) : Except δ α → Work ε α
  | .ok a => return a
  | .error e => fail (f e)

/-! ## Section 4: Screens -/

/-- Sets up the handling of records.  Once there is a screen for them it is
    kept. -/
def configure (f : DisplayFault → ε) (verbose : Bool) : Work ε Unit := do
  let d ← get
  match d.diagnostics with
  | .configured _ screen => set { d with diagnostics := .configured verbose screen }
  | _ =>
    set { d with diagnostics := .limited verbose }
    let screen ← orFail (f ∘ .size) (d.streams.recordScreen d.machine.environment .errors)
    set { d with diagnostics := .configured verbose screen }

/-- The screen at the end of a channel.  It is coloured when there is a
    terminal, unless colours are unwanted. -/
def screen (f : DisplayFault → ε) (channel : Channel) (wanted : Option Bool) : Work ε Screen := do
  let d ← get
  orFail (f ∘ .size) (d.streams.screen d.machine.environment channel (wanted.getD true))

/-- Writes a notice. -/
def notice (f : DisplayFault → ε) (channel : Channel) (kind : Notice) (emoji : Bool)
    (wanted : Option Bool) (message : String) : Work ε Unit := do
  let screen ← screen f channel wanted
  change (·.write channel (kind.display screen emoji message))

/-- Writes what is shown of some texts to standard output.  Nothing of it is
    written when a half is shown. -/
def writeShown (f : DisplayFault → ε) (texts : List (List Glyph)) (shown : String) :
    Work ε Unit := do
  match Halves.shown? texts shown with
  | some halves => fail (f (.halves halves))
  | none => change (·.write .output shown)

/-- Writes a plain heading to standard output. -/
def heading (f : DisplayFault → ε) (title : String) : Work ε Unit := do
  let screen ← screen f .output (some false)
  let lines ← orFail (f ∘ .markup) (Heading.plain title)
  change (·.write .output (screen.display lines))

/-- Writes a rule with a title to a screen on standard output. -/
def rule (f : DisplayFault → ε) (screen : Screen) (emoji : Bool) (title : String) :
    Work ε Unit := do
  let line ← orFail (f ∘ .markup) (Heading.rule screen.columns emoji title)
  change (·.write .output (screen.display [line]))

/-- Writes a rule with a title to standard output, after an empty line. -/
def ruledHeading (f : DisplayFault → ε) (title : String) : Work ε Unit := do
  let screen ← screen f .output none
  change (·.write .output (screen.display [[]]))
  rule f screen true title

end Desk

end DenoBridge
