import DenoBridge.Environment
import DenoBridge.Terminal.StyledText

/-! # Output streams

    What a program writes goes to one of two streams.  Each of them may end at
    a terminal, and the environment says what that terminal can show.
-/

namespace DenoBridge.Terminal

/-- The streams that a program writes to. -/
inductive Channel where
  | output
  | errors
  deriving Repr, DecidableEq

/-- What a stream is connected with. -/
inductive Sink where
  | terminal
  /-- A file or a pipe. -/
  | store
  /-- There is no such stream. -/
  | absent
  /-- The stream was closed. -/
  | closed
  deriving Repr, DecidableEq

/-- The two streams. -/
structure Streams where
  output : Sink
  errors : Sink
  deriving Repr, DecidableEq

/-- What a channel is connected with. -/
def Streams.sink (s : Streams) : Channel → Sink
  | .output => s.output
  | .errors => s.errors

/-- Does a channel end at a terminal?  A missing or closed stream does not. -/
def Streams.isTerminal (s : Streams) (channel : Channel) : Bool :=
  s.sink channel == .terminal

/-- A text in lower case. -/
def lowerText (text : String) : String :=
  String.ofList (Text.lower text.toList)

/-- Is the environment's terminal one that can only write lines? -/
def isDumb (env : Environment) : Bool :=
  ["dumb", "unknown"].contains (lowerText (env.getD "TERM"))

/-- The colours that the environment's terminal shows; a dumb one shows
    none. -/
def Depth.ofEnvironment (env : Environment) : Option Depth :=
  if isDumb env then none
  else
    let term := lowerText (env.getD "TERM")
    let colours := String.ofList (Text.trim (lowerText (env.getD "COLORTERM")).toList)
    if colours = "truecolor" ∨ colours = "24bit" then some .full
    else
      let kind := (Text.cutAtLast '-' (Text.trim term.toList)).2
      if kind = "256color".toList ∨ kind = "kitty".toList then some .palette
      else some .standard

/-- The colours to use on a channel when colours are wanted. -/
def Streams.depth (s : Streams) (env : Environment) (channel : Channel) (wanted : Bool) :
    Option Depth :=
  if wanted && s.isTerminal channel then Depth.ofEnvironment env else none

/-- Is a channel taken for a terminal?  The environment can say so, or deny
    it. -/
def Streams.countsAsTerminal (s : Streams) (env : Environment) (channel : Channel) : Bool :=
  match env.getD "TTY_COMPATIBLE", env.get? "FORCE_COLOR" with
  | "0", _ => false
  | "1", _ => true
  | _, some forced => forced ≠ ""
  | _, none => s.isTerminal channel

end DenoBridge.Terminal
