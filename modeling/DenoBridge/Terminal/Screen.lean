import DenoBridge.Number.Numeral
import DenoBridge.Terminal.Stream

/-! # Screens

    A screen shows lines in a number of columns and some colours.  Its size
    comes from two variables of the environment, and without columns it shows
    nothing at all.
-/

namespace DenoBridge.Terminal

/-! ## Section 1: Sizes -/

/-- The number in a variable.  There is none unless the variable holds only
    signs that show digits; of these, all have to be decimal. -/
def sizeIn (env : Environment) (name : String) : Except Numeral.Fault (Option Nat) :=
  let text := (env.getD name).toList
  if text.isEmpty || !text.all Text.isDigitSign then .ok none
  else (Numeral.read text).map some

/-- The columns when nothing says how many there are. -/
def usualColumns : Nat := 80

/-- The columns of a screen.  A dumb terminal has the usual ones unless both
    sizes are given. -/
def columns (env : Environment) (terminal : Bool) : Except Numeral.Fault Nat := do
  let columns ← sizeIn env "COLUMNS"
  let lines ← sizeIn env "LINES"
  if lines.isNone && terminal && isDumb env then return usualColumns
  return columns.getD usualColumns

/-! ## Section 2: Screens -/

/-- What shows lines: so many columns, some attributes and colours, and
    perhaps only the attributes. -/
structure Screen where
  columns : Nat
  depth : Option Depth
  /-- Are all lines in the terminal's own colours? -/
  colourless : Bool
  deriving Repr, DecidableEq

/-- Lines in the colours of a terminal, each one ended. -/
def displayLines (depth : Option Depth) (lines : List StyledText) : String :=
  String.join (lines.map fun line => line.display depth ++ "\n")

/-- Lines on a screen. -/
def Screen.display (screen : Screen) (lines : List StyledText) : String :=
  if screen.columns = 0 then ""
  else
    displayLines screen.depth
      (if screen.colourless then lines.map StyledText.withoutColours else lines)

/-- The screen at the end of a channel, in colours if they are wanted and the
    channel ends at a terminal. -/
def Streams.screen (s : Streams) (env : Environment) (channel : Channel) (wanted : Bool) :
    Except Numeral.Fault Screen := do
  return ⟨← columns env (s.isTerminal channel), s.depth env channel wanted, false⟩

/-- The screen for records on a channel.  The environment has a say in whether
    there is a terminal and whether its colours are used. -/
def Streams.recordScreen (s : Streams) (env : Environment) (channel : Channel) :
    Except Numeral.Fault Screen := do
  let terminal := s.countsAsTerminal env channel
  return ⟨← columns env terminal, if terminal then Depth.ofEnvironment env else none,
    env.getD "NO_COLOR" ≠ ""⟩

end DenoBridge.Terminal
