import DenoBridge.Machine.Basic
import DenoBridge.Terminal.Grid
import DenoBridge.Terminal.Highlight
import DenoBridge.Terminal.Screen

/-! # Diagnostics

    Records of the program's own loggers are shown in rows beside their
    severity once diagnostics are configured; until then, and for all other
    loggers, a record that is at least a warning is written as it is.
-/

namespace DenoBridge

open Terminal

/-- What is known of the handling of records. -/
inductive Diagnostics where
  | unset
  /-- All records are let through, or only warnings and what is worse, but
      there is no screen for them. -/
  | limited (verbose : Bool)
  /-- Records that are let through are shown on a screen. -/
  | configured (verbose : Bool) (screen : Screen)
  deriving Repr, DecidableEq

namespace Diagnostics

/-- The logger above all loggers of the program. -/
def root : String := "denokit"

/-- The least severity that is let through when everything is wanted, or only
    warnings and what is worse. -/
def least (verbose : Bool) : Severity :=
  if verbose then .debug else .warning

/-- The number of the least severity that is let through; 0 when nothing is
    set. -/
def level : Diagnostics → Nat
  | .unset => 0
  | .limited verbose | .configured verbose _ => (least verbose).level

/-- How many handlers show records. -/
def handlers : Diagnostics → Nat
  | .configured .. => 1
  | _ => 0

/-- Is this a logger of the program? -/
def isOwn (logger : String) : Bool :=
  logger == root || (root ++ ".").toList.isPrefixOf logger.toList

/-- The style of a severity's name. -/
def severityStyle : Severity → Style
  | .debug => .green
  | .info => .blue
  | .warning => .yellow
  | .error => Style.bold.under .red
  | .critical => (Style.bold.under (.ofAttribute .reversed)).under .red

/-- The cells of a severity's name. -/
def severityCells : Nat := 8

/-- The name of a severity, filled up to `severityCells`. -/
def label (severity : Severity) : StyledText :=
  .ofText (fit severityCells severity.name.toList) (severityStyle severity)

/-- The message of a record behind the name of its logger, over what stands
    out in it. -/
def message (record : LogRecord) : StyledText :=
  let text := shown (record.logger ++ ": " ++ record.message).toList
  (StyledText.ofText text .plain).aboveSpans (Highlight.spans text ++ Highlight.keywordSpans text)

/-- The cells of a record: its severity, and its message in the rest of the
    columns. -/
def cells (record : LogRecord) : List (Grid.Track × StyledText) :=
  [(⟨.ellipsis, 0, 1, false⟩, label record.severity), (⟨.fold, 0, 0, true⟩, message record)]

/-- The lines of a record in so many columns. -/
def lines (columns : Nat) (record : LogRecord) : List StyledText :=
  let cells := cells record
  let widths := Grid.widths columns (cells.map fun (track, text) => (track, [text]))
  let line := cells.zipWith (fun (track, text) cells =>
    (⟨cells, .plain, track.rows cells .plain text⟩ : Grid.Cell)) widths
  (Grid.rowsOf false line).map List.flatten

/-- The text that a record leaves, if it leaves one. -/
def display? (d : Diagnostics) (record : LogRecord) : Option String :=
  match d, isOwn record.logger with
  | .configured verbose screen, true =>
    if (least verbose).level ≤ record.severity.level then
      some (screen.display (lines screen.columns record))
    else none
  | _, _ =>
    if Severity.warning.level ≤ record.severity.level then some (record.message ++ "\n") else none

end Diagnostics

end DenoBridge
