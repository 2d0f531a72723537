import DenoBridge.Doctor
import DenoBridge.Terminal.Markup
import DenoBridge.Terminal.Table

/-! # The table of checks

    How the checks of the environment are shown: a table with a row for each
    of them.  What is told about a check is markup.
-/

namespace DenoBridge.Doctor

open Terminal

/-- The title above the checks. -/
def title : String := "[bold cyan]denokit Doctor[/bold cyan]"

/-- The columns of the table. -/
def columns : List Column :=
  [⟨"Check", .bold, .ellipsis⟩, ⟨"Status", .bold, .ellipsis⟩, ⟨"Details", .plain, .fold⟩]

/-- Whether a check passed, in colour. -/
def status (passed : Bool) : StyledText :=
  if passed then .ofText "ok".toList .green else .ofText "not ok".toList .red

/-- The cells of a check. -/
def row (emoji : Bool) (check : Check) : Except Markup.Fault (List StyledText) := do
  return [.ofText check.name.toList .plain, status check.passed,
    ← Markup.read emoji (Glyph.stringOf check.detail).toList]

/-- The table of checks for so many columns of a terminal.  What is told about
    them is read only if there is room for it. -/
def table (emoji : Bool) (room : Nat) (checks : List Check) : Except Markup.Fault Table := do
  if Table.hasRoom columns room then
    return ⟨"Environment", columns, ← checks.mapM (row emoji)⟩
  else return ⟨"Environment", columns, checks.map fun _ => columns.map fun _ => []⟩

end DenoBridge.Doctor
