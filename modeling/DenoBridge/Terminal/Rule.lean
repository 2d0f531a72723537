import DenoBridge.Terminal.StyledText

/-! # Rules

    A rule is a line across all columns, with a title in its middle or
    without one.
-/

namespace DenoBridge.Terminal

/-- The character that rules are drawn with. -/
def ruleChar : Char := '─'

/-- The part of a rule that takes the given cells. -/
def ruleLine (cells : Nat) : List Char :=
  List.replicate cells ruleChar

/-- A rule without a title. -/
def bareRule (columns : Nat) : StyledText :=
  .ofText (ruleLine columns) .brightGreen

/-- A title on one line, abridged to fit into the given cells. -/
def ruleTitle (cells : Nat) (title : StyledText) : StyledText :=
  let line := (title.relay (Text.replaceChar '\n' ' ' title.plain)).expandTabs
  line.relay (abridge cells line.plain)

/-- A rule with a title.  On either side of the title stand a space and at
    least one character of the rule. -/
def titledRule (columns : Nat) (title : StyledText) : StyledText :=
  if columns ≤ 4 then bareRule columns
  else
    let title := ruleTitle (columns - 4) title
    let side := (columns - width title.plain) / 2
    let left : Piece := ⟨ruleLine (side - 1) ++ [' '], .brightGreen⟩
    let right : Piece := ⟨' ' :: ruleLine (side + 1), .brightGreen⟩
    let line : StyledText := left :: title ++ [right]
    line.relay (fit columns line.plain)

end DenoBridge.Terminal
