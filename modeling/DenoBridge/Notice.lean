import DenoBridge.Terminal.Highlight
import DenoBridge.Terminal.Markup
import DenoBridge.Terminal.Rule
import DenoBridge.Terminal.Screen
import DenoBridge.Text.Quoted

/-! # Notices

    What the program tells its user: notices of four kinds, each of which has
    a sign and a colour, and headings of sections.  A notice is written as it
    is; a heading is markup.  What holds half a surrogate pair is laid out like
    any other text, but cannot be written.
-/

namespace DenoBridge

open Terminal

/-! ## Section 1: Notices -/

/-- The kinds of notices. -/
inductive Notice where
  | info
  | success
  | warning
  | failure
  deriving Repr, DecidableEq

namespace Notice

/-- The sign of a kind. -/
def sign : Notice → String
  | .info => "ℹ\ufe0f "
  | .success => "✅ "
  | .warning => "⚠\ufe0f "
  | .failure => "❌ "

/-- The colour of a kind. -/
def style : Notice → Style
  | .info => .cyan
  | .success => .green
  | .warning => .yellow
  | .failure => .red

/-- The lines of a notice.  Only tabs and characters that are never shown are
    written in another way. -/
def lines (notice : Notice) (emoji : Bool) (message : String) : List StyledText :=
  let text := if emoji then notice.sign ++ message else message
  (StyledText.ofText (shown text.toList) notice.style).lines.map StyledText.expandTabs

/-- The text of a notice on a screen. -/
def display (notice : Notice) (screen : Screen) (emoji : Bool) (message : String) : String :=
  screen.display (notice.lines emoji message)

end Notice

/-! ## Section 2: Headings -/

namespace Heading

/-- The lines of a plain heading: an empty one, and the title between dashes. -/
def plain (title : String) : Except Markup.Fault (List StyledText) := do
  let text ← Markup.read true (s!"\n--- {title} ---").toList
  return text.lines.map StyledText.expandTabs

/-- The rule that a title stands in.  Without columns the title is not read. -/
def rule (columns : Nat) (emoji : Bool) (title : String) : Except Markup.Fault StyledText :=
  if title = "" || columns = 0 then .ok (bareRule columns)
  else (Markup.read emoji title.toList).map fun text => titledRule columns text.highlighted

end Heading

/-! ## Section 3: Halves -/

/-- Halves side by side in a text.  UTF-8 has no bytes for them. -/
structure Halves where
  first : Nat
  position : Nat
  count : Nat
  deriving Repr, DecidableEq

namespace Halves

/-- The wording of a refusal to write them. -/
def message (halves : Halves) : String :=
  let stop := halves.position + halves.count - 1
  let which :=
    if halves.count = 1 then
      s!" '{String.ofList (Text.escapeCode halves.first)}' in position {halves.position}"
    else s!"s in position {halves.position}-{stop}"
  s!"'utf-8' codec can't encode character{which}: surrogates not allowed\n" ++
    "*** You may need to add PYTHONIOENCODING=utf-8 to your environment ***"

/-- The first halves for which characters stand in. -/
def first? (text : List Char) : Option Halves :=
  let before := text.takeWhile (!Glyph.isStandIn ·)
  match text.drop before.length with
  | [] => none
  | c :: rest =>
    let count := (rest.takeWhile Glyph.isStandIn).length + 1
    some ⟨c.toNat - Glyph.standInDistance, before.length, count⟩

/-- The first halves in what is shown of some texts, if one of these holds a
    half. -/
def shown? (texts : List (List Glyph)) (shown : String) : Option Halves :=
  if texts.any Glyph.holdsHalf then first? shown.toList else none

end Halves

/-! ## Section 4: Faults -/

/-- Why something is not shown. -/
inductive DisplayFault where
  /-- The size of the screen is no number. -/
  | size (fault : Numeral.Fault)
  | markup (fault : Markup.Fault)
  | halves (halves : Halves)
  deriving Repr, DecidableEq

/-- The wording of a fault. -/
def DisplayFault.message : DisplayFault → String
  | .size fault => fault.message
  | .markup fault => fault.message
  | .halves found => found.message

end DenoBridge
