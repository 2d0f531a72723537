import DenoBridge.Terminal.Colour

/-! # Styles

    A style says of some attributes whether they are on or off, and may give
    a colour, a colour behind the characters and a link.  Styles are written
    as words.  Where one style lies over another, what the upper one says
    counts.
-/

namespace DenoBridge.Terminal

/-! ## Section 1: Attributes -/

/-- The attributes that characters can have, in the order of their codes. -/
inductive Attribute where
  | bold
  | dim
  | italic
  | underline
  | blink
  | fastBlink
  | reversed
  | concealed
  | struck
  | doubleUnderline
  | framed
  | encircled
  | overlined
  deriving Repr, DecidableEq

namespace Attribute

/-- All attributes, in order. -/
def all : List Attribute :=
  [.bold, .dim, .italic, .underline, .blink, .fastBlink, .reversed, .concealed, .struck,
    .doubleUnderline, .framed, .encircled, .overlined]

/-- The name of an attribute. -/
def name : Attribute → String
  | .bold => "bold"
  | .dim => "dim"
  | .italic => "italic"
  | .underline => "underline"
  | .blink => "blink"
  | .fastBlink => "blink2"
  | .reversed => "reverse"
  | .concealed => "conceal"
  | .struck => "strike"
  | .doubleUnderline => "underline2"
  | .framed => "frame"
  | .encircled => "encircle"
  | .overlined => "overline"

/-- The short names that some attributes have. -/
def shortNames : List (String × Attribute) :=
  [("d", .dim), ("b", .bold), ("i", .italic), ("u", .underline), ("r", .reversed),
    ("c", .concealed), ("s", .struck), ("uu", .doubleUnderline), ("o", .overlined)]

/-- The attribute that a word means. -/
def ofWord? (word : String) : Option Attribute :=
  match all.find? (·.name == word) with
  | some mark => some mark
  | none => shortNames.lookup word

/-- The code that switches an attribute on. -/
def code : Attribute → Nat
  | .bold => 1
  | .dim => 2
  | .italic => 3
  | .underline => 4
  | .blink => 5
  | .fastBlink => 6
  | .reversed => 7
  | .concealed => 8
  | .struck => 9
  | .doubleUnderline => 21
  | .framed => 51
  | .encircled => 52
  | .overlined => 53

end Attribute

/-! ## Section 2: Styles -/

/-- A style. -/
structure Style where
  /-- What is said of attributes; of two sayings the first one counts. -/
  attributes : List (Attribute × Bool)
  colour : Option Colour
  /-- The colour behind the characters. -/
  ground : Option Colour
  link : Option String
  deriving Repr, DecidableEq

namespace Style

/-- The style that says nothing. -/
def plain : Style := ⟨[], none, none, none⟩

/-- The style with a standard colour. -/
def ofColour (name : String) (place : Nat) : Style :=
  { plain with colour := some ⟨name, .indexed place⟩ }

def cyan : Style := ofColour "cyan" 6
def green : Style := ofColour "green" 2
def yellow : Style := ofColour "yellow" 3
def red : Style := ofColour "red" 1
def blue : Style := ofColour "blue" 4
def brightGreen : Style := ofColour "bright_green" 10

/-- The style that switches one attribute on. -/
def ofAttribute (mark : Attribute) : Style :=
  { plain with attributes := [(mark, true)] }

def bold : Style := ofAttribute .bold
def italic : Style := ofAttribute .italic

/-- A style with another one over it. -/
def under (lower upper : Style) : Style :=
  { attributes := upper.attributes ++ lower.attributes
    colour := upper.colour.or lower.colour
    ground := upper.ground.or lower.ground
    link := upper.link.or lower.link }

/-- The codes that switch a style on in a terminal of a depth. -/
def codes (style : Style) (depth : Depth) : List Nat :=
  let on := Attribute.all.filter fun mark => style.attributes.lookup mark == some true
  let colour := style.colour.map fun colour => (colour.hue.reduce depth).codes false
  let ground := style.ground.map fun colour => (colour.hue.reduce depth).codes true
  on.map Attribute.code ++ colour.getD [] ++ ground.getD []

/-- A text between the codes that switch the style on and all styles off. -/
def wrap (style : Style) (depth : Option Depth) (text : String) : String :=
  match depth with
  | none => text
  | some depth =>
    match style.codes depth with
    | [] => text
    | codes =>
      if text = "" then text
      else "\x1b[" ++ String.intercalate ";" (codes.map toString) ++ "m" ++ text ++ "\x1b[0m"

/-! ## Section 3: Words -/

/-- The words of a text. -/
def wordsOf (text : List Char) : List (List Char) :=
  (Text.pieces ' ' (text.map fun c => if Text.isBlank c then ' ' else c)).filter (!·.isEmpty)

/-- The words that say something about the word after them. -/
inductive Keyword where
  | on
  | off
  | link
  deriving Repr, DecidableEq

/-- The keyword that a word is. -/
def Keyword.ofWord? (word : String) : Option Keyword :=
  [("on", Keyword.on), ("not", .off), ("link", .link)].lookup word

/-- The style with what a keyword says of the word after it. -/
def Keyword.apply (style : Style) (word : List Char) : Keyword → Except Numeral.Fault (Option Style)
  | .on => do return (← Colour.read word).map fun colour => { style with ground := some colour }
  | .off =>
    .ok ((Attribute.ofWord? (String.ofList word)).map fun mark =>
      { style with attributes := (mark, false) :: style.attributes })
  | .link => .ok (some { style with link := some (String.ofList word) })

/-- The style with an attribute or a colour over it. -/
def readWord (style : Style) (word : List Char) : Except Numeral.Fault (Option Style) :=
  match Attribute.ofWord? (String.ofList (Text.lower word)) with
  | some mark => .ok (some { style with attributes := (mark, true) :: style.attributes })
  | none => do return (← Colour.read word).map fun colour => { style with colour := some colour }

/-- The style that words describe, taken over a style.  There is none when a
    word makes no sense. -/
def readWords (style : Style) : List (List Char) → Except Numeral.Fault (Option Style)
  | [] => .ok (some style)
  | [word] =>
    if (Keyword.ofWord? (String.ofList (Text.lower word))).isSome then .ok none
    else readWord style word
  | word :: next :: rest =>
    match Keyword.ofWord? (String.ofList (Text.lower word)) with
    | some keyword => do
      match ← keyword.apply style next with
      | some style => readWords style rest
      | none => return none
    | none => do
      match ← readWord style word with
      | some style => readWords style (next :: rest)
      | none => return none

/-- The style that a text describes, if it describes one. -/
def read (text : List Char) : Except Numeral.Fault (Option Style) :=
  if Text.trim text = "none".toList then .ok (some plain)
  else readWords plain (wordsOf text)

/-- The words that describe a style, in a fixed order. -/
def words (style : Style) : List String :=
  let said := Attribute.all.flatMap fun mark =>
    match style.attributes.lookup mark with
    | some true => [mark.name]
    | some false => ["not", mark.name]
    | none => []
  let colour := style.colour.map fun colour => [colour.name]
  let ground := style.ground.map fun colour => ["on", colour.name]
  let link := style.link.map fun link => ["link", link]
  said ++ colour.getD [] ++ ground.getD [] ++ link.getD []

/-- The text that describes a style. -/
def text (style : Style) : String :=
  match style.words with
  | [] => "none"
  | words => String.intercalate " " words

/-- The description of the style that a text describes; a text that
    describes none is taken without blanks around it and in lower case. -/
def normalText (text : List Char) : Except Numeral.Fault String := do
  match ← read text with
  | some style => return style.text
  | none => return String.ofList (Text.lower (Text.trim text))

end Style

end DenoBridge.Terminal
