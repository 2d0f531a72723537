import DenoBridge.Terminal.Style
import DenoBridge.Terminal.Wrap

/-! # Styled text

    A styled text is a sequence of pieces, each shown in one style.  It can be
    cut where its plain text is cut, and another plain text can be laid under
    its styles.  Main statements: cutting loses nothing (`plain_cut`), and laying
    a text over spans changes none of its characters (`plain_aboveSpans`).
-/

namespace DenoBridge.Terminal

/-- Characters shown in one style. -/
structure Piece where
  text : List Char
  style : Style
  deriving Repr, DecidableEq

/-- Pieces, in order. -/
abbrev StyledText := List Piece

namespace StyledText

/-! ## Section 1: Characters -/

/-- The characters without their styles. -/
def plain (t : StyledText) : List Char :=
  t.flatMap (·.text)

/-- A text in one style. -/
def ofText (text : List Char) (style : Style) : StyledText :=
  [⟨text, style⟩]

/-- The text with its styles over another one. -/
def above (t : StyledText) (style : Style) : StyledText :=
  t.map fun piece => { piece with style := style.under piece.style }

/-- The text with the codes for its styles. -/
def display (t : StyledText) (depth : Option Depth) : String :=
  String.join (t.map fun piece => piece.style.wrap depth (String.ofList piece.text))

/-! ## Section 2: Cutting -/

/-- The first `count` characters, and the others. -/
def cut (count : Nat) : StyledText → StyledText × StyledText
  | [] => ([], [])
  | piece :: rest =>
    if piece.text.length ≤ count then
      let (before, after) := cut (count - piece.text.length) rest
      (piece :: before, after)
    else if count = 0 then ([], piece :: rest)
    else
      ([{ piece with text := piece.text.take count }],
        { piece with text := piece.text.drop count } :: rest)

theorem plain_cut (count : Nat) (t : StyledText) :
    plain (t.cut count).1 ++ plain (t.cut count).2 = plain t := by
  induction t generalizing count with
  | nil => rfl
  | cons piece rest ih =>
    have h := ih (count - piece.text.length)
    simp only [plain] at h
    unfold cut
    split
    · simp [plain, h]
    · split
      · simp [plain]
      · simp [plain, ← List.append_assoc]

/-- The text in parts of the given lengths. -/
def cutAll : List Nat → StyledText → List StyledText
  | [], _ => []
  | count :: counts, t =>
    let (part, rest) := t.cut count
    part :: cutAll counts rest

/-- The lines of the text, without the line feeds between them. -/
def lines (t : StyledText) : List StyledText :=
  let parts := Text.pieces '\n' t.plain
  (t.cutAll (parts.map fun part => part.length + 1)).zipWith
    (fun line part => (line.cut part.length).1) parts

/-! ## Section 3: Another text under the same styles -/

/-- Another text under the styles of this one, which reach as far as its own
    characters did. -/
def relay : StyledText → List Char → StyledText
  | [], [] => []
  | [], text => ofText text .plain
  | piece :: rest, text =>
    if text.isEmpty then []
    else
      { piece with text := text.take piece.text.length } ::
        relay rest (text.drop piece.text.length)

theorem plain_relay (t : StyledText) (text : List Char) : plain (t.relay text) = text := by
  induction t generalizing text with
  | nil => cases text <;> simp [relay, plain, ofText]
  | cons piece rest ih =>
    unfold relay
    split
    · simp_all [plain]
    · have h := ih (text.drop piece.text.length)
      simp only [plain] at h
      simp [plain, h]

/-- The text with spaces after it.  They belong to its last piece if that one
    has no style. -/
def pad (count : Nat) : StyledText → StyledText
  | [] => if count = 0 then [] else ofText (List.replicate count ' ') .plain
  | [last] =>
    if count = 0 then [last]
    else if last.style = .plain then [{ last with text := last.text ++ List.replicate count ' ' }]
    else [last, ⟨List.replicate count ' ', .plain⟩]
  | piece :: rest => piece :: pad count rest

/-- The text cut to some cells, if it takes more. -/
def fitDown (overflow : Overflow) (cells : Nat) (t : StyledText) : StyledText :=
  if width t.plain ≤ cells then t
  else
    t.relay (match overflow with
      | .fold => fit cells t.plain
      | .ellipsis => abridge cells t.plain)

/-- The text cut or filled with spaces to take exactly the given cells. -/
def fill (overflow : Overflow) (cells : Nat) (t : StyledText) : StyledText :=
  let t := t.fitDown overflow cells
  t.pad (cells - width t.plain)

/-! ## Section 4: Spans -/

/-- A stretch of characters with a style. -/
structure Span where
  start : Nat
  stop : Nat
  style : Style
  deriving Repr, DecidableEq

/-- What the spans say of a character; where they overlap, the later one lies
    over the earlier one. -/
def spanStyle (spans : List Span) (place : Nat) : Style :=
  (spans.filter fun span => span.start ≤ place && place < span.stop).foldl
    (fun style span => style.under span.style) .plain

/-- The text from a place on, cut at the given places, over the spans. -/
def aboveFrom (spans : List Span) (place : Nat) : List Nat → StyledText → StyledText
  | [], t => t
  | stop :: stops, t =>
    let (part, rest) := t.cut (stop - place)
    part.above (spanStyle spans place) ++ aboveFrom spans stop stops rest

/-- The text with its styles over spans.  It is cut wherever a span begins or
    ends. -/
def aboveSpans (spans : List Span) (t : StyledText) : StyledText :=
  let places := spans.flatMap fun span => [span.start, span.stop]
  t.aboveFrom spans 0 (places.mergeSort fun a b => a ≤ b)

theorem plain_above (t : StyledText) (style : Style) : plain (t.above style) = plain t := by
  simp [plain, above, List.flatMap_map]

theorem plain_aboveFrom (spans : List Span) (place : Nat) (stops : List Nat) (t : StyledText) :
    plain (t.aboveFrom spans place stops) = plain t := by
  induction stops generalizing place t with
  | nil => rfl
  | cons stop stops ih =>
    have h := plain_cut (stop - place) t
    have h₁ := plain_above (t.cut (stop - place)).1 (spanStyle spans place)
    have h₂ := ih stop (t.cut (stop - place)).2
    simp only [plain] at h h₁ h₂
    simp only [aboveFrom, plain, List.flatMap_append]
    rw [h₁, h₂, h]

theorem plain_aboveSpans (spans : List Span) (t : StyledText) :
    plain (t.aboveSpans spans) = plain t :=
  plain_aboveFrom spans 0 _ t

/-- The text in the terminal's own colours.  Attributes remain. -/
def withoutColours (t : StyledText) : StyledText :=
  t.map fun piece => { piece with style := { piece.style with colour := none, ground := none } }

/-! ## Section 5: Tabs and rows -/

/-- The distance between tab stops. -/
def tabStop : Nat := 8

/-- The parts of a line, each of which ends at a tab, with spaces up to the
    next stop in the place of the tab.  `used` cells stand before them. -/
def expandParts (used : Nat) : List StyledText → StyledText
  | [] => []
  | part :: rest =>
    match part.plain.reverse with
    | '\t' :: before =>
      let text := before.reverse ++ [' ']
      let cells := used + width text
      let spaces := List.replicate ((tabStop - cells % tabStop) % tabStop) ' '
      let part := part.relay text
      let part :=
        match part.reverse with
        | [] => part
        | last :: before => ({ last with text := last.text ++ spaces } :: before).reverse
      part ++ expandParts (cells + spaces.length) rest
    | _ => part ++ expandParts (used + width part.plain) rest

/-- A line with spaces in the place of its tabs. -/
def expandTabs (t : StyledText) : StyledText :=
  let parts := Text.pieces '\t' t.plain
  if parts.length = 1 then t
  else expandParts 0 (t.cutAll (parts.map fun part => part.length + 1))

/-- A row without the blanks by which it has more than `count` characters. -/
def dropOverhang (count : Nat) (t : StyledText) : StyledText :=
  let text := t.plain
  let blanks := text.length - (Text.trimEnd text).length
  (t.cut (text.length - min blanks (text.length - count))).1

/-- The rows of exactly the given cells that the text fills. -/
def rows (overflow : Overflow) (cells : Nat) (t : StyledText) : List StyledText :=
  t.lines.flatMap fun line =>
    let line := line.expandTabs
    let parts := line.cutAll ((Terminal.rows overflow cells line.plain).map List.length)
    parts.map fun row => (row.dropOverhang cells).fill overflow cells

end StyledText

end DenoBridge.Terminal
