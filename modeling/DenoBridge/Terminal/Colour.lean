import DenoBridge.Number.Numeral
import DenoBridge.Number.Rounding
import DenoBridge.Terminal.ColourNames
import DenoBridge.Text.Blank
import DenoBridge.Text.LowerCase

/-! # Colours of a terminal

    A colour is the terminal's own, one of its palette, or a mixture of red,
    green and blue.  A terminal that shows fewer colours is given the nearest
    one that it has.
-/

namespace DenoBridge.Terminal

/-! ## Section 1: Colours -/

/-- What a colour is. -/
inductive Hue where
  /-- The colour that the terminal uses when none is asked for. -/
  | usual
  /-- A place in the palette. -/
  | indexed (place : Nat)
  /-- A mixture, each part at most 255. -/
  | mixed (red green blue : Nat)
  deriving Repr, DecidableEq

/-- A colour, with the name that it was given. -/
structure Colour where
  name : String
  hue : Hue
  deriving Repr, DecidableEq

/-- How many colours a terminal shows. -/
inductive Depth where
  | standard
  | palette
  | full
  deriving Repr, DecidableEq

/-! ## Section 2: Reading a name -/

/-- What stands between an opening text and a closing bracket. -/
def enclosed? (opening : String) (text : List Char) : Option (List Char) :=
  if opening.toList.isPrefixOf text ∧ text.getLast? = some ')' then
    some ((text.drop opening.length).dropLast)
  else none

/-- The mixture whose parts stand between commas. -/
def readMixture (text : List Char) : Except Numeral.Fault (Option Hue) :=
  if text.isEmpty || !text.all (fun c => Text.isDecimal c || c == ',') then .ok none
  else
    match Text.pieces ',' text with
    | [red, green, blue] => do
      let red ← Numeral.read red
      let green ← Numeral.read green
      let blue ← Numeral.read blue
      return if red ≤ 255 ∧ green ≤ 255 ∧ blue ≤ 255 then some (.mixed red green blue) else none
    | _ => .ok none

/-- The mixture that six hexadecimal digits write. -/
def readHex (digits : List Char) : Option Hue :=
  match digits.mapM Digits.hexDigit? with
  | some [a, b, c, d, e, f] => some (.mixed (16 * a + b) (16 * c + d) (16 * e + f))
  | _ => none

/-- The place in the palette that up to three digits write. -/
def readPlace (digits : List Char) : Option Hue :=
  if digits.isEmpty || digits.length > 3 || !digits.all Char.isDigit then none
  else if Digits.value digits ≤ 255 then some (.indexed (Digits.value digits))
  else none

/-- The hue that a name in lower case means, if it means any. -/
def readHue (name : List Char) : Except Numeral.Fault (Option Hue) :=
  if name = "default".toList then .ok (some .usual)
  else
    match colourNames.lookup (String.ofList name) with
    | some place => .ok (some (.indexed place))
    | none =>
      match name with
      | '#' :: digits => .ok (readHex digits)
      | _ =>
        match enclosed? "color(" name, enclosed? "rgb(" name with
        | some digits, _ => .ok (readPlace digits)
        | none, some parts => readMixture parts
        | none, none => .ok none

/-- The colour that a word means, if it means any.  Its case does not
    count. -/
def Colour.read (word : List Char) : Except Numeral.Fault (Option Colour) := do
  let name := Text.trim (Text.lower word)
  return (← readHue name).map fun hue => ⟨String.ofList name, hue⟩

/-! ## Section 3: Fewer colours -/

/-- The place in the palette of the nearest colour to a mixture: a grey when
    the mixture has little colour, else one of the six by six by six mixtures
    of the palette. -/
def nearestPlace (red green blue : Nat) : Nat :=
  let high := max red (max green blue)
  let low := min red (min green blue)
  let span := if high + low ≤ 255 then high + low else 510 - (high + low)
  if high = low ∨ 100 * (high - low) < 15 * span then
    match roundQuotient (25 * (high + low)) 510 with
    | 0 => 16
    | 25 => 231
    | grey => 231 + grey
  else
    let level := fun (part : Nat) =>
      if part < 95 then roundQuotient part 95 else roundQuotient (part - 55) 40
    16 + 36 * level red + 6 * level green + level blue

/-- The sixteen standard colours as mixtures. -/
def standardMixtures : List (Nat × Nat × Nat) :=
  [(0, 0, 0), (170, 0, 0), (0, 170, 0), (170, 85, 0), (0, 0, 170), (170, 0, 170), (0, 170, 170),
    (170, 170, 170), (85, 85, 85), (255, 85, 85), (85, 255, 85), (255, 255, 85), (85, 85, 255),
    (255, 85, 255), (85, 255, 255), (255, 255, 255)]

/-- The mixture at a place of the palette beyond the standard colours. -/
def mixtureAt (place : Nat) : Nat × Nat × Nat :=
  if 232 ≤ place then
    let grey := 8 + 10 * (place - 232)
    (grey, grey, grey)
  else
    let level := fun (n : Nat) => if n = 0 then 0 else 55 + 40 * n
    let n := place - 16
    (level (n / 36), level (n / 6 % 6), level (n % 6))

/-- How far two mixtures are apart, squared and weighted as eyes see them. -/
def distance (a b : Nat × Nat × Nat) : Nat :=
  let apart := fun (x y : Nat) => (max x y - min x y) * (max x y - min x y)
  let mean := (a.1 + b.1) / 2
  (512 + mean) * apart a.1 b.1 / 256 + 4 * apart a.2.1 b.2.1 +
    (767 - mean) * apart a.2.2 b.2.2 / 256

/-- The nearest standard colour to a mixture, the first one of several. -/
def nearestStandard (mixture : Nat × Nat × Nat) : Nat :=
  let distances := standardMixtures.map (distance mixture)
  distances.idxOf (distances.foldl min (distances.headD 0))

/-- The hue that a terminal with fewer colours shows. -/
def Hue.reduce (hue : Hue) : Depth → Hue
  | .full => hue
  | .palette =>
    match hue with
    | .mixed red green blue => .indexed (nearestPlace red green blue)
    | other => other
  | .standard =>
    match hue with
    | .mixed red green blue => .indexed (nearestStandard (red, green, blue))
    | .indexed place => if place < 16 then hue else .indexed (nearestStandard (mixtureAt place))
    | .usual => hue

/-! ## Section 4: Codes -/

/-- The numbers that select a hue for the characters, or for what is behind
    them. -/
def Hue.codes (hue : Hue) (behind : Bool) : List Nat :=
  let base := if behind then 10 else 0
  match hue with
  | .usual => [base + 39]
  | .indexed place =>
    if place < 8 then [base + 30 + place]
    else if place < 16 then [base + 82 + place]
    else [base + 38, 5, place]
  | .mixed red green blue => [base + 38, 2, red, green, blue]

end DenoBridge.Terminal
