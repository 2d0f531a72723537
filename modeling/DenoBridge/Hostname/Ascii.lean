import DenoBridge.Hostname.Classes
import DenoBridge.Hostname.Composition
import DenoBridge.Hostname.Folding
import DenoBridge.Hostname.Punycode
import DenoBridge.Text.Split

/-! # The ASCII form of a host name

    An international host name is written in ASCII label by label: a label
    beyond ASCII is prepared (folded, composed and checked) and, if it is
    still beyond ASCII, written in Punycode behind `xn--`.  A name with a
    label that cannot be prepared, is empty or is too long has no ASCII form.
-/

namespace DenoBridge.Hostname

/-! ## Section 1: Preparation -/

/-- May the directions of writing be mixed as they are in this label? -/
def directionsAgree (label : List Nat) : Bool :=
  if label.any isRightToLeft then
    !label.any isLeftToRight && (label.head?.any isRightToLeft && label.getLast?.any isRightToLeft)
  else true

/-- The prepared form of a label. -/
def prepare? (label : List Char) : Option (List Nat) :=
  let prepared := compose (orderMarks (label.flatMap fun c => fold c.toNat))
  if prepared.any isForbidden || !directionsAgree prepared then none else some prepared

/-! ## Section 2: Labels -/

/-- The marker of a label in Punycode. -/
def marker : List Char :=
  ['x', 'n', '-', '-']

/-- Is the code point an ASCII one? -/
def isAsciiCode (code : Nat) : Bool :=
  code < 0x80

/-- Is the text ASCII only? -/
def isAscii (text : List Char) : Bool :=
  text.all fun c => isAsciiCode c.toNat

/-- A label of a permitted length. -/
def fitting? (label : List Char) : Option (List Char) :=
  if 0 < label.length ∧ label.length < 64 then some label else none

/-- The ASCII form of a label. -/
def labelToAscii? (label : List Char) : Option (List Char) :=
  if isAscii label then fitting? label
  else do
    let prepared ← prepare? label
    if prepared.all isAsciiCode then fitting? (prepared.map Char.ofNat)
    else if marker.isPrefixOf (prepared.map Char.ofNat) then none
    else fitting? (marker ++ Punycode.encode prepared)

/-! ## Section 3: Names -/

/-- The characters that separate labels. -/
def isLabelDot (c : Char) : Bool :=
  c == '.' || c == '\u3002' || c == '\uff0e' || c == '\uff61'

/-- The labels of a name. -/
def labels (name : List Char) : List (List Char) :=
  Text.pieces '.' (name.map fun c => if isLabelDot c then '.' else c)

/-- The ASCII form of a name.  A dot at the end is kept. -/
def toAscii? (name : List Char) : Option (List Char) :=
  let parts := labels name
  let rooted := parts.getLast? == some []
  let parts := if rooted then parts.dropLast else parts
  (parts.mapM labelToAscii?).map fun encoded =>
    Text.joinPieces ['.'] encoded ++ if rooted then ['.'] else []

end DenoBridge.Hostname
