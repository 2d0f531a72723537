import DenoBridge.Literal.Token

/-! # Quotations

    A quotation holds characters or bytes.  A backslash begins an escape, and
    one that gives a code needs all digits of it.  Quotations that stand side
    by side are one, so all of them hold the same.
-/

namespace DenoBridge.Literal

/-! ## Section 1: Faults -/

/-- Why an escape has no meaning. -/
inductive EscapeFault where
  /-- Digits are missing behind this letter, which needs so many. -/
  | truncated (letter : Char) (digits : Nat)
  | beyondUnicode
  | malformedName
  deriving Repr, DecidableEq

/-- The wording of an escape's fault. -/
def EscapeFault.message : EscapeFault → String
  | truncated letter digits =>
    let places := String.ofList (List.replicate digits 'X')
    s!"truncated \\{letter}{places} escape"
  | beyondUnicode => "illegal Unicode character"
  | malformedName => "malformed \\N character escape"

/-- Why quotations have no meaning. -/
inductive QuotationFault where
  /-- Bytes are written with characters that are none. -/
  | noBytes
  /-- The escape in these places of the text has no meaning. -/
  | badEscape (first last : Nat) (fault : EscapeFault)
  /-- The escape at this place of bytes is truncated. -/
  | badByte (place : Nat)
  /-- Characters and bytes stand side by side. -/
  | mixed
  deriving Repr, DecidableEq

/-- The wording of a fault. -/
def QuotationFault.message : QuotationFault → String
  | noBytes => "bytes can only contain ASCII literal characters"
  | badEscape first last fault =>
    s!"(unicode error) 'unicodeescape' codec can't decode bytes in position {first}-{last}: " ++
      fault.message
  | badByte place => s!"(value error) invalid \\x escape at position {place}"
  | mixed => "cannot mix bytes and nonbytes literals"

/-! ## Section 2: Escapes -/

/-- The places that a character takes among escapes: one beyond ASCII counts as
    its code in eight digits. -/
def placesOf (c : Char) : Nat :=
  if c.toNat < 128 then 1 else 10

/-- The number of hexadecimal digits that the escape with a letter needs. -/
def digitsNeeded? : Char → Option Nat
  | 'x' => some 2
  | 'u' => some 4
  | 'U' => some 8
  | _ => none

/-- The number that hexadecimal digits write. -/
def hexValue (digits : List Char) : Nat :=
  digits.foldl (fun n c => 16 * n + (Digits.hexDigit? c).getD 0) 0

/-- What is wrong with the escape that a letter and the text after it make,
    and how many characters of that text belong to it. -/
def escapeFault? (letter : Char) (rest : List Char) : Option (EscapeFault × Nat) :=
  match digitsNeeded? letter with
  | some needed =>
    let digits := (rest.take needed).takeWhile fun c => (Digits.hexDigit? c).isSome
    if digits.length < needed then some (.truncated letter needed, digits.length)
    else if 0x10ffff < hexValue digits then some (.beyondUnicode, needed)
    else none
  | none =>
    if letter = 'N' then
      match rest with
      | '\x7b' :: after =>
        let name := after.takeWhile (· != '\x7d')
        if name.length = after.length then some (.malformedName, name.length + 1)
        else if name.isEmpty then some (.malformedName, 1)
        else none
      | _ => some (.malformedName, 0)
    else none

/-- The first fault of the characters from a place on. -/
def textFault? (place : Nat) : List Char → Option QuotationFault
  | [] => none
  | '\\' :: c :: rest =>
    match escapeFault? c rest with
    | some (fault, length) => some (.badEscape place (place + 1 + length) fault)
    | none => textFault? (place + (if c.toNat < 128 then 2 else 16)) rest
  | c :: rest => textFault? (place + placesOf c) rest

/-- The first fault of the bytes from a place on. -/
def bytesFault? (place : Nat) : List Char → Option QuotationFault
  | [] => none
  | '\\' :: c :: rest =>
    let digits := (rest.take 2).filter fun d => (Digits.hexDigit? d).isSome
    if c = 'x' && digits.length < 2 then some (.badByte place)
    else bytesFault? (place + 2) rest
  | _ :: rest => bytesFault? (place + 1) rest

/-! ## Section 3: Quotations -/

/-- A quotation taken apart. -/
structure Quotation where
  marker : List Char
  /-- What stands between its marks. -/
  body : List Char
  deriving Repr, DecidableEq

/-- The quotation that a token writes. -/
def Quotation.ofText (text : List Char) : Quotation :=
  let marker := (markerOf? text).getD []
  let quoted := text.drop marker.length
  let mark := quoted.take 1
  let count := if (mark ++ mark ++ mark).isPrefixOf quoted && 6 ≤ quoted.length then 3 else 1
  ⟨marker.map Char.toLower, (quoted.drop count).take (quoted.length - 2 * count)⟩

/-- Does the quotation hold bytes? -/
def Quotation.isBytes (q : Quotation) : Bool :=
  q.marker.contains 'b'

/-- Do braces in the quotation enclose expressions? -/
def Quotation.isTemplate (q : Quotation) : Bool :=
  q.marker.contains 'f'

/-- What is wrong with a quotation by itself. -/
def Quotation.fault? (q : Quotation) : Option QuotationFault :=
  if q.isBytes && q.body.any (128 ≤ ·.toNat) then some .noBytes
  else if q.marker.contains 'r' then none
  else if q.isBytes then bytesFault? 0 q.body
  else textFault? 0 q.body

/-- The first fault of quotations that stand side by side. -/
def faultAmong? (before : Option Quotation) : List Quotation → Option QuotationFault
  | [] => none
  | q :: rest =>
    match q.fault? with
    | some fault => some fault
    | none =>
      if before.any (·.isBytes != q.isBytes) then some .mixed else faultAmong? (some q) rest

/-- The first fault of the quotations that tokens write. -/
def quotationsFault? (texts : List (List Char)) : Option QuotationFault :=
  faultAmong? none (texts.map Quotation.ofText)

end DenoBridge.Literal
