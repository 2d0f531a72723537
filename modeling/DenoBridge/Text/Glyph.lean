/-! # Texts that may hold half a surrogate pair

    Escapes can name the two halves of a surrogate pair one by one.  Two
    halves that stand in the right order are one character; a half that
    stands alone stays what it is, and such a text is no string.  Where a
    string is needed all the same, each half has a character that stands in
    for it.
-/

namespace DenoBridge

/-- A character, or a lone half of a surrogate pair. -/
inductive Glyph where
  | char (c : Char)
  | half (code : Nat)
  deriving Repr, DecidableEq

namespace Glyph

/-- The first half of a pair. -/
def isHighHalf (code : Nat) : Bool :=
  0xD800 ≤ code && code ≤ 0xDBFF

/-- The second half of a pair. -/
def isLowHalf (code : Nat) : Bool :=
  0xDC00 ≤ code && code ≤ 0xDFFF

/-- The glyph with this code. -/
def ofCode (code : Nat) : Glyph :=
  if isHighHalf code || isLowHalf code then .half code else .char (Char.ofNat code)

/-- The character that two halves make. -/
def pair (high low : Nat) : Char :=
  Char.ofNat (0x10000 + (high - 0xD800) * 0x400 + (low - 0xDC00))

/-- The text in which the halves that belong together are joined. -/
def joinHalves : List Glyph → List Glyph
  | [] => []
  | .half high :: .half low :: rest =>
    if isHighHalf high && isLowHalf low then .char (pair high low) :: joinHalves rest
    else .half high :: joinHalves (.half low :: rest)
  | glyph :: rest => glyph :: joinHalves rest

/-- The text as characters, when no half is left in it. -/
def chars? : List Glyph → Option (List Char)
  | [] => some []
  | .char c :: rest => (chars? rest).map (c :: ·)
  | .half _ :: _ => none

/-- The text as a string, when no half is left in it. -/
def string? (text : List Glyph) : Option String :=
  (chars? text).map String.ofList

/-- The glyphs of a string. -/
def ofString (text : String) : List Glyph :=
  text.toList.map .char

theorem chars?_map_char (text : List Char) : chars? (text.map .char) = some text := by
  induction text with
  | nil => rfl
  | cons c rest ih => simp [chars?, ih]

theorem eq_map_of_chars? {glyphs : List Glyph} {text : List Char} (h : chars? glyphs = some text) :
    glyphs = text.map .char := by
  fun_induction chars? glyphs generalizing text with
  | case1 =>
    obtain rfl := Option.some.inj h
    rfl
  | case2 c rest ih =>
    obtain ⟨found, hfound, rfl⟩ := Option.map_eq_some_iff.1 h
    rw [ih hfound, List.map_cons]
  | case3 => cases h

/-- The glyphs that are a string are those of the string. -/
theorem string?_eq_some_iff {glyphs : List Glyph} {text : String} :
    string? glyphs = some text ↔ glyphs = ofString text := by
  constructor
  · intro h
    obtain ⟨chars, hchars, rfl⟩ := Option.map_eq_some_iff.1 h
    rw [eq_map_of_chars? hchars, ofString, String.toList_ofList]
  · rintro rfl
    rw [string?, ofString, chars?_map_char, Option.map_some, String.ofList_toList]

/-- Where there are no halves, none are joined. -/
theorem joinHalves_map_char (text : List Char) : joinHalves (text.map .char) = text.map .char := by
  induction text with
  | nil => rfl
  | cons c rest ih =>
    rw [List.map_cons, joinHalves, ih]
    intro _ _ _ habsurd
    cases habsurd

/-! ## Stand-ins -/

/-- The distance from a half to the character that stands in for it. -/
def standInDistance : Nat := 0x102000

/-- The character that stands in for a half.  The last 2048 characters that
    are set aside for private use have one for each. -/
def standIn (code : Nat) : Char :=
  Char.ofNat (code + standInDistance)

/-- Is it a character that stands in for a half? -/
def isStandIn (c : Char) : Bool :=
  0xD800 + standInDistance ≤ c.toNat

/-- The glyph as a character. -/
def toChar : Glyph → Char
  | char c => c
  | half code => standIn code

/-- The text as a string, with stand-ins for its halves. -/
def stringOf (text : List Glyph) : String :=
  String.ofList (text.map toChar)

/-- Is a half left in the text? -/
def holdsHalf (text : List Glyph) : Bool :=
  (string? text).isNone

@[simp]
theorem stringOf_ofString (text : String) : stringOf (ofString text) = text := by
  have hchars : (text.toList.map char).map toChar = text.toList := by
    rw [List.map_map]
    exact List.map_id _
  rw [stringOf, ofString, hchars, String.ofList_toList]

@[simp]
theorem holdsHalf_ofString (text : String) : holdsHalf (ofString text) = false := by
  rw [holdsHalf, string?_eq_some_iff.2 rfl]
  rfl

end Glyph

end DenoBridge
