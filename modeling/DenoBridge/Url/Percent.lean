import DenoBridge.Text.Utf8

/-! # Percent encoding

    A character that may not stand in a part of a URL is written as the bytes
    of its UTF-8 encoding, each as a percent sign and two upper-case
    hexadecimal digits.  A percent sign itself may stand, so that what is
    encoded already stays as it is.
-/

namespace DenoBridge.Url

/-- The upper-case hexadecimal digit of a number below 16. -/
def upperHexDigit (n : Nat) : Char :=
  (Nat.digitChar n).toUpper

/-- A byte as a percent sign and two digits. -/
def percentByte (byte : UInt8) : List Char :=
  ['%', upperHexDigit (byte.toNat / 16), upperHexDigit (byte.toNat % 16)]

/-- Is this an ASCII letter, an ASCII digit or one of the given marks? -/
def isPlain (marks : List Char) (c : Char) : Bool :=
  c.isAlphanum || marks.contains c

/-- The marks that may stand in a path. -/
def pathMarks : List Char :=
  "!$%&'()*+,-./:;=@[\\]^_|~".toList

/-- The marks that may stand in a query. -/
def queryMarks : List Char :=
  "!$%&()*+,-./:;=?@[\\]^_\x60\x7b|\x7d~".toList

/-- One character, encoded unless it may stand. -/
def percentChar (marks : List Char) (c : Char) : List Char :=
  if isPlain marks c then [c] else (String.utf8EncodeChar c).flatMap percentByte

/-- A text in which all characters are encoded that may not stand. -/
def percentEncode (marks text : List Char) : List Char :=
  text.flatMap (percentChar marks)

end DenoBridge.Url
