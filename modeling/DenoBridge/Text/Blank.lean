import DenoBridge.Text.Split

/-! # Blank characters and trimming

    The blank characters are Unicode's white space and the four ASCII
    information separators.  Trimming removes them from both ends.
-/

namespace DenoBridge.Text

/-- The blank characters, in order. -/
def blanks : List Char :=
  ['\t', '\n', '\x0b', '\x0c', '\r', '\x1c', '\x1d', '\x1e', '\x1f', ' ', '\x85', '\xa0', '\u1680',
    '\u2000', '\u2001', '\u2002', '\u2003', '\u2004', '\u2005', '\u2006', '\u2007', '\u2008',
    '\u2009', '\u200a', '\u2028', '\u2029', '\u202f', '\u205f', '\u3000']

/-- Is the character blank? -/
def isBlank (c : Char) : Bool :=
  blanks.contains c

/-- The text without blanks at its start. -/
def trimStart (text : List Char) : List Char :=
  text.dropWhile isBlank

/-- The text without blanks at its end. -/
def trimEnd (text : List Char) : List Char :=
  dropTail isBlank text

/-- The text without blanks at either end. -/
def trim (text : List Char) : List Char :=
  trimEnd (trimStart text)

end DenoBridge.Text
