import DenoBridge.Text.Split

/-! # Lines of a text

    Two ways to end a line: the ten line ends of Unicode texts (with a
    carriage return and line feed in sequence counting as one), and the
    universal reading of a byte stream, which knows carriage returns and line
    feeds only and writes each end as a line feed.
-/

namespace DenoBridge.Text

/-- The characters that end a line. -/
def isLineEnd (c : Char) : Bool :=
  ['\n', '\x0b', '\x0c', '\r', '\x1c', '\x1d', '\x1e', '\x85', '\u2028', '\u2029'].contains c

/-- The lines after `line`, the characters of the present line, the last one
    first. -/
def linesAfter (line : List Char) : List Char → List (List Char)
  | [] => if line.isEmpty then [] else [line.reverse]
  | '\r' :: '\n' :: rest => line.reverse :: linesAfter [] rest
  | c :: rest =>
    if isLineEnd c then line.reverse :: linesAfter [] rest else linesAfter (c :: line) rest

/-- The lines of a text without their ends.  An end at the very end of the
    text opens no further line. -/
def lines (text : List Char) : List (List Char) :=
  linesAfter [] text

/-- Every line end written as a line feed. -/
def unifyLineEnds : List Char → List Char
  | [] => []
  | '\r' :: '\n' :: rest => '\n' :: unifyLineEnds rest
  | '\r' :: rest => '\n' :: unifyLineEnds rest
  | c :: rest => c :: unifyLineEnds rest

end DenoBridge.Text
