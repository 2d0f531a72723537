import DenoBridge.Text.LowerCase
import DenoBridge.Text.Split

/-! # Dot segments

    A segment of one dot stands for the place itself, one of two dots for the
    place above; a dot may also be written `%2e`.  Resolving removes both
    kinds, and where one was the last segment, the path ends in a slash.  The
    place above the top is the top.
-/

namespace DenoBridge.Url

/-- The spellings of one dot, in lower case. -/
def singleDots : List (List Char) :=
  [".".toList, "%2e".toList]

/-- The spellings of two dots, in lower case. -/
def doubleDots : List (List Char) :=
  ["..".toList, ".%2e".toList, "%2e.".toList, "%2e%2e".toList]

/-- Does the segment stand for the place itself? -/
def isSingleDot (segment : List Char) : Bool :=
  singleDots.contains (segment.map Text.asciiLower)

/-- Does the segment stand for the place above? -/
def isDoubleDot (segment : List Char) : Bool :=
  doubleDots.contains (segment.map Text.asciiLower)

/-- The segments kept so far (the last one first) after one more segment that
    is followed by others. -/
def keepInner (kept : List (List Char)) (segment : List Char) : List (List Char) :=
  if isDoubleDot segment then kept.tail
  else if isSingleDot segment then kept
  else segment :: kept

/-- The segments kept so far after the last segment. -/
def keepLast (kept : List (List Char)) (segment : List Char) : List (List Char) :=
  if isDoubleDot segment then [] :: kept.tail
  else if isSingleDot segment then [] :: kept
  else segment :: kept

/-- The segments that stay, after those kept so far. -/
def resolveAfter (kept : List (List Char)) : List (List Char) → List (List Char)
  | [] => kept.reverse
  | [segment] => (keepLast kept segment).reverse
  | segment :: next :: more => resolveAfter (keepInner kept segment) (next :: more)

/-- The path without dot segments.  What stands before its first slash is
    left out. -/
def resolveDots (path : List Char) : List Char :=
  '/' :: Text.joinPieces ['/'] (resolveAfter [] (Text.pieces '/' path).tail)

end DenoBridge.Url
