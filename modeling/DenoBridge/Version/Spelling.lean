import DenoBridge.Number.Digits
import DenoBridge.Text.Blank
import DenoBridge.Text.LowerCase

/-! # How versions are written

    A version is written as an epoch and an exclamation mark (if it is not
    0), the release numbers with points between them, and then, each one
    optional, a pre-release, a post-release, a development release and a
    local label behind a plus sign.  Blanks around it, a leading `v` and the
    case of letters do not count.

    A spelling holds the parts as they are written; the numbers are not
    computed yet.
-/

namespace DenoBridge

/-- The stages of a pre-release, in order. -/
inductive Stage where
  | alpha
  | beta
  | candidate
  deriving Repr, DecidableEq

namespace Version

/-- The written parts of a version.  Numbers are lists of digits; a missing
    one is empty. -/
structure Spelling where
  epoch : List Char
  release : List (List Char)
  pre : Option (Stage × List Char)
  post : Option (List Char)
  dev : Option (List Char)
  label : List (List Char)
  deriving Repr, DecidableEq

/-! ## Section 1: Separators, words and digits -/

/-- Does the character separate the parts of a suffix? -/
def isSeparator (c : Char) : Bool :=
  c == '-' || c == '_' || c == '.'

/-- The text without a separator at its start. -/
def skipSeparator : List Char → List Char
  | [] => []
  | c :: rest => if isSeparator c then rest else c :: rest

/-- What follows the first of the words that the text begins with, and what
    the word stands for. -/
def readWord (words : List (List Char × α)) (text : List Char) : Option (α × List Char) :=
  (words.find? fun entry => entry.1.isPrefixOf text).map fun entry =>
    (entry.2, text.drop entry.1.length)

/-- A suffix: an optional separator, one of the words, an optional separator
    and optional digits. -/
def readSuffix (words : List (List Char × α)) (text : List Char) :
    Option ((α × List Char) × List Char) :=
  (readWord words (skipSeparator text)).map fun (meaning, rest) =>
    let (digits, rest) := Digits.span (skipSeparator rest)
    ((meaning, digits), rest)

/-- The words for the stages of a pre-release; where one begins another, the
    longer one comes first. -/
def stageWords : List (List Char × Stage) :=
  [("alpha".toList, .alpha), ("a".toList, .alpha), ("beta".toList, .beta), ("b".toList, .beta),
    ("preview".toList, .candidate), ("pre".toList, .candidate), ("c".toList, .candidate),
    ("rc".toList, .candidate)]

/-- The words for a post-release. -/
def postWords : List (List Char × Unit) :=
  [("post".toList, ()), ("rev".toList, ()), ("r".toList, ())]

/-- The word for a development release. -/
def devWords : List (List Char × Unit) :=
  [("dev".toList, ())]

/-! ## Section 2: Parts -/

/-- An epoch, when digits and an exclamation mark come first. -/
def readEpoch (text : List Char) : List Char × List Char :=
  match Digits.span text with
  | (digits, '!' :: rest) => if digits.isEmpty then ([], text) else (digits, rest)
  | _ => ([], text)

/-- Further release numbers, each behind a point. -/
def readRelease : List Char → List (List Char) × List Char
  | '.' :: rest =>
    if (Digits.span rest).1.isEmpty then ([], '.' :: rest)
    else
      let (more, after) := readRelease (Digits.span rest).2
      ((Digits.span rest).1 :: more, after)
  | text => ([], text)
termination_by text => text.length
decreasing_by
  have := Digits.length_span_le rest
  simp only [List.length_cons]
  omega

/-- A post-release: a hyphen and digits, or a word. -/
def readPost (text : List Char) : Option (List Char × List Char) :=
  let short :=
    match text with
    | '-' :: rest =>
      let (digits, after) := Digits.span rest
      if digits.isEmpty then none else some (digits, after)
    | _ => none
  match short with
  | some found => some found
  | none => (readSuffix postWords text).map fun ((_, digits), rest) => (digits, rest)

/-- A part that may be missing. -/
def optional (found : Option (α × List Char)) (text : List Char) : Option α × List Char :=
  match found with
  | some (part, rest) => (some part, rest)
  | none => (none, text)

/-- The parts of a local label: letters and digits between separators. -/
def readLabel (text : List Char) : Option (List (List Char)) :=
  let parts := Text.pieces '.' (text.map fun c => if isSeparator c then '.' else c)
  if parts.all fun part => !part.isEmpty && part.all Char.isAlphanum then some parts else none

/-- The label at the end of a version: nothing, or a plus sign and a label. -/
def readEnd : List Char → Option (List (List Char))
  | [] => some []
  | '+' :: rest => readLabel rest
  | _ => none

/-! ## Section 3: Versions -/

/-- The text without a leading `v`. -/
def skipV : List Char → List Char
  | 'v' :: rest => rest
  | text => text

/-- The parts of a version text. -/
def Spelling.parse (text : List Char) : Option Spelling :=
  let text := skipV ((Text.trim text).map Text.asciiLower)
  let (epoch, text) := readEpoch text
  let (first, text) := Digits.span text
  if first.isEmpty then none
  else
    let (more, text) := readRelease text
    let (pre, text) := optional (readSuffix stageWords text) text
    let (post, text) := optional (readPost text) text
    let (dev, text) := optional (readSuffix devWords text) text
    (readEnd text).map fun label =>
      { epoch := epoch, release := first :: more, pre := pre, post := post
        dev := dev.map (·.2), label := label }

end Version

end DenoBridge
