import DenoBridge.Terminal.StyledText
import DenoBridge.Terminal.Theme
import DenoBridge.Text.DigitChar
import DenoBridge.Text.Pattern

/-! # Highlights

    What stands out in a text that is shown on a terminal: tags, assignments,
    brackets, addresses, numbers, paths, quotations and URLs.  A highlight
    gives characters a style and changes none of them.
-/

namespace DenoBridge.Terminal

open Text Pattern

namespace Highlight

/-! ## Section 1: Characters -/

/-- A hexadecimal digit. -/
def hexDigit : Pattern := .one fun c => (Digits.hexDigit? c).isSome

/-- A digit from 0 to 9. -/
def digit : Pattern := .one Char.isDigit

/-- A character of a word. -/
def wordChar : Pattern := .one isWordChar

/-- One of the characters of a text. -/
def oneOf (text : String) : Pattern := .one text.toList.contains

/-- A character of a word, or one of the characters of a text. -/
def wordOr (text : String) : Pattern := .one fun c => isWordChar c || text.toList.contains c

/-! ## Section 2: Addresses -/

/-- Four numbers with points between them. -/
def ipv4 : Pattern :=
  let number := rounds 1 3 digit
  all [number, exactly ".", number, exactly ".", number, exactly ".", number]

/-- Groups of hexadecimal digits with one or two colons between them. -/
def ipv6 : Pattern :=
  let group := rounds 1 4 hexDigit
  .seq (rounds 1 7 (all [group, exactly ":", maybe (exactly ":")])) group

/-- So many parts, with a mark after each of them, and one part more. -/
def joined (count : Nat) (mark : String) (part : Pattern) : Pattern :=
  .seq (rounds count count (.seq part (exactly mark))) part

/-- The address of a device: twice `pairs` hexadecimal digits. -/
def device (pairs : Nat) : Pattern :=
  let pair := rounds 1 2 hexDigit
  any [joined (pairs - 1) "-" pair, joined (pairs - 1) ":" pair,
    joined (pairs / 2 - 1) "." (rounds 4 4 hexDigit)]

/-- A universally unique identifier. -/
def uuid : Pattern :=
  let group := fun (count : Nat) => rounds count count hexDigit
  all [group 8, exactly "-", group 4, exactly "-", group 4, exactly "-", group 4, exactly "-",
    group 12]

/-- The characters that a URL has behind its scheme. -/
def urlMarks : String := "-$_+!\x60(),.?/;:&=%#~@"

/-- A URL with one of a few schemes. -/
def url : Pattern :=
  all [any (["file", "https", "http", "ws", "wss"].map exactly), exactly "://",
    star (.one fun c => c.isAlphanum || urlMarks.toList.contains c)]

/-! ## Section 3: Values -/

/-- A name with a bracket behind it. -/
def call : Pattern :=
  .seq (.named "call" (.many false 0 none (wordOr "."))) (exactly "(")

/-- A word of its own. -/
def constant (name word : String) : Pattern :=
  all [.border true, .named name (exactly word), .border true]

/-- An exponent, of which only one digit counts unless more are asked for. -/
def exponent : Pattern :=
  all [exactly "e", maybe (oneOf "-+"), .many false 1 none (.one isDecimal)]

/-- Digits, perhaps with a point and an exponent. -/
def decimal : Pattern :=
  all [plus digit, maybe (exactly "."), star digit, maybe exponent]

/-- A complex number. -/
def complexNumber : Pattern :=
  let second := all [plus digit, maybe (exactly "."), star digit,
    maybe (all [exactly "e", maybe (oneOf "-+"), plus (.one isDecimal)])]
  all [.notAfter isWordChar, maybe (exactly "-"), decimal,
    maybe (.seq (oneOf "-+") second), exactly "j"]

/-- A number. -/
def number : Pattern :=
  .choice (all [.notAfter isWordChar, maybe (exactly "-"), decimal, .border true])
    (.seq (exactly "0x") (star hexDigit))

/-- A path: its directories, and the name of a file. -/
def path : Pattern :=
  let nameChar := wordOr "-._+"
  .seq (.named "path" (all [.border false, star (.seq (exactly "/") (plus nameChar)), exactly "/"]))
    (maybe (.named "filename" (star nameChar)))

/-- A quotation between marks; a backslash keeps a mark from ending it. -/
def quotation (mark : String) : Pattern :=
  all [maybe (exactly "b"), exactly mark, fewest, .notAfter (· == '\\'), exactly mark]

/-- A quotation, with three marks on either side or with one. -/
def quoted : Pattern :=
  .seq (.notAfter fun c => c == '\\' || isWordChar c)
    (.named "str" (any (["'''", "'", "\"\"\"", "\""].map quotation)))

/-! ## Section 4: All highlights -/

/-- A tag between angle brackets, which may hold anything. -/
def tag : Pattern :=
  all [.named "tag_start" (exactly "<"), .named "tag_name" (star (wordOr "-.:|")),
    .named "tag_contents" (star (.one fun _ => true)), .named "tag_end" (exactly ">")]

/-- A name with an equals sign behind it, and perhaps a value. -/
def assignment : Pattern :=
  let mark := maybe (exactly "\"")
  all [.named "attrib_name" (rounds 1 50 wordChar), exactly "=",
    maybe (.named "attrib_value" (all [mark, plus wordChar, mark]))]

/-- A bracket. -/
def bracket : Pattern := .named "brace" (oneOf "][\x7b\x7d()")

/-- All other things that stand out. -/
def value : Pattern :=
  any [.named "ipv4" ipv4, .named "ipv6" ipv6, .named "eui64" (device 8), .named "eui48" (device 6),
    .named "uuid" uuid, call, constant "bool_true" "True", constant "bool_false" "False",
    constant "none" "None", .named "ellipsis" (exactly "..."),
    .named "number_complex" complexNumber, .named "number" number, path, quoted,
    .named "url" url]

/-- The patterns, in the order in which they are laid over each other. -/
def patterns : List Pattern :=
  [tag, assignment, bracket, value]

/-- The span of a named part; an empty part has none. -/
def spanOf? (part : String × Nat × Nat) : Option StyledText.Span :=
  if part.2.1 = part.2.2 then none
  else (Theme.style? ("repr." ++ part.1)).map fun style => ⟨part.2.1, part.2.2, style⟩

/-- The spans of all that stands out in a text. -/
def spans (text : List Char) : List StyledText.Span :=
  patterns.flatMap fun pattern =>
    (pattern.matches text).flatMap fun found => found.names.reverse.filterMap spanOf?

/-- The words that stand out in a record. -/
def keywords : List String :=
  ["GET", "POST", "HEAD", "PUT", "DELETE", "OPTIONS", "TRACE", "PATCH"]

/-- The spans of the words that stand out in a record. -/
def keywordSpans (text : List Char) : List StyledText.Span :=
  ((Pattern.named "keyword" (any (keywords.map exactly))).matches text).flatMap fun found =>
    found.names.map fun part => ⟨part.2.1, part.2.2, Style.bold.under .yellow⟩

end Highlight

namespace StyledText

/-- The text over the highlights of its characters. -/
def highlighted (t : StyledText) : StyledText :=
  t.aboveSpans (Highlight.spans t.plain)

end StyledText

end DenoBridge.Terminal
