import DenoBridge.Number.Digits
import DenoBridge.Text.Lines
import DenoBridge.Text.NameChar
import DenoBridge.Text.Printable

/-! # Tokens of literals

    A text that writes values is made of names, numbers, quotations and marks.
    A mark is an operator, a bracket or one of the words that are no names.
    Line ends count outside brackets only.  What cannot be taken apart any
    further ends the tokens with a fault.
-/

namespace DenoBridge.Literal

/-! ## Section 1: Tokens -/

/-- The kinds of tokens. -/
inductive TokenKind where
  | name
  | number
  | quotation
  | mark
  | lineEnd
  /-- Blanks at the start of a line that is not the first one. -/
  | indent
  | textEnd
  deriving Repr, DecidableEq

/-- A token. -/
structure Token where
  kind : TokenKind
  text : List Char
  /-- How many brackets are open after it. -/
  level : Nat
  /-- The line that it begins in. -/
  line : Nat
  /-- Did the text turn out to end behind it? -/
  isFinal : Bool
  deriving Repr, DecidableEq

/-- An open bracket, with the line it stands in. -/
structure Bracket where
  mark : Char
  line : Nat
  deriving Repr, DecidableEq

/-- Why a text is not taken apart any further. -/
inductive TokenFault where
  /-- A number of this kind is not complete, or runs into a name. -/
  | badNumber (kind : String)
  /-- A digit is too great for a number of this kind. -/
  | badDigit (kind : String) (digit : Char)
  | leadingZero
  | tooManyDigits (e : Digits.TooMany)
  /-- A quotation does not end before the end of this line. -/
  | openQuotation (triple : Bool) (line : Nat)
  | badCharacter (c : Char)
  | tooDeep
  /-- A bracket is closed that was not opened. -/
  | unmatched (mark : Char)
  /-- A bracket is closed by one of another kind in this line. -/
  | mismatched (mark : Char) (opening : Bracket) (line : Nat)
  /-- A backslash stands before something else than a line end, inside the
      given bracket or outside of all. -/
  | afterBackslash (opening : Option Bracket)
  /-- The text ends inside a bracket. -/
  | neverClosed (opening : Bracket)
  /-- The text ends after a backslash. -/
  | unexpectedEnd
  deriving Repr, DecidableEq

namespace TokenFault

/-- The code of a character in at least four hexadecimal digits. -/
def codeOf (c : Char) : String :=
  let digits := (Nat.toDigits 16 c.toNat).map Char.toUpper
  String.ofList (List.replicate (4 - digits.length) '0' ++ digits)

/-- The wording of a fault. -/
def message : TokenFault → String
  | badNumber kind => s!"invalid {kind} literal"
  | badDigit kind digit => s!"invalid digit '{digit}' in {kind} literal"
  | leadingZero =>
    "leading zeros in decimal integer literals are not permitted; " ++
      "use an 0o prefix for octal integers"
  | tooManyDigits e =>
    e.message ++ " - Consider hexadecimal for huge integer literals " ++
      "to avoid decimal conversion limits."
  | openQuotation true line =>
    s!"unterminated triple-quoted string literal (detected at line {line})"
  | openQuotation false line => s!"unterminated string literal (detected at line {line})"
  | badCharacter c =>
    if Text.isPrintable c then s!"invalid character '{c}' (U+{codeOf c})"
    else s!"invalid non-printable character U+{codeOf c}"
  | tooDeep => "too many nested parentheses"
  | unmatched mark => s!"unmatched '{mark}'"
  | mismatched mark opening line =>
    s!"closing parenthesis '{mark}' does not match opening parenthesis '{opening.mark}'" ++
      if opening.line = line then "" else s!" on line {opening.line}"
  | afterBackslash _ => "unexpected character after line continuation character"
  | neverClosed opening => s!"'{opening.mark}' was never closed"
  | unexpectedEnd => "unexpected EOF while parsing"

/-- What is told of the fault if the text was already found to be wrong in a
    line: about an open bracket only if it was opened before that line, and of
    most other faults everything. -/
def reportAfter? (line : Nat) : TokenFault → Option String
  | neverClosed opening | afterBackslash (some opening) =>
    if opening.line < line then some (neverClosed opening).message else none
  | afterBackslash none | unexpectedEnd => none
  | fault => some fault.message

end TokenFault

/-! ## Section 2: Numbers -/

/-- Does a name run on with the character?  Beyond ASCII every character
    counts here. -/
def runsOn (c : Char) : Bool :=
  c.isAlphanum || c == '_' || 128 ≤ c.toNat

/-- The words that may follow a number without a blank, if they end there. -/
def wordsAfterNumber : List String :=
  ["and", "else", "for", "not", "or"]

/-- The words that may follow a number without a blank, even as the beginning
    of a longer one. -/
def beginningsAfterNumber : List String :=
  ["if", "in", "is"]

/-- Is the text one that may follow a number without a blank? -/
def mayFollowNumber (text : List Char) : Bool :=
  beginningsAfterNumber.any (·.toList.isPrefixOf text) ||
    wordsAfterNumber.contains (String.ofList (text.takeWhile runsOn))

/-- What follows a number of a kind, which must not run into a name.  One that
    begins beyond ASCII is told from it. -/
def endNumber (kind : String) (rest : List Char) : Except TokenFault (List Char) :=
  if rest.head?.any (fun c => runsOn c && c.toNat < 128) && !mayFollowNumber rest then
    .error (.badNumber kind)
  else .ok rest

/-- What follows decimal digits, between which single low lines may stand. -/
def afterDigits : List Char → Except TokenFault (List Char)
  | [] => .ok []
  | c :: rest =>
    if c.isDigit then afterDigits rest
    else if c = '_' then
      if rest.head?.any Char.isDigit then afterDigits rest else .error (.badNumber "decimal")
    else .ok (c :: rest)

/-- What follows digits of a class, in groups that begin with a low line or
    not. -/
def afterGroups (kind : String) (holds : Char → Bool) (started : Bool) :
    List Char → Except TokenFault (List Char)
  | [] => if started then .ok [] else .error (.badNumber kind)
  | c :: rest =>
    if holds c then afterGroups kind holds true rest
    else if c.isDigit then .error (.badDigit kind c)
    else if c = '_' then
      match rest with
      | d :: _ => if d = '_' then .error (.badNumber kind) else afterGroups kind holds false rest
      | [] => .error (.badNumber kind)
    else if started then .ok (c :: rest)
    else .error (.badNumber kind)

/-- What follows a number with a base other than ten. -/
def afterBase (kind : String) (holds : Char → Bool) (rest : List Char) :
    Except TokenFault (List Char) := do
  endNumber kind (← afterGroups kind holds false rest)

/-- What follows the mark of an imaginary number, or a number without one. -/
def afterImaginary (rest : List Char) : Except TokenFault (List Char) :=
  match rest with
  | c :: after =>
    if c = 'j' || c = 'J' then endNumber "imaginary" after else endNumber "decimal" rest
  | [] => .ok []

/-- What follows an exponent and what may stand behind it. -/
def afterExponent (rest : List Char) : Except TokenFault (List Char) :=
  match rest with
  | e :: after =>
    if e = 'e' || e = 'E' then
      let signed := after.head?.any fun c => c == '+' || c == '-'
      let digits := if signed then after.drop 1 else after
      if digits.head?.any Char.isDigit then afterDigits digits >>= afterImaginary
      else if signed then .error (.badNumber "decimal")
      else endNumber "decimal" rest
    else afterImaginary rest
  | [] => .ok []

/-- What follows the digits behind a point, and the exponent. -/
def afterFraction (rest : List Char) : Except TokenFault (List Char) :=
  if rest.head?.any Char.isDigit then afterDigits rest >>= afterExponent else afterExponent rest

/-- What follows a number whose whole part was read. -/
def afterWhole (rest : List Char) : Except TokenFault (List Char) :=
  match rest with
  | '.' :: after => afterFraction after
  | _ => afterExponent rest

/-- Does the rest make a number more than a whole one? -/
def isFractional (rest : List Char) : Bool :=
  rest.head?.any fun c => ['.', 'e', 'E', 'j', 'J'].contains c

/-- What follows a decimal number. -/
def afterDecimal (text : List Char) : Except TokenFault (List Char) := do
  let rest ← afterDigits text
  let digits := (text.take (text.length - rest.length)).filter Char.isDigit
  let isWhole := !isFractional rest
  if isWhole && digits.head? = some '0' && digits.any (· != '0') then throw .leadingZero
  let after ← afterWhole rest
  if isWhole && Digits.digitLimit < digits.length then throw (.tooManyDigits ⟨digits.length⟩)
  return after

/-- What follows the number that a text begins with. -/
def afterNumber (text : List Char) : Except TokenFault (List Char) :=
  match text with
  | '0' :: c :: rest =>
    if c = 'x' || c = 'X' then
      afterBase "hexadecimal" (fun c => (Digits.hexDigit? c).isSome) rest
    else if c = 'o' || c = 'O' then afterBase "octal" (fun c => '0' ≤ c && c ≤ '7') rest
    else if c = 'b' || c = 'B' then afterBase "binary" (fun c => c == '0' || c == '1') rest
    else afterDecimal text
  | '.' :: rest => afterFraction rest
  | _ => afterDecimal text

/-! ## Section 3: Quotations -/

/-- The characters that can stand before a quotation. -/
def isQuotationMarker (marker : List Char) : Bool :=
  ["", "b", "u", "r", "f", "br", "rb", "fr", "rf"].contains
    (String.ofList (marker.map Char.toLower))

/-- The marker that the text begins with, if a quotation follows it. -/
def markerOf? (text : List Char) : Option (List Char) :=
  let marker := text.takeWhile Char.isAlpha
  let opening := text[marker.length]?
  if isQuotationMarker marker && (opening = some '\'' || opening = some '"') then some marker
  else none

/-- What follows a quotation that ends with `count` marks, of which `found`
    were just read, and the line it ends in. -/
def afterQuotation (mark : Char) (count : Nat) (found line : Nat) :
    List Char → Except Nat (List Char × Nat)
  | [] => .error line
  | c :: rest =>
    if c = '\n' && count = 1 then .error line
    else if c = mark then
      if found + 1 = count then .ok (rest, line)
      else afterQuotation mark count (found + 1) line rest
    else if c = '\\' then
      match rest with
      | [] => .error line
      | d :: after => afterQuotation mark count 0 (if d = '\n' then line + 1 else line) after
    else afterQuotation mark count 0 (if c = '\n' then line + 1 else line) rest

/-- What follows a quotation that begins in a line, and the line it ends in.
    The text begins with its first mark. -/
def endQuotation (line : Nat) (text : List Char) : Except TokenFault (List Char × Nat) :=
  match text with
  | [] => .error (.openQuotation false line)
  | mark :: rest =>
    if [mark, mark].isPrefixOf rest then
      match afterQuotation mark 3 0 line (rest.drop 2) with
      | .ok found => .ok found
      | .error line => .error (.openQuotation true line)
    else
      match afterQuotation mark 1 0 line rest with
      | .ok found => .ok found
      | .error line => .error (.openQuotation false line)

/-! ## Section 4: Marks -/

/-- The words that are no names. -/
def reservedWords : List String :=
  ["False", "None", "True", "and", "as", "assert", "async", "await", "break", "class", "continue",
    "def", "del", "elif", "else", "except", "finally", "for", "from", "global", "if", "import",
    "in", "is", "lambda", "nonlocal", "not", "or", "pass", "raise", "return", "try", "while",
    "with", "yield"]

/-- The operators of three characters. -/
def longestOperators : List (List Char) :=
  ["**=", "//=", ">>=", "<<=", "..."].map String.toList

/-- The operators of two characters. -/
def longOperators : List (List Char) :=
  ["==", "!=", "<=", ">=", "->", "+=", "-=", "*=", "/=", "%=", "&=", "|=", "^=", "@=", "**", "//",
    "<<", ">>", ":=", "<>"].map String.toList

/-- The operator that the text begins with; every single character is one. -/
def operatorOf (text : List Char) : List Char :=
  ((longestOperators ++ longOperators).find? (·.isPrefixOf text)).getD (text.take 1)

/-- The bracket that closes another one. -/
def closingOf? : Char → Option Char
  | '(' => some ')'
  | '[' => some ']'
  | '\x7b' => some '\x7d'
  | _ => none

/-- The greatest number of brackets that can be open. -/
def bracketLimit : Nat := 200

/-- The open brackets, the innermost one first, after a mark in a line. -/
def afterMark (line : Nat) (mark : List Char) (opened : List Bracket) :
    Except TokenFault (List Bracket) :=
  match mark with
  | [c] =>
    if (closingOf? c).isSome then
      if bracketLimit ≤ opened.length then .error .tooDeep else .ok (⟨c, line⟩ :: opened)
    else if c = ')' || c = ']' || c = '\x7d' then
      match opened with
      | [] => .error (.unmatched c)
      | innermost :: others =>
        if closingOf? innermost.mark = some c then .ok others
        else .error (.mismatched c innermost line)
    else .ok opened
  | _ => .ok opened

/-! ## Section 5: Texts -/

/-- The tokens of a text, and the fault that ended them.  Without a fault the
    last one is the end of the text. -/
structure Tokens where
  list : List Token
  fault : Option TokenFault
  deriving Repr, DecidableEq

/-- Where the taking apart stands. -/
structure Place where
  line : Nat
  /-- The brackets that are open, the innermost one first. -/
  opened : List Bracket
  /-- Did a token stand in this line? -/
  filled : Bool

/-- A token before others. -/
def Tokens.after (token : Token) (tokens : Tokens) : Tokens :=
  { tokens with list := token :: tokens.list }

/-- The place behind a line end. -/
def Place.nextLine (place : Place) : Place :=
  ⟨place.line + 1, place.opened, !place.opened.isEmpty && place.filled⟩

/-- A token at a place.  The text turns out to end behind it when it does and
    more characters could have made it longer. -/
def Place.token (place : Place) (kind : TokenKind) (text after : List Char) : Token :=
  let isComplete := kind == .quotation || (kind == .mark && longestOperators.contains text)
  ⟨kind, text, place.opened.length, place.line, after.isEmpty && !isComplete⟩

/-- Is the character a blank inside a line? -/
def isSpace (c : Char) : Bool :=
  c == ' ' || c == '\t' || c == '\x0c'

/-- Does a line begin with blanks and hold something else than a comment?  A
    form feed takes back the blanks before it. -/
def isIndented (line : List Char) : Bool :=
  let blanks := line.takeWhile isSpace
  blanks.getLast?.any (· != '\x0c') &&
    (line.drop blanks.length).head?.any fun c => c != '\n' && c != '#'

/-- The end of the text. -/
def endText (place : Place) : Tokens :=
  match place.opened with
  | innermost :: _ => ⟨[], some (.neverClosed innermost)⟩
  | [] =>
    let stop := place.token .textEnd [] []
    ⟨if place.filled then [place.token .lineEnd ['\n'] [], stop] else [stop], none⟩

/-- A word: a name, or one of the reserved words.  Its characters beyond ASCII
    have to be those of a name. -/
def wordToken (place : Place) (word after : List Char) : Except TokenFault Token :=
  match word with
  | [] => .ok (place.token .name [] after)
  | first :: others =>
    match (if Text.startsName first then none else some first).or
        (others.find? (!Text.isNameChar ·)) with
    | some c => .error (.badCharacter c)
    | none =>
      let kind := if reservedWords.contains (String.ofList word) then .mark else .name
      .ok (place.token kind word after)

/-- One token that the text begins with, the place behind it, and what
    follows it.  The text does not begin with a blank or a line end. -/
def nextToken (place : Place) (text : List Char) :
    Except TokenFault (Token × Place × List Char) := do
  let filled := { place with filled := true }
  match text with
  | [] => return (place.token .textEnd [] [], place, [])
  | c :: rest =>
    match markerOf? text with
    | some marker => do
      let (after, line) ← endQuotation place.line (text.drop marker.length)
      let token := place.token .quotation (text.take (text.length - after.length)) after
      return (token, { filled with line := line }, after)
    | none =>
      if c.isDigit || (c = '.' && rest.head?.any Char.isDigit) then do
        let after ← afterNumber text
        return (place.token .number (text.take (text.length - after.length)) after, filled, after)
      else if runsOn c then do
        let word := text.takeWhile runsOn
        let after := text.drop word.length
        return (← wordToken place word after, filled, after)
      else if !Text.isPrintable c then throw (.badCharacter c)
      else do
        let operator := operatorOf text
        let place := { filled with opened := ← afterMark place.line operator place.opened }
        let after := text.drop operator.length
        return (place.token .mark operator after, place, after)

/-- The tokens of the text at a place. -/
def tokensAt : Nat → Place → List Char → Tokens
  | 0, place, _ => endText place
  | _ + 1, place, [] => endText place
  | fuel + 1, place, c :: rest =>
    if isSpace c then tokensAt fuel place rest
    else if c = '#' then tokensAt fuel place (rest.dropWhile (· != '\n'))
    else if c = '\n' then
      let after := tokensAt fuel place.nextLine rest
      if place.opened.isEmpty then
        let stop := if place.filled then [place.token .lineEnd ['\n'] rest] else []
        let indent := if isIndented rest then [place.nextLine.token .indent [] rest] else []
        ⟨stop ++ indent ++ after.list, after.fault⟩
      else after
    else if c = '\\' then
      match rest with
      | ['\n'] =>
        ⟨[], some (match place.opened with
          | innermost :: _ => .neverClosed innermost
          | [] => .unexpectedEnd)⟩
      | '\n' :: after => tokensAt fuel { place with line := place.line + 1 } after
      | _ => ⟨[], some (.afterBackslash place.opened.head?)⟩
    else
      match nextToken place (c :: rest) with
      | .error fault => ⟨[], some fault⟩
      | .ok (token, place, after) => (tokensAt fuel place after).after token

/-- The tokens of a text. -/
def tokens (text : List Char) : Tokens :=
  tokensAt (text.length + 1) ⟨1, [], false⟩ (Text.unifyLineEnds text)

end DenoBridge.Literal
