import DenoBridge.Shell.Arithmetic
import DenoBridge.Shell.Program

/-! # Words

    The text of a program is read character by character.  A word goes on to
    the next blank or operator outside of quotation marks and braces.  Inside
    it, a dollar sign begins something that is replaced when the program runs.
    A backslash at the end of a line joins it with the next one.
-/

namespace DenoBridge.Shell

/-! ## Section 1: Tokens -/

/-- A token. -/
inductive Token where
  | word (word : Word)
  | reserved (text : String)
  | operator (text : String)
  | redirect (stream : Nat) (direction : Direction)
  /-- A redirection to a document, from whose lines tabs are dropped or not. -/
  | document (stream : Nat) (dropsTabs : Bool)
  | textEnd

/-- What messages call a token. -/
def Token.text : Token → String
  | .word _ => "word"
  | .reserved text => "\"" ++ text ++ "\""
  | .operator "\n" => "newline"
  | .operator text => "\"" ++ text ++ "\""
  | .redirect _ _ | .document _ _ => "redirection"
  | .textEnd => "end of file"

/-- A document that was announced and is still to be read. -/
structure Announced where
  number : Nat
  /-- The line that ends it. -/
  mark : List Char
  dropsTabs : Bool
  /-- Are dollar signs replaced in it? -/
  expands : Bool

/-- Where the reading stands. -/
structure Cursor where
  rest : List Char
  line : Nat
  /-- A token that was read and put back. -/
  back : Option Token
  announced : List Announced
  documents : Documents

/-- The start of a text. -/
def Cursor.start (text : List Char) : Cursor :=
  ⟨text, 1, none, [], []⟩

/-- Reading, which ends with a fault where the text is wrong. -/
abbrev Read (α : Type) := StateT Cursor (Except Fault) α

/-- Ends the reading. -/
def refuse (message : String) : Read α := do
  throw ⟨(← get).line, "Syntax error: " ++ message⟩

/-- Ends the reading at a token. -/
def unexpected (token : Token) : Read α :=
  refuse (token.text ++ " unexpected")

/-- Ends the reading at a token where another one is expected. -/
def unexpectedFor (token : Token) (wanted : Token) : Read α :=
  refuse (token.text ++ " unexpected (expecting " ++ wanted.text ++ ")")

/-! ## Section 2: Characters -/

/-- A text without the joins of lines at its start, and how many there
    were. -/
def dropJoins : List Char → List Char × Nat
  | '\\' :: '\n' :: rest =>
    let (after, count) := dropJoins rest
    (after, count + 1)
  | rest => (rest, 0)

/-- The next character, behind joins of lines; it is not taken. -/
def peek : Read (Option Char) := do
  let c ← get
  let (rest, joins) := dropJoins c.rest
  set { c with rest := rest, line := c.line + joins }
  return rest.head?

/-- Takes the next character as it is. -/
def takeRaw : Read (Option Char) := do
  let c ← get
  match c.rest with
  | [] => return none
  | next :: rest =>
    set { c with rest := rest, line := if next = '\n' then c.line + 1 else c.line }
    return some next

/-- Takes the next character, behind joins of lines, where it counts for no line
    even if it ends one. -/
def takeUncounted : Read (Option Char) := do
  let found ← peek
  modify fun c => { c with rest := c.rest.drop 1 }
  return found

/-- Takes the next character behind joins of lines. -/
def takeNext : Read (Option Char) := do
  let _ ← peek
  takeRaw

/-- Takes the next character if it is this one. -/
def takeIf (wanted : Char) : Read Bool := do
  if (← peek) = some wanted then
    let _ ← takeRaw
    return true
  else return false

/-- Takes as many characters of a class as there are. -/
def takeAll (holds : Char → Bool) : Nat → Read (List Char)
  | 0 => return []
  | fuel + 1 => do
    match ← peek with
    | some c =>
      if holds c then
        let _ ← takeRaw
        return c :: (← takeAll holds fuel)
      else return []
    | none => return []

/-- A bound for the number of characters that are left. -/
def left : Read Nat := do
  return (← get).rest.length + 1

/-- Takes the text up to a character, and that character. -/
def takeUntil (stop : Char) (missing : String) : Nat → Read (List Char)
  | 0 => refuse missing
  | fuel + 1 => do
    match ← takeRaw with
    | none => refuse missing
    | some c => if c = stop then return [] else return c :: (← takeUntil stop missing fuel)

/-- Does the character end a word? -/
def endsWord (c : Char) : Bool :=
  " \t\n;&|<>()".toList.contains c

/-- Is the character a parameter of its own? -/
def isSpecial (c : Char) : Bool :=
  "*@#?$!-0123456789".toList.contains c

/-- The message about a missing quotation mark. -/
def openQuotation : String :=
  "Unterminated quoted string"

/-! ## Section 3: Substitutions -/

/-- How the commands in a substitution are read. -/
structure Bodies where
  /-- Up to a closing bracket. -/
  bracketed : Read (List Command)
  /-- To the end of the text. -/
  whole : Read (List Command)

/-- Reads commands from a text of their own.  Their documents count with those
    of this text. -/
def readApart (bodies : Bodies) (text : List Char) : Read (List Command) := do
  let here ← get
  match bodies.whole.run { Cursor.start text with documents := here.documents } with
  | .ok (body, there) =>
    set { here with documents := there.documents }
    return body
  | .error fault => throw fault

/-- Takes the text between backquotes, from behind the first one. -/
def takeBackquoted (isQuoted : Bool) : Nat → Read (List Char)
  | 0 => refuse "EOF in backquote substitution"
  | fuel + 1 => do
    match ← takeNext with
    | none => refuse "EOF in backquote substitution"
    | some '\x60' => return []
    | some '\\' =>
      match ← takeNext with
      | none => refuse "EOF in backquote substitution"
      | some c =>
        let escapes := ['\\', '\x60', '$'].contains c || (isQuoted && c = '"')
        let more ← takeBackquoted isQuoted fuel
        return if escapes then c :: more else '\\' :: c :: more
    | some c => return c :: (← takeBackquoted isQuoted fuel)

/-- What stands before the word in braces: the name of the parameter and what
    is made of it.  The closing brace is left. -/
def readOperation : Read (List Char × Operation) := do
  let names := takeAll isNameChar (← left)
  let digits := takeAll Char.isDigit (← left)
  let finish := fun (name : List Char) => do
    let operationOf := fun (nonempty : Bool) (c : Option Char) =>
      match c with
      | some '-' => some (Operation.default nonempty)
      | some '+' => some (.alternative nonempty)
      | some '?' => some (.require nonempty)
      | some '=' => some (.assign nonempty)
      | _ => none
    match ← peek with
    | some '\x7d' => return (name, Operation.value)
    | some ':' =>
      let _ ← takeRaw
      return (name, (operationOf true (← takeUncounted)).getD .unknown)
    | some '%' =>
      let _ ← takeRaw
      return (name, .dropEnd (← takeIf '%'))
    | some '#' =>
      let _ ← takeRaw
      return (name, .dropStart (← takeIf '#'))
    | c =>
      let _ ← takeUncounted
      return (name, (operationOf false c).getD .unknown)
  match ← peek with
  | none => return ([], .unknown)
  | some '\x7d' => return ([], .unknown)
  | some '#' =>
    let _ ← takeRaw
    match ← peek with
    | some c =>
      if isNameChar c then
        let name ← if c.isDigit then digits else names
        return (name, if (← peek) = some '\x7d' then .length else .unknown)
      else if c = '\x7d' then return (['#'], .value)
      else
        let before ← get
        let _ ← takeUncounted
        if (← peek) = some '\x7d' then
          return ([c], if isSpecial c then .length else .unknown)
        else do
          set before
          finish ['#']
    | none => return ([], .unknown)
  | some c =>
    if startsName c then finish (← names)
    else if c.isDigit then finish (← digits)
    else do
      let _ ← takeUncounted
      if isSpecial c then finish [c] else return ([c], .unknown)

/-! ## Section 4: Parts -/

/-- What ends a text in which quotation marks do not begin a quotation. -/
inductive Delimiter where
  /-- The second one of two double quotation marks. -/
  | mark
  /-- A closing brace outside of double quotation marks; `isInside` says whether
      the reading stands between two. -/
  | brace (isInside : Bool)
  /-- A line of its own, before which tabs are dropped or not. -/
  | markLine (mark : List Char) (dropsTabs : Bool)
  /-- Two closing brackets, behind so many open ones. -/
  | brackets (opened : Nat)

/-- Is the character one that a backslash protects? -/
def Delimiter.protects (delimiter : Delimiter) (c : Char) : Bool :=
  ['\\', '\x60', '$'].contains c ||
    match delimiter with
    | .mark | .brackets _ => c = '"'
    | .brace _ => c = '"' || c = '\x7d'
    | .markLine _ _ => false

/-- Takes the line that ends a document, if it is the next one. -/
def takeMarkLine (mark : List Char) (dropsTabs : Bool) : Read Bool := do
  if dropsTabs then modify fun c => { c with rest := c.rest.dropWhile (· == '\t') }
  let c ← get
  if !mark.isPrefixOf c.rest then return false
  else
    match c.rest.drop mark.length with
    | [] => do
      set { c with rest := [] }
      return true
    | '\n' :: rest => do
      set { c with rest := rest, line := c.line + 1 }
      return true
    | _ => return false

/-- Takes the lines of a document as they are. -/
def takeLines (mark : List Char) (dropsTabs : Bool) : Nat → Read (List Char)
  | 0 => return []
  | fuel + 1 => do
    if ← takeMarkLine mark dropsTabs then return []
    let c ← get
    let line := c.rest.takeWhile (· ≠ '\n')
    match c.rest.drop line.length with
    | [] => do
      set { c with rest := [] }
      return line
    | _ :: rest => do
      set { c with rest := rest, line := c.line + 1 }
      return line ++ '\n' :: (← takeLines mark dropsTabs fuel)

/-- Is a word nothing but all arguments, each one a field?  Without arguments
    such a word is no field at all. -/
def isAllArguments : Word → Bool
  | [.parameter ['@'] .value [] true] => true
  | _ => false

mutual

/-- The part that a dollar sign begins, from behind the sign. -/
def readDollar (bodies : Bodies) : Nat → Bool → Read Part
  | 0, _ => refuse openQuotation
  | fuel + 1, isQuoted => do
    let alone := if isQuoted then Part.quoted ['$'] else Part.plain ['$']
    match ← peek with
    | none => return alone
    | some '(' =>
      let _ ← takeRaw
      if ← takeIf '(' then
        return .arithmetic (← readQuoted bodies fuel (.brackets 0)) isQuoted
      else return .output (← bodies.bracketed) isQuoted
    | some '\x7b' =>
      let _ ← takeRaw
      let (name, operation) ← readOperation
      let isPlain :=
        match operation with
        | .dropStart _ | .dropEnd _ => true
        | _ => !isQuoted
      let word ← if isPlain then readPlain bodies fuel true
        else readQuoted bodies fuel (.brace false)
      return .parameter name operation word isQuoted
    | some c =>
      if startsName c then
        return .parameter (← takeAll isNameChar (← left)) .value [] isQuoted
      else if isSpecial c then
        let _ ← takeRaw
        return .parameter [c] .value [] isQuoted
      else return alone

/-- The parts up to the end of a word, or up to a closing brace. -/
def readPlain (bodies : Bodies) : Nat → Bool → Read Word
  | 0, _ => refuse openQuotation
  | fuel + 1, isBraced => do
    match ← peek with
    | none => if isBraced then refuse "Missing '\x7d'" else return []
    | some c =>
      if !isBraced && endsWord c then return []
      let _ ← takeRaw
      if c = '\x7d' && isBraced then return []
      let parts : Word ←
        match c with
        | '\'' => do pure [Part.quoted (← takeUntil '\'' openQuotation (← left))]
        | '"' => do
          let parts ← readQuoted bodies fuel .mark
          pure (if isAllArguments parts then parts else .quoted [] :: parts)
        | '\\' => do
          match ← takeRaw with
          | none => pure [.quoted ['\\']]
          | some d => pure [.quoted [d]]
        | '$' => do pure [← readDollar bodies fuel false]
        | '\x60' => do
          let source ← takeBackquoted false (← left)
          pure [.output (← readApart bodies source) false]
        | c => pure [.plain [c]]
      return parts ++ (← readPlain bodies fuel isBraced)

/-- The parts up to a delimiter. -/
def readQuoted (bodies : Bodies) : Nat → Delimiter → Read Word
  | 0, _ => refuse openQuotation
  | fuel + 1, delimiter => do
    match ← takeNext, delimiter with
    | none, .markLine _ _ => return []
    | none, .brackets _ => refuse "Missing '))'"
    | none, _ => refuse openQuotation
    | some '\n', .markLine mark dropsTabs =>
      if ← takeMarkLine mark dropsTabs then return [.quoted ['\n']]
      return .quoted ['\n'] :: (← readQuoted bodies fuel delimiter)
    | some '"', .mark => return []
    | some '"', .brace isInside =>
      return .quoted [] :: (← readQuoted bodies fuel (.brace (!isInside)))
    | some '\x7d', .brace false => return []
    | some '(', .brackets opened =>
      return .quoted ['('] :: (← readQuoted bodies fuel (.brackets (opened + 1)))
    | some ')', .brackets (opened + 1) =>
      return .quoted [')'] :: (← readQuoted bodies fuel (.brackets opened))
    | some ')', .brackets 0 =>
      if ← takeIf ')' then return []
      return .quoted [')'] :: (← readQuoted bodies fuel delimiter)
    | some '\\', delimiter => do
      match ← takeRaw with
      | none => return .quoted ['\\'] :: (← readQuoted bodies fuel delimiter)
      | some c =>
        let text := if delimiter.protects c then [c] else ['\\', c]
        return .quoted text :: (← readQuoted bodies fuel delimiter)
    | some '$', delimiter => do
      let part ← readDollar bodies fuel true
      return part :: (← readQuoted bodies fuel delimiter)
    | some '\x60', delimiter => do
      let source ← takeBackquoted true (← left)
      let part := Part.output (← readApart bodies source) true
      return part :: (← readQuoted bodies fuel delimiter)
    | some c, delimiter => return .quoted [c] :: (← readQuoted bodies fuel delimiter)

end

/-- The mark behind the sign of a document, and whether some of it is quoted.
    Nothing in it is replaced.  `isInside` says whether it is read between double
    quotation marks. -/
def readMark : Nat → Bool → Read (List Char × Bool)
  | 0, _ => refuse openQuotation
  | fuel + 1, isInside => do
    match ← peek with
    | none => if isInside then refuse openQuotation else return ([], false)
    | some c =>
      if !isInside && endsWord c then return ([], false)
      let _ ← takeRaw
      if c = '"' then
        let (more, _) ← readMark fuel (!isInside)
        return (more, true)
      else if c = '\'' && !isInside then
        let text ← takeUntil '\'' openQuotation (← left)
        let (more, _) ← readMark fuel false
        return (text ++ more, true)
      else if c = '\\' then
        let text := match ← takeRaw with
          | none => ['\\']
          | some d => if isInside && !Delimiter.mark.protects d then ['\\', d] else [d]
        let (more, _) ← readMark fuel isInside
        return (text ++ more, true)
      else
        let (more, isQuoted) ← readMark fuel isInside
        return (c :: more, isQuoted)

/-! ## Section 5: Texts of words -/

/-- The text of a part that stands for itself. -/
def plainPart? : Part → Option (List Char)
  | .plain text => some text
  | _ => none

/-- The text of a word without quotation marks and dollar signs. -/
def plainWord? (word : Word) : Option (List Char) :=
  (word.mapM plainPart?).map List.flatten

/-- An assignment, if the word is one. -/
def assignment? (word : Word) : Option Assignment :=
  let before := word.takeWhile fun
    | .plain [c] => c != '='
    | _ => false
  let name := before.flatMap fun part => (plainPart? part).getD []
  match word.drop before.length with
  | .plain ['='] :: value => if isName name then some (name, value) else none
  | _ => none

end DenoBridge.Shell
