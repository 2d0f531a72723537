import DenoBridge.Machine.Basic
import DenoBridge.Shell.Arithmetic

/-! # Tests

    What `test` finds out about texts, numbers and files.  Tests can be negated,
    joined and put between brackets.  A word is an operator only where its
    operands can be.
-/

namespace DenoBridge.Shell.Test

/-! ## Section 1: Operators -/

/-- Is it an operator before one operand? -/
def isUnary (word : List Char) : Bool :=
  match word with
  | ['-', letter] => "rwxefdcbpugkstznhOGLS".toList.contains letter
  | _ => false

/-- The operators between two operands. -/
def binaryNames : List String :=
  ["=", "!=", "<", ">", "-eq", "-ne", "-lt", "-le", "-gt", "-ge", "-nt", "-ot", "-ef"]

/-- Is it an operator between two operands? -/
def isBinary (word : List Char) : Bool :=
  binaryNames.contains (String.ofList word)

/-- A test on a file. -/
def holdsFor (fs : FileSystem) (here : Place) (operator : Char) (name : List Char) : Bool :=
  let follows := operator != 'h' && operator != 'L'
  let found := (fs.locate here (toName name) follows).toOption.bind fs.get?
  match operator, found with
  | _, none => false
  | 'd', some node => node == .directory
  | 'f', some node =>
    match node with
    | .file _ _ | .tool _ => true
    | _ => false
  | 'h', some node | 'L', some node =>
    match node with
    | .link _ => true
    | _ => false
  | 's', some (.file _ content) => !content.isEmpty
  | 's', some (.sink _) => false
  | 'x', some node => FileSystem.modeOf node &&& FileSystem.executeBits != 0
  | 'c', some (.sink _) => true
  | 'r', some (.sink mode) => mode &&& FileSystem.ownerReadBit != 0
  | 'w', some (.sink mode) => mode &&& FileSystem.ownerWriteBit != 0
  | 's', some _ => true
  | operator, some _ => "erwOG".toList.contains operator

/-- A test with an operator before its operand. -/
def unary (fs : FileSystem) (here : Place) (operator : Char) (operand : List Char) : Bool :=
  if operator = 'n' then !operand.isEmpty
  else if operator = 'z' then operand.isEmpty
  else if operator = 't' then false
  else holdsFor fs here operator operand

/-- The decimal number that an operand writes. -/
def number (operand : List Char) : Except (List Char) Int :=
  let text := operand.dropWhile isSpace
  let digits := if text.head?.any fun c => c == '-' || c == '+' then text.drop 1 else text
  let found : Int := Digits.value (digits.takeWhile Char.isDigit)
  if digits.takeWhile Char.isDigit = [] ∨ !(digits.dropWhile Char.isDigit).all isSpace then
    .error ("Illegal number: ".toList ++ operand)
  else .ok (if text.head? = some '-' then -found else found)

/-- The comparison of numbers that an operator stands for. -/
def comparison? (operator : String) : Option (Int → Int → Bool) :=
  match operator with
  | "-eq" => some fun a b => a == b
  | "-ne" => some fun a b => a != b
  | "-lt" => some fun a b => a < b
  | "-le" => some fun a b => a ≤ b
  | "-gt" => some fun a b => a > b
  | "-ge" => some fun a b => a ≥ b
  | _ => none

/-- A test with an operator between its operands. -/
def binary (fs : FileSystem) (here : Place) (operator left right : List Char) :
    Except (List Char) Bool :=
  let placeOf := fun (name : List Char) => (fs.find here (toName name)).toOption.map (·.1)
  match String.ofList operator, comparison? (String.ofList operator) with
  | "=", _ => .ok (left == right)
  | "!=", _ => .ok (left != right)
  | "<", _ => .ok (left < right)
  | ">", _ => .ok (right < left)
  | "-ef", _ => .ok ((placeOf left).isSome && placeOf left == placeOf right)
  | _, some holds => do return holds (← number left) (← number right)
  | _, none => .ok false

/-! ## Section 2: Expressions -/

/-- What a word is at its place. -/
inductive Role where
  | none
  | unary (letter : Char)
  | binary
  | negation
  | conjunction
  | disjunction
  | opening
  | closing
  | operand
  deriving DecidableEq

/-- The role of the first of the words.  An operator before an operand is one
    only if an operand follows, and an opening bracket only if something
    follows. -/
def roleOf : List (List Char) → Role
  | [] => .none
  | word :: rest =>
    let isOperand :=
      match rest with
      | [] => true
      | [_] => false
      | next :: _ => isBinary next
    if isUnary word && !isOperand then .unary (word.getD 1 ' ')
    else if isBinary word then .binary
    else
      match String.ofList word with
      | "!" => .negation
      | "-a" => .conjunction
      | "-o" => .disjunction
      | "(" => if rest.isEmpty then .operand else .opening
      | ")" => .closing
      | _ => .operand

/-- The finding of a part of a test, and the words from the last one that was
    looked at. -/
abbrev Finding := Except (List Char) (Bool × List (List Char))

mutual

/-- Tests of which one has to hold. -/
def disjunction (fs : FileSystem) (here : Place) : Nat → List (List Char) → Finding
  | 0, words => .ok (false, words)
  | fuel + 1, words => do
    let (left, last) ← conjunction fs here fuel words
    if roleOf (last.drop 1) = .disjunction then
      let (right, last) ← disjunction fs here fuel (last.drop 2)
      return (left || right, last)
    else return (left, last)

/-- Tests that all have to hold. -/
def conjunction (fs : FileSystem) (here : Place) : Nat → List (List Char) → Finding
  | 0, words => .ok (false, words)
  | fuel + 1, words => do
    let (left, last) ← negation fs here fuel words
    if roleOf (last.drop 1) = .conjunction then
      let (right, last) ← conjunction fs here fuel (last.drop 2)
      return (left && right, last)
    else return (left, last)

/-- A test, or the opposite of one. -/
def negation (fs : FileSystem) (here : Place) : Nat → List (List Char) → Finding
  | 0, words => .ok (false, words)
  | fuel + 1, words => do
    if roleOf words = .negation then
      let rest := words.drop 1
      let (found, last) ← negation fs here fuel rest
      return (!found, if rest.isEmpty then words else last)
    else primary fs here fuel words

/-- A single test. -/
def primary (fs : FileSystem) (here : Place) : Nat → List (List Char) → Finding
  | 0, words => .ok (false, words)
  | fuel + 1, words =>
    match roleOf words, words with
    | .none, words => .ok (false, words)
    | .opening, _ :: rest => do
      if roleOf rest = .closing then return (false, rest)
      let (found, last) ← disjunction fs here fuel rest
      if roleOf (last.drop 1) = .closing then return (found, last.drop 1)
      else throw "closing paren expected".toList
    | .unary letter, _ :: operand :: rest => .ok (unary fs here letter operand, operand :: rest)
    | _, left :: operator :: rest =>
      if roleOf (operator :: rest) = .binary then
        match rest with
        | right :: rest => do return (← binary fs here operator left right, right :: rest)
        | [] => .error (operator ++ ": argument expected".toList)
      else .ok (!left.isEmpty, left :: operator :: rest)
    | _, words => .ok (!(words.headD []).isEmpty, words)

end

/-- Does a test hold, all of whose words belong to it?  It begins with an
    operand if `isOperand` says so. -/
def whole (fs : FileSystem) (here : Place) (words : List (List Char)) :
    Except (List Char) Bool := do
  let (found, last) ← disjunction fs here (4 * words.length + 8) words
  match last with
  | word :: _ :: _ => throw (word ++ ": unexpected operator".toList)
  | _ => return found

/-- Does the test with these words hold?  An error is what is wrong with
    them. -/
def run (fs : FileSystem) (here : Place) : Nat → List (List Char) → Except (List Char) Bool
  | 0, _ => .ok false
  | _, [] => .ok false
  | fuel + 1, words =>
    let isLong := words.length = 3 || words.length = 4
    match words with
    | [left, operator, right] =>
      if isBinary operator then binary fs here operator left right
      else rest fuel isLong words
    | words => rest fuel isLong words
where
  /-- Tests between brackets, and negated ones, of three or four words. -/
  rest (fuel : Nat) (isLong : Bool) (words : List (List Char)) : Except (List Char) Bool :=
    if isLong && words.head? = some ['('] && words.getLast? = some [')'] then
      whole fs here (words.drop 1).dropLast
    else if isLong && words.head? = some ['!'] then (run fs here fuel (words.drop 1)).map (!·)
    else whole fs here words

end DenoBridge.Shell.Test
