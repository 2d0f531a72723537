import DenoBridge.Number.Digits
import DenoBridge.Shell.Bytes

/-! # Arithmetic

    Expressions over whole numbers of 64 bits and variables.  A text is taken
    apart into signs, numbers and names, these are read as an expression, and
    the expression is evaluated.  Main statement: every result is a number of
    64 bits (`wrap_bounds`).
-/

namespace DenoBridge.Shell

/-! ## Section 1: Names and numbers -/

/-- May the character begin a name? -/
def startsName (c : Char) : Bool :=
  c.isAlpha || c == '_'

/-- May the character stand in a name? -/
def isNameChar (c : Char) : Bool :=
  c.isAlphanum || c == '_'

/-- Is the text a name? -/
def isName (text : List Char) : Bool :=
  text.head?.any startsName && text.all isNameChar

/-- Is the character a blank that may stand before a number? -/
def isSpace (c : Char) : Bool :=
  c == ' ' || ('\t' ≤ c && c ≤ '\r')

/-- The digits of a base at the start of a text, and what follows them. -/
def digitsAt (base : Nat) (text : List Char) : List Nat × List Char :=
  let digit? := fun c => (Digits.hexDigit? c).filter (· < base)
  let digits := text.takeWhile fun c => (digit? c).isSome
  (digits.filterMap digit?, text.drop digits.length)

/-- The number that digits write. -/
def valueIn (base : Nat) (digits : List Nat) : Nat :=
  digits.foldl (fun n digit => base * n + digit) 0

/-- The number without a sign at the start of a text, if there is one, and
    what follows it.  It may be octal, behind a zero, or hexadecimal. -/
def magnitudeAt (text : List Char) : Option Nat × List Char :=
  let read := fun (base : Nat) (text : List Char) =>
    match digitsAt base text with
    | ([], _) => (none, text)
    | (digits, rest) => (some (valueIn base digits), rest)
  match text with
  | '0' :: x :: rest =>
    if x == 'x' || x == 'X' then
      match read 16 rest with
      | (none, _) => (some 0, x :: rest)
      | found => found
    else read 8 ('0' :: x :: rest)
  | text => read 10 text

/-- The number at the start of a text, and what follows it. -/
def integerAt (text : List Char) : Option Int × List Char :=
  match text.dropWhile isSpace with
  | '-' :: rest =>
    let (found, rest) := magnitudeAt rest
    (found.map fun n => -(n : Int), rest)
  | '+' :: rest =>
    let (found, rest) := magnitudeAt rest
    (found.map fun n => (n : Int), rest)
  | rest =>
    let (found, rest) := magnitudeAt rest
    (found.map fun n => (n : Int), rest)

/-- There are as many numbers. -/
def wordCount : Nat := 0x10000000000000000

/-- Half of them are below zero. -/
def halfCount : Int := 0x8000000000000000

/-- The number of 64 bits with the same last bits. -/
def wrap (n : Int) : Int :=
  n.bmod wordCount

theorem wrap_bounds (n : Int) : -halfCount ≤ wrap n ∧ wrap n < halfCount := by
  have hpos : 0 < wordCount := by decide
  have hlow := Int.le_bmod (x := n) hpos
  have hhigh := Int.bmod_lt (x := n) hpos
  unfold wrap
  simp only [wordCount, halfCount] at hlow hhigh ⊢
  omega

/-- The nearest number of 64 bits. -/
def clamp (n : Int) : Int :=
  if n < -halfCount then -halfCount else if n < halfCount then n else halfCount - 1

/-! ## Section 2: Expressions -/

namespace Arithmetic

/-- The operators between two operands. -/
inductive Operator where
  | times
  | quotient
  | remainder
  | plus
  | minus
  | shiftLeft
  | shiftRight
  | less
  | atMost
  | greater
  | atLeast
  | equal
  | unequal
  | bitAnd
  | bitXor
  | bitOr
  deriving Repr, DecidableEq

/-- The operators that bind equally tightly, with their signs, the tightest
    first. -/
def operatorLevels : List (List (String × Operator)) :=
  [[("*", .times), ("/", .quotient), ("%", .remainder)], [("+", .plus), ("-", .minus)],
    [("<<", .shiftLeft), (">>", .shiftRight)],
    [("<", .less), ("<=", .atMost), (">", .greater), (">=", .atLeast)],
    [("==", .equal), ("!=", .unequal)], [("&", .bitAnd)], [("^", .bitXor)], [("|", .bitOr)]]

/-- The operator that a sign assigns with, if it assigns; an equals sign alone
    has none. -/
def assigning? (sign : String) : Option (Option Operator) :=
  let found := ["*", "/", "%", "+", "-", "<<", ">>", "&", "^", "|"].find? (· ++ "=" == sign)
  if sign = "=" then some none
  else (found.bind fun sign => operatorLevels.flatten.lookup sign).map some

/-- An expression, as far as it can be read.  What stands before a fault is
    evaluated before the fault is found. -/
inductive Expression where
  | number (n : Int)
  | variable (name : List Char)
  | negative (operand : Expression)
  /-- One if the operand is zero, and zero else. -/
  | opposite (operand : Expression)
  | complement (operand : Expression)
  | binary (operator : Operator) (left right : Expression)
  | both (left right : Expression)
  | either (left right : Expression)
  | conditional (test yes no : Expression)
  | assign (name : List Char) (operator : Option Operator) (value : Expression)
  /-- Where an operand is expected. -/
  | missing
  /-- Where something else is expected than what follows. -/
  | broken (before : Expression) (expected : String)
  deriving Repr

/-! ## Section 3: Reading -/

/-- What expressions are made of. -/
inductive Piece where
  | number (n : Int)
  | name (name : List Char)
  | sign (text : String)
  deriving Repr, DecidableEq

/-- The signs; where one begins another, the longer one comes first. -/
def signs : List String :=
  ["<<=", ">>=", "<<", ">>", "<=", ">=", "==", "!=", "&&", "||", "+=", "-=", "*=", "/=", "%=",
    "&=", "^=", "|="]

/-- The pieces of a text. -/
def pieces : Nat → List Char → List Piece
  | 0, _ => []
  | _, [] => []
  | fuel + 1, c :: rest =>
    if isSpace c then pieces fuel rest
    else if c.isDigit then
      let (found, after) := magnitudeAt (c :: rest)
      .number (clamp ((found.getD 0 : Nat) : Int)) :: pieces fuel after
    else if startsName c then
      let name := (c :: rest).takeWhile isNameChar
      .name name :: pieces fuel ((c :: rest).drop name.length)
    else
      let sign := (signs.find? (·.toList.isPrefixOf (c :: rest))).getD (String.ofList [c])
      .sign sign :: pieces fuel ((c :: rest).drop sign.length)

mutual

/-- Reads an assignment, or another expression. -/
def readAssignment : Nat → List Piece → Expression × List Piece
  | 0, _ => (.missing, [])
  | fuel + 1, text =>
    match text with
    | .name name :: .sign sign :: rest =>
      match assigning? sign with
      | some operator =>
        let (value, rest) := readAssignment fuel rest
        (.assign name operator value, rest)
      | none => readConditional fuel text
    | _ => readConditional fuel text

/-- Reads a choice between two expressions, or another expression. -/
def readConditional : Nat → List Piece → Expression × List Piece
  | 0, _ => (.missing, [])
  | fuel + 1, text =>
    match readEither fuel text with
    | (test, .sign "?" :: rest) =>
      match readAssignment fuel rest with
      | (yes, .sign ":" :: rest) =>
        let (no, rest) := readConditional fuel rest
        (.conditional test yes no, rest)
      | (yes, _) => (.conditional test (.broken yes "':'") .missing, [])
    | found => found

/-- Reads expressions of which one has to hold. -/
def readEither : Nat → List Piece → Expression × List Piece
  | 0, _ => (.missing, [])
  | fuel + 1, text =>
    match readBoth fuel text with
    | (left, .sign "||" :: rest) =>
      let (right, rest) := readEither fuel rest
      (.either left right, rest)
    | found => found

/-- Reads expressions that all have to hold. -/
def readBoth : Nat → List Piece → Expression × List Piece
  | 0, _ => (.missing, [])
  | fuel + 1, text =>
    match readLevel fuel operatorLevels.reverse text with
    | (left, .sign "&&" :: rest) =>
      let (right, rest) := readBoth fuel rest
      (.both left right, rest)
    | found => found

/-- Reads operands of the operators of the first level, which bind the other
    ones between them. -/
def readLevel : Nat → List (List (String × Operator)) → List Piece → Expression × List Piece
  | 0, _, _ => (.missing, [])
  | fuel + 1, [], text => readOperand fuel text
  | fuel + 1, level :: tighter, text =>
    let (left, rest) := readLevel fuel tighter text
    readOthers fuel level tighter left rest

/-- Goes on behind an operand, as long as one of the operators follows. -/
def readOthers : Nat → List (String × Operator) → List (List (String × Operator)) → Expression →
    List Piece → Expression × List Piece
  | 0, _, _, _, _ => (.missing, [])
  | fuel + 1, level, tighter, left, text =>
    match text with
    | .sign sign :: rest =>
      match level.lookup sign with
      | some operator =>
        let (right, rest) := readLevel fuel tighter rest
        readOthers fuel level tighter (.binary operator left right) rest
      | none => (left, text)
    | _ => (left, text)

/-- Reads an operand with the signs before it. -/
def readOperand : Nat → List Piece → Expression × List Piece
  | 0, _ => (.missing, [])
  | fuel + 1, text =>
    match text with
    | .number n :: rest => (.number n, rest)
    | .name name :: rest => (.variable name, rest)
    | .sign "(" :: rest =>
      match readAssignment fuel rest with
      | (inner, .sign ")" :: rest) => (inner, rest)
      | (inner, _) => (.broken inner "')'", [])
    | .sign "+" :: rest => readOperand fuel rest
    | .sign "-" :: rest =>
      let (operand, rest) := readOperand fuel rest
      (.negative operand, rest)
    | .sign "!" :: rest =>
      let (operand, rest) := readOperand fuel rest
      (.opposite operand, rest)
    | .sign "~" :: rest =>
      let (operand, rest) := readOperand fuel rest
      (.complement operand, rest)
    | _ => (.missing, [])

end

/-- The expression that a text writes. -/
def expression (text : List Char) : Expression :=
  let found := pieces (text.length + 1) text
  let (result, rest) := readAssignment (16 * (found.length + 2)) found
  if rest.isEmpty then result else .broken result "EOF"

/-! ## Section 4: Evaluation -/

/-- Why an expression has no value. -/
inductive Fault where
  | expecting (what : String) (source : List Char)
  | divisionByZero (source : List Char)
  /-- The value of a variable is no number. -/
  | illegalNumber (value : List Char)
  deriving Repr, DecidableEq

/-- The wording of a fault. -/
def Fault.message : Fault → List Char
  | expecting what source =>
    s!"arithmetic expression: expecting {what}: \"".toList ++ source ++ ['"']
  | divisionByZero source =>
    "arithmetic expression: division by zero: \"".toList ++ source ++ ['"']
  | illegalNumber value => "Illegal number: ".toList ++ value

/-- The number that the value of a variable writes.  Blanks write zero. -/
def variableNumber (value : List Char) : Except Fault Int :=
  match integerAt value with
  | (some n, rest) => if rest.all isSpace then .ok (clamp n) else .error (.illegalNumber value)
  | (none, _) => if value.all isSpace then .ok 0 else .error (.illegalNumber value)

/-- One for truth, and zero else. -/
def truth (holds : Bool) : Int :=
  if holds then 1 else 0

/-- What an operator makes of two numbers; nothing, when it would divide by
    zero. -/
def Operator.apply? (operator : Operator) (a b : Int) : Option Int :=
  let bits := fun (f : BitVec 64 → BitVec 64 → BitVec 64) =>
    (f (BitVec.ofInt 64 a) (BitVec.ofInt 64 b)).toInt
  let places := (b % 64).toNat
  match operator with
  | times => some (wrap (a * b))
  | quotient => if b = 0 || (a = -halfCount && b = -1) then none else some (a.tdiv b)
  | remainder => if b = 0 || (a = -halfCount && b = -1) then none else some (a.tmod b)
  | plus => some (wrap (a + b))
  | minus => some (wrap (a - b))
  | shiftLeft => some (wrap (a <<< places))
  | shiftRight => some (a >>> places)
  | less => some (truth (a < b))
  | atMost => some (truth (a ≤ b))
  | greater => some (truth (b < a))
  | atLeast => some (truth (b ≤ a))
  | equal => some (truth (a = b))
  | unequal => some (truth (a ≠ b))
  | bitAnd => some (bits (· &&& ·))
  | bitXor => some (bits (· ^^^ ·))
  | bitOr => some (bits (· ||| ·))

/-- The values that variables were given, the newest first. -/
abbrev Given := List (List Char × Int)

/-- The value of an expression, where `value?` gives the values of variables.
    The values that it gives to variables are collected.  What does not matter is
    only looked at for faults in its form. -/
def Expression.evaluate (source : List Char) (value? : List Char → Option (List Char))
    (matters : Bool) : Expression → StateT Given (Except Fault) Int
  | .number n => return n
  | .variable name => if matters then look name else return 0
  | .negative operand => do return wrap (-(← evaluate source value? matters operand))
  | .opposite operand => do return truth ((← evaluate source value? matters operand) = 0)
  | .complement operand => do return -(← evaluate source value? matters operand) - 1
  | .binary operator left right => do
    let a ← evaluate source value? matters left
    let b ← evaluate source value? matters right
    if matters then apply operator a b else return 0
  | .both left right => do
    let a ← evaluate source value? matters left
    let b ← evaluate source value? (matters && a != 0) right
    return truth (a ≠ 0 && b ≠ 0)
  | .either left right => do
    let a ← evaluate source value? matters left
    let b ← evaluate source value? (matters && a == 0) right
    return truth (a ≠ 0 || b ≠ 0)
  | .conditional test yes no => do
    let a ← evaluate source value? matters test
    let b ← evaluate source value? (matters && a != 0) yes
    let c ← evaluate source value? (matters && a == 0) no
    return if a ≠ 0 then b else c
  | .assign name operator value => do
    let new ← evaluate source value? matters value
    if matters then
      let result ← match operator with
        | some operator => do apply operator (← look name) new
        | none => pure new
      modify ((name, result) :: ·)
      return result
    else return 0
  | .missing => throw (.expecting "primary" source)
  | .broken before expected => do
    let _ ← evaluate source value? matters before
    throw (.expecting expected source)
where
  /-- The value of a variable. -/
  look (name : List Char) : StateT Given (Except Fault) Int := do
    match (← get).lookup name with
    | some n => return n
    | none => liftM (variableNumber ((value? name).getD []))
  /-- What an operator makes of two numbers. -/
  apply (operator : Operator) (a b : Int) : StateT Given (Except Fault) Int :=
    match operator.apply? a b with
    | some n => return n
    | none => throw (.divisionByZero source)

/-- The value that a text writes, and the values it gives to variables. -/
def calculate (value? : List Char → Option (List Char)) (source : List Char) :
    Except Fault (Int × Given) :=
  ((expression source).evaluate source value? true).run []

end Arithmetic

end DenoBridge.Shell
