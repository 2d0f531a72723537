import DenoBridge.Shell.Arithmetic
import DenoBridge.Text.Split

/-! # Printing

    What `echo` and `printf` write.  A backslash begins an escape; in a format
    a percent sign begins a directive, which says how the next argument is
    shown.  The format is used again while arguments are left.
-/

namespace DenoBridge.Shell

/-! ## Section 1: Escapes -/

/-- Is the character an octal digit? -/
def isOctal (c : Char) : Bool :=
  '0' ≤ c && c ≤ '7'

/-- The byte that octal digits write. -/
def octalValue (digits : List Char) : Char :=
  Char.ofNat (digits.foldl (fun n c => 8 * n + (c.toNat - '0'.toNat)) 0 % 256)

/-- What a letter behind a backslash stands for. -/
def escaped? : Char → Option Char
  | 'a' => some '\x07'
  | 'b' => some '\x08'
  | 'f' => some '\x0c'
  | 'n' => some '\n'
  | 'r' => some '\r'
  | 't' => some '\t'
  | 'v' => some '\x0b'
  | '\\' => some '\\'
  | _ => none

/-- The escape behind a backslash and what follows it.  With `zeroFirst` an
    octal number may have a zero before its three digits. -/
def escape (zeroFirst : Bool) (text : List Char) : List Char × List Char :=
  let digitsOf := fun (text : List Char) => (text.take 3).takeWhile isOctal
  match text with
  | [] => (['\\'], [])
  | c :: rest =>
    if zeroFirst && c == '0' then
      let digits := digitsOf rest
      ([octalValue digits], rest.drop digits.length)
    else if isOctal c then
      let digits := digitsOf (c :: rest)
      ([octalValue digits], (c :: rest).drop digits.length)
    else
      match escaped? c with
      | some found => ([found], rest)
      | none => (['\\', c], rest)

/-- A text with its escapes replaced, and whether an escape ends all output. -/
def unescape : Nat → List Char → List Char × Bool
  | 0, _ => ([], false)
  | _, [] => ([], false)
  | _, '\\' :: 'c' :: _ => ([], true)
  | fuel + 1, '\\' :: rest =>
    let (found, rest) := escape true rest
    let (more, ends) := unescape fuel rest
    (found ++ more, ends)
  | fuel + 1, c :: rest =>
    let (more, ends) := unescape fuel rest
    (c :: more, ends)

/-! ## Section 2: Arguments -/

/-- What `echo` writes. -/
def echo (arguments : List (List Char)) : List Char :=
  let (arguments, ending) :=
    match arguments with
    | ['-', 'n'] :: rest => (rest, [])
    | rest => (rest, ['\n'])
  let text := Text.joinPieces [' '] arguments
  let (text, ends) := unescape (text.length + 1) text
  if ends then text else text ++ ending

/-- The number that an argument writes, and what is wrong with it.  A quoted
    character stands for its number. -/
def numberOf (argument : List Char) : Int × List (List Char) :=
  match argument with
  | [] => (0, [])
  | '\'' :: rest | '"' :: rest => ((rest.headD '\x00').toNat, [])
  | argument =>
    match integerAt argument with
    | (none, _) => (0, [argument ++ ": expected numeric value".toList])
    | (some n, []) => (n, [])
    | (some n, _) => (n, [argument ++ ": not completely converted".toList])

/-! ## Section 3: Directives -/

/-- How a directive shows an argument. -/
structure Directive where
  flags : List Char
  width : Nat
  precision : Option Nat
  kind : Char
  deriving Repr

/-- A text made wide enough by blanks. -/
def Directive.pad (d : Directive) (text : List Char) : List Char :=
  let missing := List.replicate (d.width - text.length) ' '
  if d.flags.contains '-' then text ++ missing else missing ++ text

/-- A sign and digits made wide enough: by zeros up to the precision, or up to
    the width where a flag asks for it, and else by blanks. -/
def Directive.padNumber (d : Directive) (sign digits : List Char) : List Char :=
  let digits := if d.precision = some 0 && digits = ['0'] then [] else digits
  let zeros :=
    match d.precision with
    | some precision => precision - digits.length
    | none =>
      if d.flags.contains '0' && !d.flags.contains '-' then
        d.width - sign.length - digits.length
      else 0
  d.pad (sign ++ List.replicate zeros '0' ++ digits)

/-- The sign before the digits of a number. -/
def Directive.signOf (d : Directive) (n : Int) : List Char :=
  if n < 0 then ['-']
  else if d.flags.contains '+' then ['+']
  else if d.flags.contains ' ' then [' ']
  else []

/-- What a directive makes of a number. -/
def Directive.showNumber (d : Directive) (n : Int) : List Char :=
  let unsigned := (clamp n % wordCount).toNat
  let marks := d.flags.contains '#' && unsigned != 0
  match d.kind with
  | 'u' => d.padNumber [] (Nat.toDigits 10 unsigned)
  | 'o' => d.padNumber [] ((if marks then ['0'] else []) ++ Nat.toDigits 8 unsigned)
  | 'x' => d.padNumber (if marks then "0x".toList else []) (Nat.toDigits 16 unsigned)
  | 'X' =>
    d.padNumber (if marks then "0X".toList else []) ((Nat.toDigits 16 unsigned).map Char.toUpper)
  | _ => d.padNumber (d.signOf n) (Nat.toDigits 10 (clamp n).natAbs)

/-- What a directive makes of an argument, with what is wrong with it and
    whether an escape ends the output; `none` if there is no such
    directive. -/
def Directive.show? (d : Directive) (argument : List Char) :
    Option (List Char × List (List Char) × Bool) :=
  let cut := fun (text : List Char) => text.take (d.precision.getD text.length)
  match d.kind with
  | 's' => some (d.pad (cut argument), [], false)
  | 'b' =>
    let (text, ends) := unescape (argument.length + 1) argument
    some (d.pad (cut text), [], ends)
  | 'c' => some (d.pad [argument.headD '\x00'], [], false)
  | kind =>
    if ['d', 'i', 'u', 'o', 'x', 'X'].contains kind then
      let (n, complaints) := numberOf argument
      some (d.showNumber n, complaints, false)
    else none

/-! ## Section 4: Formats -/

/-- What a command of the shell writes, what it finds wrong, and its
    status. -/
structure Outcome where
  output : List Char
  complaints : List (List Char)
  status : Nat
  deriving Repr

/-- What was written so far by `printf`. -/
structure Printed where
  text : List Char
  complaints : List (List Char)
  /-- The arguments that are left. -/
  rest : List (List Char)
  /-- Is nothing more to be written? -/
  ends : Bool
  status : Nat
  deriving Repr

/-- A text before what was written. -/
def Printed.after (text : List Char) (complaints : List (List Char)) (p : Printed) : Printed :=
  { p with
    text := text ++ p.text
    complaints := complaints ++ p.complaints
    status := if complaints.isEmpty then p.status else max 1 p.status }

/-- A number in a directive, what follows it, and the arguments that are left:
    a star takes an argument for it. -/
def countAt (text : List Char) (arguments : List (List Char)) :
    Option Int × List Char × List (List Char) :=
  match text with
  | '*' :: rest => (some (numberOf (arguments.headD [])).1, rest, arguments.drop 1)
  | text =>
    let digits := text.takeWhile Char.isDigit
    (if digits.isEmpty then none else some (Digits.value digits), text.drop digits.length,
      arguments)

/-- The directive at the start of a text, behind its percent sign, what follows
    it, and the arguments that are left. -/
def directiveAt (text : List Char) (arguments : List (List Char)) :
    Option (Directive × List Char) × List (List Char) :=
  let flags := text.takeWhile fun c => "-+ #0".toList.contains c
  let (width, rest, arguments) := countAt (text.drop flags.length) arguments
  let flags := if width.any (· < 0) then '-' :: flags else flags
  let (precision, rest, arguments) :=
    match rest with
    | '.' :: rest =>
      let (found, rest, arguments) := countAt rest arguments
      ((some (found.getD 0)).filter (0 ≤ ·), rest, arguments)
    | rest => (none, rest, arguments)
  match rest with
  | [] => (none, arguments)
  | kind :: rest =>
    (some (⟨flags, (width.getD 0).natAbs, precision.map Int.toNat, kind⟩, rest), arguments)

/-- What one pass over a format writes. -/
def formatOnce : Nat → List Char → List (List Char) → Printed
  | 0, _, arguments => ⟨[], [], arguments, false, 0⟩
  | _, [], arguments => ⟨[], [], arguments, false, 0⟩
  | fuel + 1, '\\' :: rest, arguments =>
    let (found, rest) := escape false rest
    (formatOnce fuel rest arguments).after found []
  | fuel + 1, '%' :: '%' :: rest, arguments => (formatOnce fuel rest arguments).after ['%'] []
  | fuel + 1, '%' :: rest, arguments =>
    match directiveAt rest arguments with
    | (none, _) => ⟨[], ["missing format character".toList], [], true, 2⟩
    | (some (directive, after), arguments) =>
      let written := '%' :: rest.take (rest.length - after.length)
      match directive.show? (arguments.headD []) with
      | none => ⟨[], [written ++ ": invalid directive".toList], [], true, 2⟩
      | some (text, complaints, ends) =>
        if ends then (Printed.mk [] [] [] true 0).after text complaints
        else (formatOnce fuel after (arguments.drop 1)).after text complaints
  | fuel + 1, c :: rest, arguments => (formatOnce fuel rest arguments).after [c] []

/-- What `printf` writes.  The format is used again while arguments are
    left. -/
def printf : Nat → List Char → List (List Char) → Outcome
  | 0, _, _ => ⟨[], [], 0⟩
  | fuel + 1, format, arguments =>
    let p := formatOnce (format.length + 1) format arguments
    if p.ends || p.rest.isEmpty || p.rest.length == arguments.length then
      ⟨p.text, p.complaints, p.status⟩
    else
      let more := printf fuel format p.rest
      ⟨p.text ++ more.output, p.complaints ++ more.complaints, max p.status more.status⟩

end DenoBridge.Shell
