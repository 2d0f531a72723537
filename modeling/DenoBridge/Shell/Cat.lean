import DenoBridge.Shell.State

/-! # Showing files

    The program `cat` writes the content of files.  In messages a name is quoted
    where a shell would read it as something else.
-/

namespace DenoBridge.Shell

/-! ## Section 1: Names in messages -/

/-- Does the character ask for quotation marks wherever it stands in a name? -/
def asksForQuotes (c : Char) : Bool :=
  c ≤ ' ' || '~' < c || "!\"$&'()*:;<=>?[\\^\x60|".toList.contains c

/-- Does a name need quotation marks? -/
def needsQuotes (name : List Char) : Bool :=
  name.isEmpty || name.any asksForQuotes || name = ['\x7b'] || name = ['\x7d'] ||
    name.head? = some '#' || name.head? = some '~'

/-- Means the character the same between double quotation marks? -/
def isCalm (c : Char) : Bool :=
  c.isAlphanum || " '#~\x7b\x7d%+,-./:]_".toList.contains c

/-- The escape of a character that is not shown. -/
def hiddenEscape (c : Char) : List Char :=
  let octal := fun (n : Nat) => Char.ofNat ('0'.toNat + n % 8)
  match c with
  | '\x07' => ['\\', 'a']
  | '\x08' => ['\\', 'b']
  | '\t' => ['\\', 't']
  | '\n' => ['\\', 'n']
  | '\x0b' => ['\\', 'v']
  | '\x0c' => ['\\', 'f']
  | '\r' => ['\\', 'r']
  | c => ['\\', octal (c.toNat / 64), octal (c.toNat / 8), octal c.toNat]

/-- The characters of a name between single quotation marks.  Those that are not
    shown stand in quotations of their own; `isHidden` says whether one of these
    is open. -/
def quoteChars (isHidden : Bool) : List Char → List Char
  | [] => []
  | '\'' :: rest => "'\\''".toList ++ quoteChars false rest
  | c :: rest =>
    if c < ' ' || '~' < c then
      (if isHidden then [] else "'$'".toList) ++ hiddenEscape c ++ quoteChars true rest
    else (if isHidden then "''".toList else []) ++ c :: quoteChars false rest

/-- A name as messages show it. -/
def quoteName (name : List Char) : List Char :=
  if !needsQuotes name then name
  else if name.contains '\'' && name.all isCalm then '"' :: name ++ ['"']
  else '\'' :: quoteChars false name ++ ['\'']

/-! ## Section 2: Files -/

/-- Writes the content of operands, of which a hyphen stands for the input. -/
def showAll (program : List Char) : List (List Char) → Act Unit
  | [] => return ()
  | operand :: more => do
    let s ← get
    let complain := fun (reason : String) => do
      let shown := quoteName operand ++ ": ".toList ++ reason.toList ++ ['\n']
      let _ ← writeTo 2 (program ++ ": ".toList ++ shown)
      setStatus 1
    if operand = ['-'] then
      match s.channel? 0 with
      | some channel => do
        let bytes := s.held channel
        set (s.take channel bytes.length)
        let _ ← writeTo 1 (ofBytes bytes)
      | none => complain "Bad file descriptor"
    else
      match s.files.read s.directory (toName operand) with
      | .ok bytes => do
        let _ ← writeTo 1 (ofBytes bytes)
      | .error cause => complain cause.message
    showAll program more

/-- What `cat` does with its words, the name of the program first. -/
def cat (words : List (List Char)) : Act Unit := do
  let operands := (words.drop 1).erase "--".toList
  setStatus 0
  let operands := if operands.isEmpty then [['-']] else operands
  let program := words.headD []
  showAll program operands
  if operands.contains ['-'] && ((← get).channel? 0).isNone then
    let _ ← writeTo 2 (program ++ ": closing standard input: Bad file descriptor\n".toList)
    setStatus 1

end DenoBridge.Shell
