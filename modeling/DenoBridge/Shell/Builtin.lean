import DenoBridge.Machine.Search
import DenoBridge.Shell.Fields
import DenoBridge.Shell.Printing
import DenoBridge.Shell.Test
import DenoBridge.Shell.Word

/-! # Commands of the shell itself

    The commands that only look at the state of the shell or change it.  Each
    is given its arguments and the line that it stands in, for messages.
-/

namespace DenoBridge.Shell.Builtin

/-! ## Section 1: Messages -/

/-- A message with the name of the command before it. -/
def complainAs (line : Nat) (name message : List Char) : Act Unit :=
  complain line (name ++ ": ".toList ++ message)

/-- Writes a message with the name of the command before it, and stops. -/
def failAs (line : Nat) (name message : List Char) : Act α :=
  fail line (name ++ ": ".toList ++ message)

/-- Writes a text as the output of a command. -/
def say (line : Nat) (name text : List Char) : Act Unit := do
  setStatus 0
  if !text.isEmpty && !(← writeTo 1 text) then
    complainAs line name (name ++ ": I/O error".toList)
    setStatus 1

/-- What a command finds wrong and writes: its output is kept back to the end. -/
def settle (line : Nat) (name : List Char) (outcome : Outcome) : Act Unit := do
  outcome.complaints.forM (complainAs line name)
  say line name outcome.output
  if outcome.status ≠ 0 then setStatus outcome.status

/-- The number that an argument writes. -/
def numberArgument (line : Nat) (name argument : List Char) : Act Nat :=
  if !argument.isEmpty && argument.all Char.isDigit then return Digits.value argument
  else failAs line name ("Illegal number: ".toList ++ argument)

/-- The letters of the options that stand before other arguments, and these.  A
    letter of `valued` takes a text for itself. -/
def optionsFrom (plain valued : List Char) : Nat → List Char → List (List Char) →
    Except (List Char) (List Char × List (List Char))
  | 0, _, arguments => .ok ([], arguments)
  | fuel + 1, [], arguments =>
    match arguments with
    | ['-', '-'] :: rest => .ok ([], rest)
    | ('-' :: letter :: letters) :: rest => optionsFrom plain valued fuel (letter :: letters) rest
    | rest => .ok ([], rest)
  | fuel + 1, letter :: letters, arguments => do
    if plain.contains letter then
      let (found, rest) ← optionsFrom plain valued fuel letters arguments
      return (letter :: found, rest)
    else if valued.contains letter then
      if letters.isEmpty && arguments.isEmpty then
        throw ("No arg for -".toList ++ letter :: " option".toList)
      else
        let rest := if letters.isEmpty then arguments.drop 1 else arguments
        let (found, rest) ← optionsFrom plain valued fuel [] rest
        return (letter :: found, rest)
    else throw ("Illegal option -".toList ++ [letter])

/-- Takes the options that stand before other arguments. -/
def takeOptions (line : Nat) (name : List Char) (plain valued : String)
    (arguments : List (List Char)) : Act (List Char × List (List Char)) :=
  let size := arguments.foldl (fun size word => size + word.length + 1) 0
  match optionsFrom plain.toList valued.toList (2 * size + 1) [] arguments with
  | .ok found => return found
  | .error complaint => failAs line name complaint

/-! ## Section 2: Output and tests -/

/-- Writes by a format. -/
def print (line : Nat) (name : List Char) (arguments : List (List Char)) : Act Unit := do
  let (_, words) ← takeOptions line name "" "" arguments
  match words with
  | format :: rest => settle line name (printf (rest.length + 1) format rest)
  | [] => failAs line name "usage: printf format [arg ...]".toList

/-- Tests something. -/
def test (line : Nat) (name : List Char) (arguments : List (List Char)) : Act Unit := do
  let s ← get
  let found := fun (words : List (List Char)) =>
    Test.run s.files s.directory (words.length + 1) words
  let words :=
    if name = ['['] then
      if (arguments.getLast?.bind (·.head?)) = some ']' then some arguments.dropLast else none
    else some arguments
  match words.map found with
  | none => failAs line name "missing ]".toList
  | some (.error complaint) => failAs line name complaint
  | some (.ok holds) => setStatus (if holds then 0 else 1)

/-! ## Section 3: Variables -/

/-- A text that is read back as one word. -/
def quote (text : List Char) : List Char :=
  '\'' :: text.flatMap (fun c => if c = '\'' then "'\"'\"'".toList else [c]) ++ ['\'']

/-- Shows the variables that are marked in one way. -/
def showMarked (line : Nat) (name : List Char) (isMarked : Variable → Bool) : Act Unit := do
  let marked := (← get).vars.filter fun (_, found) => isMarked found
  let lines := (marked.mergeSort fun a b => isInOrder a.1 b.1).map fun (found, value) =>
    name ++ ' ' :: found ++ (value.value.map fun text => '=' :: quote text).getD [] ++ ['\n']
  say line name lines.flatten

/-- Marks variables, of which some are given values. -/
def mark (line : Nat) (name : List Char) (exports : Bool) (arguments : List (List Char)) :
    Act Unit := do
  let (letters, words) ← takeOptions line name "p" "" arguments
  setStatus 0
  if words.isEmpty || !letters.isEmpty then
    showMarked line name fun found => if exports then found.isExported else found.isFixed
  else
    words.forM fun word => do
      let (found, value) := Text.cutAt (· == '=') word
      if !isName found then failAs line name (found ++ ": bad variable name".toList)
      if let some value := value then setVariable line (name ++ ": ".toList) found value
      modify fun s =>
        let old := (s.vars.lookup found).getD ⟨none, false, false⟩
        s.putVariable found
          (if exports then { old with isExported := true } else { old with isFixed := true })

/-- The frame of a function after a variable or, for a hyphen, the options became
    its own. -/
def Frame.keep (frame : Frame) (s : State) (name : List Char) : Frame :=
  if name = ['-'] then { frame with options := frame.options.or (some s.options) }
  else if frame.vars.any (·.1 = name) then frame
  else { frame with vars := (name, s.vars.lookup name) :: frame.vars }

/-- Makes variables the own ones of a function. -/
def makeLocal (line : Nat) (name : List Char) (arguments : List (List Char)) : Act Unit := do
  if (← get).frames.isEmpty then failAs line name "not in a function".toList
  setStatus 0
  arguments.forM fun word => do
    let (found, value) := Text.cutAt (· == '=') word
    if found ≠ ['-'] && !isName found then
      failAs line name (found ++ ": bad variable name".toList)
    modify fun s =>
      match s.frames with
      | frame :: more => { s with frames := Frame.keep frame s found :: more }
      | [] => s
    if let some value := value then setVariable line (name ++ ": ".toList) found value

/-- Forgets variables, or functions. -/
def unset (line : Nat) (name : List Char) (arguments : List (List Char)) : Act Unit := do
  let (letters, names) ← takeOptions line name "vf" "" arguments
  setStatus 0
  names.forM fun found => do
    if letters.getLast? = some 'f' then
      modify fun s => { s with functions := s.functions.filter (·.1 ≠ found) }
    else
      if !isName found then failAs line name (found ++ ": bad variable name".toList)
      if ((← get).vars.lookup found).any (·.isFixed) then
        failAs line name (found ++ ": is read only".toList)
      modify (·.dropVariable found)

/-- Reads a line of the input into variables. -/
def read (line : Nat) (name : List Char) (arguments : List (List Char)) : Act Unit := do
  let (letters, names) ← takeOptions line name "r" "p" arguments
  let raw := letters.contains 'r'
  if names.isEmpty then failAs line name "arg count".toList
  let s ← get
  match s.channel? 0 with
  | none => setStatus 1
  | some channel => do
    let (letters, count, ended) := lineAt raw (ofBytes (s.held channel))
    set (s.take channel count)
    let isBlank := fun (letter : Letter) =>
      !letter.isQuoted && s.separators.contains letter.char && isSpace letter.char
    (shareLine s.separators names (letters.dropWhile isBlank)).forM fun (found, value) =>
      setVariable line (name ++ ": ".toList) found value
    setStatus (if ended then 0 else 1)

/-- Shows or sets the permissions that new files are not given. -/
def umask (line : Nat) (name : List Char) (arguments : List (List Char)) : Act Unit := do
  let (letters, words) ← takeOptions line name "S" "" arguments
  let mask := (← get).mask
  match words with
  | [] =>
    let digit := fun (place : Nat) => (mask >>> (3 * place)) % 8
    let permissions := fun (digit : Nat) =>
      (if digit &&& 4 = 0 then ['r'] else []) ++ (if digit &&& 2 = 0 then ['w'] else []) ++
        (if digit &&& 1 = 0 then ['x'] else [])
    if letters.isEmpty then
      let digits := [3, 2, 1, 0].map fun place => Char.ofNat ('0'.toNat + digit place)
      say line name (digits ++ ['\n'])
    else
      let shown := "u=".toList ++ permissions (digit 2) ++ ",g=".toList ++
        permissions (digit 1) ++ ",o=".toList ++ permissions (digit 0)
      say line name (shown ++ ['\n'])
  | word :: _ =>
    setStatus 0
    if word.head?.any Char.isDigit then
      let (digits, rest) := digitsAt 8 word
      if rest.isEmpty then modify fun s => { s with mask := valueIn 8 digits % 512 }
      else failAs line name ("Illegal number: ".toList ++ word)

/-! ## Section 4: Directories -/

/-- The text of a directory after a walk along names: a dot stays, two go up.
    Two slashes at its start are kept. -/
def walkText (here : List Char) (target : List Char) : List Char :=
  let isWhole := target.head? = some '/'
  let start := if isWhole then target else here ++ '/' :: target
  let slashes := (if isWhole then target else here).takeWhile (· == '/')
  let names := (Text.pieces '/' start).filter fun name => name ≠ [] && name ≠ ['.']
  let kept := names.foldl
    (fun kept name => if name = "..".toList then kept.drop 1 else name :: kept) []
  (if slashes.length = 2 then slashes else ['/']) ++ Text.joinPieces ['/'] kept.reverse

/-- The directories in which a path is looked for, and whether the one found is
    shown. -/
def changeTargets (s : State) (path : List Char) : List (List Char × Bool) :=
  let first := path.takeWhile (· ≠ '/')
  if path.head? = some '/' || first = ['.'] || first = "..".toList then []
  else
    (Text.pieces ':' ((s.value? "CDPATH".toList).getD [])).map fun directory =>
      (ofString (inDirectory (toName directory) (toName path)), !directory.isEmpty)

/-- Goes to another directory. -/
def goTo (line : Nat) (name : List Char) (arguments : List (List Char)) : Act Unit := do
  let (letters, words) ← takeOptions line name "LP" "" arguments
  let s ← get
  let isBack := words.head? = some ['-']
  let wanted := if isBack then s.value? "OLDPWD".toList else words.head?.or (s.value? "HOME".toList)
  let target := match wanted.getD [] with | [] => ['.'] | target => target
  let isDirectory := fun (path : List Char) => s.files.isDirectory s.directory (toName path)
  let (path, isShown) :=
    ((changeTargets s target).find? fun entry => isDirectory entry.1).getD (target, false)
  let isPhysical := letters.getLast? = some 'P'
  let text := if isPhysical then path else walkText s.here path
  match s.files.find s.directory (toName text) with
  | .ok (place, .directory) => do
    let text := if isPhysical then ofString (Path.mk .root place).text else text
    modify fun s => { s with directory := place, here := text }
    modify fun now => now.putVariable "OLDPWD".toList ⟨some s.here, true, false⟩
    modify fun now => now.putVariable "PWD".toList ⟨some text, true, false⟩
    if isBack || isShown then say line name (text ++ ['\n']) else setStatus 0
  | _ => failAs line name ("can't cd to ".toList ++ wanted.getD [])

/-- Writes the current directory. -/
def showHere (line : Nat) (name : List Char) (arguments : List (List Char)) : Act Unit := do
  let (letters, _) ← takeOptions line name "LP" "" arguments
  let s ← get
  let physical := ofString (Path.mk .root s.directory).text
  say line name ((if letters.getLast? = some 'P' then physical else s.here) ++ ['\n'])

/-! ## Section 5: Options and traps -/

/-- What the options among arguments switch. -/
structure Switched where
  options : Options
  /-- Is the program the first of the arguments that are left? -/
  isText : Bool
  /-- Is the program read from the input? -/
  isInput : Bool
  /-- Did two hyphens end the options? -/
  ended : Bool
  /-- The arguments that are left. -/
  rest : List (List Char)

/-- The options after one of them was switched. -/
def switch? (options : Options) (letter : Char) (on : Bool) : Option Options :=
  match letter with
  | 'e' => some { options with stopsOnFailure := on }
  | 'u' => some { options with requiresValues := on }
  | 'f' => some { options with keepsPatterns := on }
  | 'x' => some { options with traces := on }
  | 'a' => some { options with exportsAll := on }
  | 'C' => some { options with keepsFiles := on }
  | 'n' => some { options with onlyReads := on }
  | letter => if "IbhilmsvEVp".toList.contains letter then some options else none

/-- The letters of options with long names. -/
def optionNames : List (String × Char) :=
  [("errexit", 'e'), ("nounset", 'u'), ("noglob", 'f'), ("xtrace", 'x'), ("ignoreeof", 'I'),
    ("interactive", 'i'), ("monitor", 'm'), ("noexec", 'n'), ("stdin", 's'), ("verbose", 'v'),
    ("vi", 'V'), ("emacs", 'E'), ("noclobber", 'C'), ("allexport", 'a'), ("notify", 'b'),
    ("privileged", 'p')]

/-- Switches an option with a long name. -/
def switchNamed (on : Bool) (name : List Char) (w : Switched) : Except (List Char) Switched :=
  match (optionNames.lookup (String.ofList name)).bind (switch? w.options · on) with
  | some options => .ok { w with options := options }
  | none => .error ("Illegal option -o ".toList ++ name)

/-- Switches options by their letters.  `atStart` says whether they stand before
    a program. -/
def switchLetters (atStart on : Bool) : List Char → Switched → Except (List Char) Switched
  | [], w => .ok w
  | letter :: more, w =>
    if atStart && letter = 'c' then switchLetters atStart on more { w with isText := true }
    else if atStart && letter = 's' then switchLetters atStart on more { w with isInput := true }
    else if letter = 'o' then
      match w.rest with
      | [] => switchLetters atStart on more w
      | name :: rest => do
        switchLetters atStart on more (← switchNamed on name { w with rest := rest })
    else
      match switch? w.options letter on with
      | some options => switchLetters atStart on more { w with options := options }
      | none => .error ("Illegal option -".toList ++ [letter])

/-- Switches options as the arguments at the start say. -/
def switchAll (atStart : Bool) : Nat → Switched → Except (List Char) Switched
  | 0, w => .ok w
  | fuel + 1, w =>
    match w.rest with
    | ['-', '-'] :: rest => .ok { w with rest := rest, ended := true }
    | ['-'] :: rest => .ok { w with rest := rest }
    | (sign :: letters) :: rest =>
      if sign = '-' || sign = '+' then do
        let w ← switchLetters atStart (sign = '-') letters { w with rest := rest }
        switchAll atStart fuel w
      else .ok w
    | _ => .ok w

/-- Switches options and sets the arguments of the program. -/
def set (line : Nat) (name : List Char) (arguments : List (List Char)) : Act Unit := do
  let w : Switched := ⟨(← get).options, false, false, false, arguments⟩
  match switchAll false (arguments.length + 1) w with
  | .error complaint => failAs line name complaint
  | .ok w =>
    modify fun s => { s with
      options := w.options
      arguments := if w.ended || !w.rest.isEmpty then w.rest else s.arguments }
    setStatus 0

/-- The name of a signal. -/
def signalName (signal : Nat) : List Char :=
  if signal = 0 then "EXIT".toList
  else ((signalNames.find? (·.2 = signal)).map (·.1.toList)).getD (toString signal).toList

/-- The signal that a trap is set for. -/
def trapSignal? (text : List Char) : Option Nat :=
  if text = "EXIT".toList then some 0 else signal? text

/-- Sets traps, or shows them. -/
def trap (line : Nat) (name : List Char) (arguments : List (List Char)) : Act Unit := do
  let (_, words) ← takeOptions line name "" "" arguments
  setStatus 0
  match words with
  | [] =>
    let traps := (← get).traps.mergeSort fun a b => a.1 ≤ b.1
    let lines := traps.map fun (signal, action) =>
      "trap -- ".toList ++ quote action ++ ' ' :: signalName signal ++ ['\n']
    say line name lines.flatten
  | first :: rest =>
    let resets := rest.isEmpty || (trapSignal? first).isSome || first = ['-']
    let signals := if resets && first ≠ ['-'] then words else rest
    for word in signals do
      match trapSignal? word with
      | none => do
        let _ ← writeTo 2 ("trap: ".toList ++ word ++ ": bad trap\n".toList)
        setStatus 1
        return
      | some signal =>
        modify fun s =>
          let others := s.traps.filter (·.1 ≠ signal)
          { s with traps := if resets then others else (signal, first) :: others }

/-- How `kill` is used. -/
def killUsage : List Char :=
  ("Usage: kill [-s sigspec | -signum | -sigspec] [pid | job]... or\n" ++
    "kill -l [exitstatus]").toList

/-- Sends a signal to the shell itself.  One with a trap waits for it. -/
def sendSignal (signal : Nat) : Act Unit := do
  match (← get).mainTraps.lookup signal with
  | some [] => return ()
  | some _ => modify fun s => { s with pending := s.pending ++ [signal] }
  | none => if isFatal signal then throw (.killed signal)

/-- Sends a signal to processes. -/
def sendAll (line : Nat) (name : List Char) (signal : Nat) (targets : List (List Char)) :
    Act Unit := do
  setStatus 0
  targets.forM fun target => do
    let digits := if target.head? = some '-' then target.drop 1 else target
    if target = State.processNumber then sendSignal signal
    else if !digits.isEmpty && digits.all Char.isDigit then
      complainAs line name "No such process\n".toList
      setStatus 1
    else if target.head? = some '%' then failAs line name ("No such job: ".toList ++ target)
    else failAs line name ("Illegal number: ".toList ++ digits)

/-- Shows the names of signals: of all, or of the one that a status means. -/
def listSignals (line : Nat) (name : List Char) (arguments : List (List Char)) : Act Unit := do
  let nameOf := fun (signal : Nat) =>
    (if signal = 0 then ['0'] else signalName signal) ++ ['\n']
  match arguments with
  | [] => say line name ((List.range (lastSignal + 1)).flatMap nameOf)
  | argument :: _ =>
    let n ← numberArgument line name argument
    let signal := if 128 < n then n - 128 else n
    if 0 < signal && signal ≤ lastSignal then say line name (nameOf signal)
    else failAs line name ("invalid signal number or exit status: ".toList ++ argument)

/-- Sends signals, or shows their names. -/
def kill (line : Nat) (name : List Char) (arguments : List (List Char)) : Act Unit := do
  let send := fun (signal : Nat) (targets : List (List Char)) =>
    if targets.isEmpty then failAs line name killUsage else sendAll line name signal targets
  match arguments with
  | ('-' :: option) :: targets =>
    match trapSignal? option, option with
    | some signal, _ => send signal targets
    | none, 's' :: _ => do
      let (_, rest) ← takeOptions line name "l" "s" arguments
      let word := (arguments.take (arguments.length - rest.length)).getLastD []
      let word := if word.head? = some '-' then word.drop 2 else word
      match trapSignal? word with
      | some signal => send signal rest
      | none => failAs line name ("invalid signal number or name: ".toList ++ word)
    | none, _ => do
      let (letters, rest) ← takeOptions line name "l" "s" arguments
      if letters.isEmpty then send 15 rest else listSignals line name rest
  | targets => send 15 targets

/-! ## Section 6: Ways out -/

/-- Leaves loops, or goes on with them. -/
def leave (line : Nat) (name : List Char) (loops : Nat) (arguments : List (List Char))
    (stop : Nat → Stop) : Act Unit := do
  let count ← match arguments with
    | [] => pure 1
    | argument :: _ => do
      let n ← numberArgument line name argument
      if n = 0 then failAs line name ("Illegal number: ".toList ++ argument) else pure n
  setStatus 0
  if 0 < min count loops then throw (stop (min count loops))

/-- Ends the program or a function, with a status if one is given. -/
def finish (line : Nat) (name : List Char) (arguments : List (List Char)) (stop : Stop) :
    Act Unit := do
  if let argument :: _ := arguments then
    let status ← numberArgument line name argument
    setStatus status
    if stop = .exited then modify fun s => { s with ending := some status }
  throw stop

/-- Drops arguments of the program. -/
def shift (line : Nat) (name : List Char) (arguments : List (List Char)) : Act Unit := do
  let count ← match arguments with
    | [] => pure 1
    | argument :: _ => numberArgument line name argument
  if (← get).arguments.length < count then failAs line name "can't shift that many".toList
  modify fun s => { s with arguments := s.arguments.drop count }
  setStatus 0

/-- Waits for processes; there are none. -/
def wait (line : Nat) (name : List Char) (arguments : List (List Char)) : Act Unit := do
  let (_, words) ← takeOptions line name "" "" arguments
  setStatus 0
  words.forM fun word => do
    if word.head? = some '%' then failAs line name ("No such job: ".toList ++ word)
    let _ ← numberArgument line name word
    setStatus 127

/-! ## Section 7: Names -/

/-- The commands that this module or the running of programs knows. -/
def names : List String :=
  [".", ":", "[", "break", "cd", "chdir", "command", "continue", "echo", "eval", "exec", "exit",
    "export", "false", "hash", "kill", "local", "printf", "pwd", "read", "readonly", "return",
    "set", "shift", "test", "trap", "true", "type", "umask", "unset", "wait"]

/-- The commands whose arguments can be assignments. -/
def assigningNames : List String :=
  ["export", "local", "readonly"]

/-- Is the command one that is not run in other ways than by its name? -/
def simple? (loops : Nat) (name : String) :
    Option (Nat → List Char → List (List Char) → Act Unit) :=
  match name with
  | ":" | "true" => some fun _ _ _ => setStatus 0
  | "wait" => some wait
  | "false" => some fun _ _ _ => setStatus 1
  | "echo" => some fun line name arguments => say line name (echo arguments)
  | "printf" => some print
  | "test" | "[" => some test
  | "export" => some fun line name => mark line name true
  | "readonly" => some fun line name => mark line name false
  | "local" => some makeLocal
  | "unset" => some unset
  | "read" => some read
  | "pwd" => some showHere
  | "cd" | "chdir" => some goTo
  | "set" => some set
  | "trap" => some trap
  | "kill" => some kill
  | "shift" => some shift
  | "umask" => some umask
  | "break" => some fun line name arguments => leave line name loops arguments .left
  | "continue" => some fun line name arguments => leave line name loops arguments .continued
  | "return" => some fun line name arguments => finish line name arguments .returned
  | "exit" => some fun line name arguments => finish line name arguments .exited
  | _ => none

end DenoBridge.Shell.Builtin
