import DenoBridge.Shell.Cat
import DenoBridge.Shell.Launch
import DenoBridge.Shell.Redirection

/-! # Running shell programs

    Commands are run one after the other on the state of the shell.  Every
    function takes a bound for the depth of its work; a program that needs more
    simply stops.
-/

namespace DenoBridge.Shell

/-! ## Section 1: Surroundings -/

/-- Where commands are run. -/
structure Context where
  documents : Documents
  /-- The line of the command. -/
  line : Nat
  /-- The line that is read next. -/
  next : Nat
  /-- What stands before messages: the command that runs other ones. -/
  speaker : List Char
  /-- Does a command around this one look at its status? -/
  isTested : Bool
  /-- So many loops stand around the command. -/
  loops : Nat

/-- Where a program starts. -/
def Context.start : Context :=
  ⟨[], 1, 1, [], false, 0⟩

/-- Writes a message about the command that is run. -/
def Context.complain (ctx : Context) (message : List Char) : Act Unit :=
  Shell.complain ctx.line (ctx.speaker ++ message)

/-- Writes a message about the command that is run, and stops. -/
def Context.fail (ctx : Context) (message : List Char) : Act α :=
  Shell.fail ctx.line (ctx.speaker ++ message)

/-- Is the status of the command looked at when failures end the shell? -/
def Command.isChecked : Command → Bool
  | .simple _ _ _ _ | .piped _ | .isolated _ _ _ => true
  | _ => false

/-- One round of a loop; says whether there can be another one. -/
def round (work : Act Unit) : Act Bool := do
  match ← attempt work with
  | .ok _ => return true
  | .error (.left loops) => if loops ≤ 1 then return false else throw (.left (loops - 1))
  | .error (.continued loops) => if loops ≤ 1 then return true else throw (.continued (loops - 1))
  | .error stop => throw stop

/-- Work that a message about what cannot be done does not stop.  Says whether
    there was none. -/
def tolerant (work : Act Unit) : Act Bool := do
  match ← attempt work with
  | .ok _ => return true
  | .error .failed => return false
  | .error stop => throw stop

/-- The number of functions that can be run within one another. -/
def functionLimit : Nat := 1000

/-! ## Section 2: Parameters -/

/-- The text of a parameter, if it has one. -/
def State.text? (s : State) (name : List Char) : Option (List Char) :=
  if name = ['@'] then some (Text.joinPieces [' '] s.arguments)
  else if name = ['*'] then some (Text.joinPieces (s.separators.take 1) s.arguments)
  else s.parameter? name

/-- The atoms of the value of a parameter. -/
def State.valueAtoms (s : State) (isQuoted : Bool) (name : List Char) : List Atom :=
  if name = ['@'] || (name = ['*'] && !isQuoted) then argumentAtoms isQuoted s.arguments
  else atomsOf isQuoted ((s.text? name).getD [])

/-- The value of a parameter that cannot go without one if options say so. -/
def Context.valueOf (ctx : Context) (name : List Char) : Act (List Char) := do
  let s ← get
  match s.text? name with
  | some text => return text
  | none =>
    if s.options.requiresValues then ctx.fail (name ++ ": parameter not set".toList)
    else return []

/-- Replaces an expression by its value. -/
def Context.calculate (ctx : Context) (source : List Char) : Act (List Char) := do
  match Arithmetic.calculate (← get).value? source with
  | .error fault => ctx.fail fault.message
  | .ok (n, given) => do
    given.reverse.forM fun (name, value) =>
      setVariable ctx.line ctx.speaker name (toString value).toList
    return (toString n).toList

/-! ## Section 3: Kinds of commands -/

/-- What runs a simple command. -/
inductive Kind where
  /-- There is no command; only assignments and redirections. -/
  | nothing
  /-- A command of the shell after which assignments remain and which must not
      fail. -/
  | special
  | function (found : Function)
  | regular
  | program

/-- What runs the command with these words.  Behind `command` no function is
    meant. -/
def State.kind (s : State) : List (List Char) → Kind
  | [] => .nothing
  | name :: _ =>
    let text := String.ofList name
    if specialNames.contains text then .special
    else
      match s.functions.lookup name with
      | some found => .function found
      | none => if Builtin.names.contains text then .regular else .program

/-- How the words behind `command` are described, if the letters of its options
    ask for that: in short or as sentences. -/
def description? (letters : List Char) : Option Bool :=
  if letters.contains 'V' then some false
  else if letters.contains 'v' then some true
  else none

/-- The words of the command that is run in the end. -/
def innerWords : List (List Char) → List (List Char)
  | [] => []
  | word :: more => if word = "command".toList then innerWords more else word :: more

/-- Writes what words stand for as commands. -/
def describeAll (ctx : Context) (name : List Char) (isShort : Bool) (words : List (List Char)) :
    Act Unit := do
  let s ← get
  let meanings := words.map fun word => (word, s.meaning? word)
  let text := meanings.flatMap fun (word, meaning) => describe word meaning isShort
  Builtin.say ctx.line name text
  if meanings.any (·.2.isNone) then setStatus 127

/-- Shows a command that is about to be run. -/
def trace (streams : Streams) (assignments : List (List Char × List Char))
    (words : List (List Char)) : Act Unit := do
  let s ← get
  if s.options.traces then
    let pairs := assignments.map fun (name, value) => name ++ '=' :: value
    let sign := (s.value? "PS4".toList).getD []
    let text := sign ++ Text.joinPieces [' '] (pairs ++ words) ++ ['\n']
    match streams.lookup 2 with
    | some channel => modify fun s => s.write channel (toBytes text)
    | none => return ()

/-! ## Section 4: Commands -/

mutual

/-- The atoms of a word.  Where the word is part of a larger one, its plain text
    may separate fields. -/
def expand : Nat → Context → Bool → Word → Act (List Atom)
  | 0, _, _, _ => throw .ended
  | _, _, _, [] => return []
  | fuel + 1, ctx, isInside, part :: more => do
    let atoms ← match part with
      | .plain text => pure (text.map fun c => Atom.letter ⟨c, false⟩ isInside)
      | .quoted text => pure (atomsOf true text)
      | .parameter name operation word isQuoted =>
        expandParameter fuel ctx name operation word isQuoted
      | .output body isQuoted => do
        pure (atomsOf isQuoted (Text.dropTail (· == '\n') (← outputOf fuel ctx body)))
      | .arithmetic word isQuoted => do
        let source := textOf (lettersOf (← expand fuel ctx false word))
        pure (atomsOf isQuoted (← ctx.calculate source))
    return atoms ++ (← expand fuel ctx isInside more)

/-- The atoms of what is made of a parameter. -/
def expandParameter : Nat → Context → List Char → Operation → Word → Bool → Act (List Atom)
  | 0, _, _, _, _, _ => throw .ended
  | fuel + 1, ctx, name, operation, word, isQuoted => do
    let s ← get
    let found := fun (nonempty : Bool) => (s.text? name).any fun text => !nonempty || text ≠ []
    let word := if isQuoted then word else expandTildes s false 1 word
    match operation with
    | .value => do
      let _ ← ctx.valueOf name
      return s.valueAtoms isQuoted name
    | .length => return atomsOf isQuoted (toString (← ctx.valueOf name).length).toList
    | .default nonempty =>
      if found nonempty then return s.valueAtoms isQuoted name
      else expand fuel ctx (!isQuoted) word
    | .alternative nonempty =>
      if found nonempty then expand fuel ctx (!isQuoted) word
      else return []
    | .assign nonempty =>
      if found nonempty then return s.valueAtoms isQuoted name
      else do
        let text := textOf (lettersOf (← expand fuel ctx false word))
        setVariable ctx.line ctx.speaker name text
        return atomsOf isQuoted text
    | .require nonempty =>
      if found nonempty then return s.valueAtoms isQuoted name
      else do
        let text := textOf (lettersOf (← expand fuel ctx false word))
        let standard := "parameter not set" ++ if nonempty then " or null" else ""
        ctx.fail (name ++ ": ".toList ++ if word.isEmpty then standard.toList else text)
    | .dropStart longest => do
      let text ← ctx.valueOf name
      let pattern := lettersOf (← expand fuel ctx false word)
      return atomsOf isQuoted (dropStart longest pattern text)
    | .dropEnd longest => do
      let text ← ctx.valueOf name
      let pattern := lettersOf (← expand fuel ctx false word)
      return atomsOf isQuoted (dropEnd longest pattern text)
    | .unknown => ctx.fail "Bad substitution".toList

/-- The text of an expanded word that is not split. -/
def expandText : Nat → Context → Bool → Word → Act (List Char)
  | 0, _, _, _ => throw .ended
  | fuel + 1, ctx, isAssignment, word => do
    let word := expandTildes (← get) isAssignment (word.length + 1) word
    return textOf (lettersOf (← expand fuel ctx false word))

/-- The fields of words. -/
def expandFields : Nat → Context → List Word → Act (List (List Char))
  | 0, _, _ => throw .ended
  | _, _, [] => return []
  | fuel + 1, ctx, word :: more => do
    let atoms ← expand fuel ctx false (expandTildes (← get) false 1 word)
    let fields := fieldsOf (← get) atoms
    return fields ++ (← expandFields fuel ctx more)

/-- The words of a command.  Behind commands that take assignments, these are not
    split. -/
def expandWords : Nat → Context → List Word → Act (List (List Char))
  | 0, _, _ => throw .ended
  | _, _, [] => return []
  | fuel + 1, ctx, word :: more => do
    match ← expandFields fuel ctx [word] with
    | [] => expandWords fuel ctx more
    | name :: others => do
      let text := String.ofList name
      let isPassed := others.isEmpty && (text = "command" || name.head? = some '-')
      let rest ←
        if isPassed then expandWords fuel ctx more
        else if others.isEmpty && Builtin.assigningNames.contains text then
          expandAssigning fuel ctx more
        else expandFields fuel ctx more
      return name :: others ++ rest

/-- The words behind a command that takes assignments. -/
def expandAssigning : Nat → Context → List Word → Act (List (List Char))
  | 0, _, _ => throw .ended
  | _, _, [] => return []
  | fuel + 1, ctx, word :: more => do
    let fields ← match assignment? word with
      | some (name, value) => do pure [name ++ '=' :: (← expandText fuel ctx true value)]
      | none => expandFields fuel ctx [word]
    return fields ++ (← expandAssigning fuel ctx more)

/-- The output of commands that are run in a shell of their own, without NULs. -/
def outputOf : Nat → Context → List Command → Act (List Char)
  | 0, _, _ => throw .ended
  | _, _, [] => return []
  | fuel + 1, ctx, body => do
    let (channel, s) := (← get).openPipe []
    set s
    let status ← isolate fuel { ctx with isTested := false } (·.lead 1 (some channel)) [] body
    let bytes := (← get).held channel
    modify fun s => { s.dropPipe channel with substituted := status }
    return (ofBytes bytes).filter (· ≠ '\x00')

/-- The redirections of a command, with their targets. -/
def expandRedirects : Nat → Context → List Redirect → Act (List Opening)
  | 0, _, _ => throw .ended
  | _, _, [] => return []
  | fuel + 1, ctx, redirect :: more => do
    let opening ← match redirect with
      | .target stream direction word => do
        let text ← expandText fuel ctx false word
        let isStream := text = ['-'] || (text.length = 1 && text.all Char.isDigit)
        if direction = .duplicate && !isStream then
          Context.fail { ctx with line := ctx.next } "Syntax error: Bad fd number".toList
        pure (Opening.target stream direction text)
      | .document stream number => pure (.document stream ((ctx.documents.lookup number).getD []))
    return opening :: (← expandRedirects fuel ctx more)

/-- Makes redirections.  Documents are expanded only now. -/
def openAll : Nat → Context → List Opening → Act Unit
  | 0, _, _ => throw .ended
  | _, _, [] => return ()
  | fuel + 1, ctx, opening :: more => do
    match opening with
    | .target stream direction text => leadTo ctx.line ctx.speaker stream direction text
    | .document stream word =>
      leadToText stream (textOf (lettersOf (← expand fuel ctx false word)))
    openAll fuel ctx more

/-- Makes the redirections of a command and runs it.  The streams are put back
    after it unless they are to be kept.  Says whether the redirections were
    made. -/
def redirected : Nat → Context → List Opening → Bool → Act Unit → Act Bool
  | 0, _, _, _, _ => throw .ended
  | fuel + 1, ctx, openings, keeps, work => do
    let streams := (← get).streams
    if ← tolerant (openAll fuel ctx openings) then
      let result ← attempt work
      if !keeps then modify fun s => { s with streams := streams }
      match result with
      | .ok _ => return true
      | .error stop => throw stop
    else
      modify fun s => { s with streams := streams }
      return false

/-- Runs commands in a shell within the current one, and gives its status. -/
def isolate : Nat → Context → (State → State) → List Opening → List Command → Act Nat
  | 0, _, _, _, _ => throw .ended
  | fuel + 1, ctx, prepare, openings, body =>
    inside do
      modify prepare
      let result ← attempt do
        openAll fuel ctx openings
        runList fuel ctx body
      endShell fuel ctx result
      return (← get).status % 256

/-- Ends a shell: its trap for the end is served. -/
def endShell : Nat → Context → Except Stop Unit → Act Unit
  | 0, _, _ => throw .ended
  | fuel + 1, ctx, result => do
    match result with
    | .error (.killed signal) => throw (.killed signal)
    | result => do
      let s ← get
      let isExit := match result with | .error .exited => true | _ => false
      let status := if isExit then s.ending.getD s.status else s.status
      let traps := s.traps.filter (·.1 ≠ 0)
      set { s with status := status, ending := some status, traps := traps }
      match s.traps.lookup 0 with
      | none => return ()
      | some action =>
        match ← attempt (perform fuel { ctx with isTested := false } (program action)) with
        | .error (.killed signal) => throw (.killed signal)
        | .error .failed | .error .ended => return ()
        | _ => modify fun s => { s with status := s.ending.getD s.status }

/-- Runs a program, line by line. -/
def perform : Nat → Context → Program → Act Unit
  | 0, _, _ => throw .ended
  | fuel + 1, ctx, ⟨lines, fault⟩ => do
    match lines with
    | line :: more => do
      if !(← get).options.onlyReads then
        runList fuel { ctx with documents := line.documents, next := line.next } line.commands
      perform fuel ctx ⟨more, fault⟩
    | [] =>
      match fault with
      | some fault => Shell.fail fault.line (ctx.speaker ++ fault.message.toList)
      | none => return ()

/-- Runs a text as commands.  Without commands its status is zero. -/
def performText : Nat → Context → List Char → Act Unit
  | 0, _, _ => throw .ended
  | fuel + 1, ctx, text => do
    let found := program text
    perform fuel ctx found
    if found.lines.all (·.commands.isEmpty) then setStatus 0

/-- Serves the traps of the signals that came.  The status stays as it was. -/
def serve : Nat → Context → Act Unit
  | 0, _ => throw .ended
  | fuel + 1, ctx => do
    let s ← get
    if s.outerTraps.isNone && !s.pending.isEmpty then
      let waiting := (s.pending.mergeSort (· ≤ ·)).eraseDups
      let ending := s.ending.getD s.status
      set { s with pending := [], ending := some ending }
      waiting.forM fun signal => do
        match (← get).traps.lookup signal with
        | none => return ()
        | some action => do
          perform fuel { ctx with isTested := false } (program action)
          setStatus s.status
      modify fun now => { now with ending := s.ending }

/-- Runs commands one after the other. -/
def runList : Nat → Context → List Command → Act Unit
  | 0, _, _ => throw .ended
  | _, _, [] => return ()
  | fuel + 1, ctx, command :: more => do
    run fuel ctx command
    runList fuel ctx more

/-- Runs a command, and what waits for its end. -/
def run : Nat → Context → Command → Act Unit
  | 0, _, _ => throw .ended
  | fuel + 1, ctx, command => do
    runAlone fuel ctx command
    serve fuel ctx
    let s ← get
    if command.isChecked && !ctx.isTested && s.options.stopsOnFailure && s.status ≠ 0 then
      throw .ended

/-- Runs a command. -/
def runAlone : Nat → Context → Command → Act Unit
  | 0, _, _ => throw .ended
  | fuel + 1, ctx, command => do
    let tested := { ctx with isTested := true }
    match command with
    | .simple line assignments words redirects =>
      runSimple fuel { ctx with line := line } assignments words redirects
    | .piped commands => runPipe fuel ctx none commands
    | .both first second => do
      run fuel tested first
      if (← get).status = 0 then run fuel ctx second
    | .either first second => do
      run fuel tested first
      if (← get).status ≠ 0 then run fuel ctx second
    | .negated command => do
      run fuel tested command
      modify fun s => { s with status := if s.status = 0 then 1 else 0 }
    | .detached command => do
      let _ ← isolate fuel { ctx with isTested := false } (·.lead 0 (some .nowhere)) [] [command]
      setStatus 0
    | .conditional branches otherwise => runBranches fuel ctx branches otherwise
    | .loop line name words body => do
      let ctx := { ctx with line := line }
      let fields ← expandFields fuel ctx words
      if fields.isEmpty then setStatus 0
      runLoop fuel { ctx with loops := ctx.loops + 1 } name fields body
    | .repeated wanted condition body =>
      runRepeated fuel { ctx with loops := ctx.loops + 1 } wanted condition body 0
    | .choice line word branches => do
      let ctx := { ctx with line := line }
      let text ← expandText fuel ctx false word
      runChoice fuel ctx text branches
    | .group body => runList fuel ctx body
    | .isolated line body redirects => do
      let ctx := { ctx with line := line }
      let openings ← expandRedirects fuel ctx redirects
      setStatus (← isolate fuel ctx id openings body)
    | .redirected line command redirects => do
      let ctx := { ctx with line := line }
      let openings ← expandRedirects fuel ctx redirects
      let _ ← redirected fuel ctx openings false (run fuel ctx command)
    | .function name body => do
      let found : Function := ⟨body, ctx.documents⟩
      modify fun s =>
        { s with functions := (name, found) :: s.functions.filter (·.1 ≠ name), status := 0 }

/-- Runs commands each of which is given the output of the one before it. -/
def runPipe : Nat → Context → Option Channel → List Command → Act Unit
  | 0, _, _, _ => throw .ended
  | _, _, _, [] => return ()
  | fuel + 1, ctx, source, command :: more => do
    let lead := fun (s : State) =>
      match source with
      | some channel => s.lead 0 (some channel)
      | none => s
    if more.isEmpty then setStatus (← isolate fuel ctx lead [] [command])
    else do
      let (channel, s) := (← get).openPipe []
      set s
      let _ ← isolate fuel ctx (fun s => (lead s).lead 1 (some channel)) [] [command]
      runPipe fuel ctx (some channel) more

/-- Runs the first branch whose test holds. -/
def runBranches : Nat → Context → List (List Command × List Command) → List Command → Act Unit
  | 0, _, _, _ => throw .ended
  | fuel + 1, ctx, [], otherwise =>
    if otherwise.isEmpty then setStatus 0 else runList fuel ctx otherwise
  | fuel + 1, ctx, (test, body) :: more, otherwise => do
    runList fuel { ctx with isTested := true } test
    if (← get).status = 0 then runList fuel ctx body
    else runBranches fuel ctx more otherwise

/-- Runs commands once for each field. -/
def runLoop : Nat → Context → List Char → List (List Char) → List Command → Act Unit
  | 0, _, _, _, _ => throw .ended
  | _, _, _, [], _ => return ()
  | fuel + 1, ctx, name, field :: more, body => do
    setVariable ctx.line ctx.speaker name field
    if ← round (runList fuel ctx body) then runLoop fuel ctx name more body

/-- Runs commands as long as a condition holds, or fails.  `status` is that of
    the last round. -/
def runRepeated : Nat → Context → Bool → List Command → List Command → Nat → Act Unit
  | 0, _, _, _, _, _ => throw .ended
  | fuel + 1, ctx, wanted, condition, body, status => do
    match ← attempt (runList fuel { ctx with isTested := true } condition) with
    | .ok _ =>
      if ((← get).status == 0) != wanted then setStatus status
      else if ← round (runList fuel ctx body) then
        runRepeated fuel ctx wanted condition body (← get).status
    | .error stop =>
      if ← round (throw stop) then runRepeated fuel ctx wanted condition body status
      else setStatus status

/-- Runs the first branch with a pattern that matches. -/
def runChoice : Nat → Context → List Char → List (List Word × List Command) → Act Unit
  | 0, _, _, _ => throw .ended
  | _, _, _, [] => setStatus 0
  | fuel + 1, ctx, text, (patterns, body) :: more => do
    if ← matchesAny fuel ctx text patterns then
      if body.isEmpty then setStatus 0 else runList fuel ctx body
    else runChoice fuel ctx text more

/-- Does a text match one of the patterns? -/
def matchesAny : Nat → Context → List Char → List Word → Act Bool
  | 0, _, _, _ => throw .ended
  | _, _, _, [] => return false
  | fuel + 1, ctx, text, pattern :: more => do
    let pattern ← expand fuel ctx false (expandTildes (← get) false 1 pattern)
    if matchesAll (lettersOf pattern) text then return true
    else matchesAny fuel ctx text more

/-- Makes assignments and gives their values.  Those for a program are exported;
    with `keeps` they are there for good. -/
def assignAll : Nat → Context → Bool → Bool → List Assignment → Act (List (List Char × List Char))
  | 0, _, _, _, _ => throw .ended
  | _, _, _, _, [] => return []
  | fuel + 1, ctx, keeps, exports, (name, word) :: more => do
    let value ← expandText fuel ctx true word
    setVariable ctx.line ctx.speaker name value
    if exports || !keeps then
      modify fun s => s.putVariable name ⟨some value, true, false⟩
    return (name, value) :: (← assignAll fuel ctx keeps exports more)

/-- Runs a simple command. -/
def runSimple : Nat → Context → List Assignment → List Word → List Redirect → Act Unit
  | 0, _, _, _, _ => throw .ended
  | fuel + 1, ctx, assignments, words, redirects => do
    modify fun s => { s with substituted := 0 }
    let fields ← expandWords fuel ctx words
    let openings ← expandRedirects fuel ctx redirects
    let s ← get
    let kind := s.kind fields
    let isSpecial := match kind with | .special => true | _ => false
    let keeps := match kind with | .special | .nothing => true | _ => false
    let isExec := (innerWords fields).head? = some "exec".toList
    let before := assignments.map fun (name, _) => (name, s.vars.lookup name)
    let work : Act Unit := do
      let isReplaced := isExec && 1 < fields.length
      trace s.streams (← assignAll fuel ctx keeps isReplaced assignments) fields
      match fields with
      | [] => modify fun s => { s with status := s.substituted }
      | name :: arguments => runKind fuel ctx kind name arguments
    let restore : Act Unit :=
      if keeps then return ()
      else modify fun s => before.reverse.foldl (fun s (name, old) => s.restore name old) s
    match ← attempt (redirected fuel ctx openings isExec work) with
    | .ok made => do
      restore
      if !made && isSpecial then throw .failed
    | .error stop => do
      restore
      throw stop

/-- Runs a command of a kind by its name. -/
def runKind : Nat → Context → Kind → List Char → List (List Char) → Act Unit
  | 0, _, _, _, _ => throw .ended
  | fuel + 1, ctx, kind, name, arguments => do
    match kind with
    | .nothing => return ()
    | .special => runBuiltin fuel ctx name arguments
    | .regular => do
      let _ ← tolerant (runBuiltin fuel ctx name arguments)
    | .program => runProgram fuel ctx (name :: arguments)
    | .function found => runFunction fuel ctx found arguments

/-- Runs a function. -/
def runFunction : Nat → Context → Function → List (List Char) → Act Unit
  | 0, _, _, _ => throw .ended
  | fuel + 1, ctx, found, arguments => do
    let before ← get
    if functionLimit ≤ before.frames.length then
      ctx.fail "Maximum function recursion depth (1000) reached".toList
    set { before with arguments := arguments, frames := ⟨[], none⟩ :: before.frames }
    let inner := { ctx with documents := found.documents, loops := 0 }
    let result ← attempt (run fuel inner found.body)
    modify fun s =>
      let s := s.leaveFrame (s.frames.headD ⟨[], none⟩)
      { s with arguments := before.arguments, frames := before.frames }
    match result with
    | .ok _ | .error .returned => return ()
    | .error stop => throw stop

/-- Runs a command of the shell itself. -/
def runBuiltin : Nat → Context → List Char → List (List Char) → Act Unit
  | 0, _, _, _ => throw .ended
  | fuel + 1, ctx, name, arguments => do
    match String.ofList name with
    | "eval" =>
      performText fuel { ctx with speaker := "eval: ".toList } (Text.joinPieces [' '] arguments)
    | "." =>
      match arguments with
      | [] => setStatus 0
      | _ => do
        let (_, operands) ← Builtin.takeOptions ctx.line name "" "" arguments
        match operands with
        | [] => setStatus 0
        | file :: _ => readScript fuel ctx file
    | "exec" =>
      if arguments.isEmpty then setStatus 0
      else becomeProgram fuel ctx arguments
    | "command" => do
      let (letters, words) ← Builtin.takeOptions ctx.line name "pvV" "" arguments
      match words, description? letters with
      | [], _ => setStatus 0
      | words, some isShort => describeAll ctx name isShort (words.take 1)
      | name :: arguments, none =>
        if Builtin.names.contains (String.ofList name) then runBuiltin fuel ctx name arguments
        else runProgram fuel ctx (name :: arguments)
    | "hash" => do
      let (_, names) ← Builtin.takeOptions ctx.line name "r" "" arguments
      setStatus 0
      for found in names do
        if ((← get).meaning? found).isNone then
          Builtin.complainAs ctx.line name (found ++ ": not found".toList)
          setStatus 1
    | "type" => describeAll ctx name false arguments
    | text =>
      match Builtin.simple? ctx.loops text with
      | some act => act ctx.line name arguments
      | none => ctx.complain (name ++ ": not found".toList)

/-- Reads the commands in a file. -/
def readScript : Nat → Context → List Char → Act Unit
  | 0, _, _ => throw .ended
  | fuel + 1, ctx, file => do
    let s ← get
    match s.script? file with
    | none => Builtin.failAs ctx.line ['.'] (file ++ ": not found".toList)
    | some path =>
      match s.scriptBytes path with
      | .error cause => Builtin.failAs ctx.line ['.'] (openComplaint .input path cause)
      | .ok bytes => do
        let ctx := { ctx with speaker := path ++ ": ".toList }
        match ← attempt (performText fuel ctx (ofBytes bytes)) with
        | .ok _ | .error .returned => return ()
        | .error stop => throw stop

/-- Starts a program that is not the shell's own, and tells how it ended, if it
    could be started. -/
def start : Nat → Context → List (List Char) → Act (Option Ending)
  | 0, _, _ => throw .ended
  | fuel + 1, ctx, words => do
    match (← get).program words with
    | .error (complaint, status) => do
      ctx.complain (words.headD [] ++ ": ".toList ++ complaint)
      setStatus status
      return none
    | .ok (tool, words) =>
      match ← attempt (apart do runTool fuel tool words; return (← get).status % 256) with
      | .ok status => return some (.exited status)
      | .error (.killed signal) => return some (.killed signal)
      | .error stop => throw stop

/-- Runs a program and waits for its end. -/
def runProgram : Nat → Context → List (List Char) → Act Unit
  | 0, _, _ => throw .ended
  | fuel + 1, ctx, words => do
    match ← start fuel ctx words with
    | none => return ()
    | some (.exited status) => setStatus status
    | some (.killed signal) => do
      if let some text := signalText? signal then
        let _ ← writeTo 2 (text.toList ++ ['\n'])
      setStatus (128 + signal)

/-- Runs a program in place of the shell. -/
def becomeProgram : Nat → Context → List (List Char) → Act Unit
  | 0, _, _ => throw .ended
  | fuel + 1, ctx, words => do
    match ← start fuel { ctx with speaker := ctx.speaker ++ "exec: ".toList } words with
    | none => throw .ended
    | some (.exited status) => do
      modify fun s => { s with status := status, traps := [] }
      throw .ended
    | some (.killed signal) => throw (.killed signal)

/-- Does the work of a program of the system. -/
def runTool : Nat → Tool → List (List Char) → Act Unit
  | 0, _, _ => throw .ended
  | _ + 1, .cat, words => cat words
  | fuel + 1, .shell, words => do
    modify fun s => { s with name := words.headD [] }
    let result ← attempt (runShell fuel (words.drop 1))
    endShell fuel .start result

/-- Runs the shell on its own arguments: a program behind `-c`, a file, or the
    input. -/
def runShell : Nat → List (List Char) → Act Unit
  | 0, _ => throw .ended
  | fuel + 1, words => do
    let s ← get
    match Builtin.switchAll true (words.length + 1) ⟨s.options, false, false, false, words⟩ with
    | .error complaint => Shell.fail 0 complaint
    | .ok w => do
      set { s with options := w.options }
      if w.isText then
        match w.rest with
        | [] => Shell.fail 0 "-c requires an argument".toList
        | source :: rest => do
          modify fun s => { s with name := rest.headD s.name, arguments := rest.drop 1 }
          performText fuel .start source
      else if w.isInput || w.rest.isEmpty then
        match s.channel? 0 with
        | none => return ()
        | some channel => do
          let bytes := s.held channel
          modify fun s => { s.take channel bytes.length with arguments := w.rest }
          performText fuel .start (ofBytes bytes)
      else
        let path := w.rest.headD []
        match s.scriptBytes path with
        | .error cause => Shell.fail 0 (openComplaint .input path cause)
        | .ok bytes => do
          modify fun s => { s with name := path, arguments := w.rest.drop 1 }
          performText fuel .start (ofBytes bytes)

end

/-! ## Section 5: Children -/

/-- The bound for the depth of a program's work. -/
def workLimit : Nat := 60000

/-- The state in which a child starts. -/
def startState (launch : Launch) (files : FileSystem) : State where
  files := files
  directory := launch.directory
  here := []
  name := []
  arguments := []
  vars := []
  functions := []
  options := .none
  traps := []
  outerTraps := none
  pending := []
  frames := []
  mask := standardMask
  streams := standardStreams
  input := launch.input
  output := []
  errors := []
  pipes := []
  opened := []
  next := 0
  status := 0
  substituted := 0
  ending := none

/-- What a child process does, and what it leaves behind. -/
def runChild (launch : Launch) (files : FileSystem) : ChildResult × FileSystem :=
  let pairs := launch.environment.bindings.map fun (name, value) => (ofString name, ofString value)
  let start := (startState launch files).fresh pairs
  let (result, s) := (runTool workLimit launch.tool (launch.arguments.map ofString)).run.run start
  let ending :=
    match result with
    | .error (.killed signal) => Ending.killed signal
    | _ => .exited (s.status % 256)
  (⟨s.output, s.errors, ending⟩, s.files)

end DenoBridge.Shell
