import DenoBridge.Shell.Word

/-! # Reading shell programs

    The text of a program is cut into tokens, and these are put together to
    commands, line by line.  The documents that a line announces stand below
    it.  A reserved word is one only where a command can begin or has to
    end.  All functions take a bound for the number of steps, which the length
    of the text supplies.
-/

namespace DenoBridge.Shell

/-! ## Section 1: Tokens -/

/-- The words that structure programs. -/
def reservedWords : List String :=
  ["!", "\x7b", "\x7d", "case", "do", "done", "elif", "else", "esac", "fi", "for", "if", "in",
    "then", "until", "while"]

/-- The operator that begins with a character, of which some can be doubled. -/
def readOperator (c : Char) : Read Token := do
  let doubled ← if ['&', '|', ';'].contains c then takeIf c else pure false
  return .operator (String.ofList (if doubled then [c, c] else [c]))

/-- The redirection that begins with a character, of the stream with a number
    or of its own one. -/
def readRedirect (stream : Option Nat) (c : Char) : Read Token := do
  if c = '>' then
    let number := stream.getD 1
    if ← takeIf '>' then return .redirect number .append
    else if ← takeIf '&' then return .redirect number .duplicate
    else if ← takeIf '|' then return .redirect number .overwrite
    else return .redirect number .create
  else
    let number := stream.getD 0
    if ← takeIf '<' then return .document number (← takeIf '-')
    else if ← takeIf '&' then return .redirect number .duplicate
    else if ← takeIf '>' then return .redirect number .update
    else return .redirect number .input

/-- Drops a comment. -/
def skipComment : Nat → Read Unit
  | 0 => return ()
  | fuel + 1 => do
    match (← get).rest.head? with
    | none | some '\n' => return ()
    | some _ => do
      let _ ← takeRaw
      skipComment fuel

/-- The next token of the text. -/
def readToken (bodies : Bodies) : Nat → Read Token
  | 0 => return .textEnd
  | fuel + 1 => do
    match ← peek with
    | none => return .textEnd
    | some c =>
      if c = ' ' || c = '\t' then
        let _ ← takeRaw
        readToken bodies fuel
      else if c = '#' then
        skipComment (← left)
        readToken bodies fuel
      else if ['\n', '&', '|', ';', '(', ')'].contains c then
        let _ ← takeRaw
        readOperator c
      else if c = '<' || c = '>' then
        let _ ← takeRaw
        readRedirect none c
      else do
        let word ← readPlain bodies (4 * (← left)) false
        match word, ← peek with
        | [.plain [digit]], some c =>
          if digit.isDigit && (c = '<' || c = '>') then
            let _ ← takeRaw
            readRedirect (some (digit.toNat - '0'.toNat)) c
          else return .word word
        | _, _ => return .word word

/-! ## Section 2: Documents -/

/-- Reads one document that was announced. -/
def readDocument (bodies : Bodies) (announced : Announced) : Read Unit := do
  let size := 4 * (← left)
  let word ←
    if !announced.expands then
      pure [Part.quoted (← takeLines announced.mark announced.dropsTabs size)]
    else if ← takeMarkLine announced.mark announced.dropsTabs then pure []
    else readQuoted bodies size (.markLine announced.mark announced.dropsTabs)
  modify fun c => { c with documents := c.documents ++ [(announced.number, word)] }

/-- Reads the documents that were announced. -/
def readDocuments (bodies : Bodies) : Read Unit := do
  let announced := (← get).announced
  modify fun c => { c with announced := [] }
  announced.forM (readDocument bodies)

/-- Announces a document that ends with a mark, and gives its number. -/
def announce (dropsTabs : Bool) (mark : List Char) (isQuoted : Bool) : Read Nat := do
  let c ← get
  let number := c.documents.length + c.announced.length
  let announced : Announced := ⟨number, mark, dropsTabs, !isQuoted⟩
  set { c with announced := c.announced ++ [announced] }
  return number

/-! ## Section 3: Lookahead -/

/-- Puts a token back. -/
def putBack (token : Token) : Read Unit :=
  modify fun c => { c with back := some token }

/-- The next token: one that was put back, or a new one. -/
def anyToken (bodies : Bodies) : Read Token := do
  let c ← get
  match c.back with
  | some token => do
    set { c with back := none }
    return token
  | none => readToken bodies (← left)

/-- The next token that is no line end. -/
def tokenBehindLines (bodies : Bodies) : Nat → Read Token
  | 0 => return .textEnd
  | fuel + 1 => do
    match ← anyToken bodies with
    | .operator "\n" => do
      readDocuments bodies
      tokenBehindLines bodies fuel
    | token => return token

/-- A token as it is where reserved words count. -/
def Token.reserve (token : Token) : Token :=
  match token with
  | .word parts =>
    match (plainWord? parts).map String.ofList with
    | some text => if reservedWords.contains text then .reserved text else token
    | none => token
  | token => token

/-- The next token where reserved words count. -/
def keyToken (bodies : Bodies) : Read Token := do
  return (← anyToken bodies).reserve

/-- The next token that is no line end, where reserved words count. -/
def keyTokenBehindLines (bodies : Bodies) : Read Token := do
  return (← tokenBehindLines bodies ((← left) + 1)).reserve

/-- Is the token this reserved word? -/
def Token.isReserved (token : Token) (text : String) : Bool :=
  match token with
  | .reserved found => found == text
  | _ => false

/-- Takes a reserved word that has to stand here. -/
def requireReserved (bodies : Bodies) (text : String) : Read Unit := do
  let token ← anyToken bodies
  if !token.isReserved text then unexpectedFor token (.reserved text)

/-- Can the token end commands that stand in other ones? -/
def Token.endsCommands : Token → Bool
  | .textEnd | .operator ")" | .operator ";;" => true
  | .reserved text => ["do", "done", "elif", "else", "esac", "fi", "then", "\x7d"].contains text
  | _ => false

/-! ## Section 4: Simple commands -/

/-- The commands of the shell that no function can replace. -/
def specialNames : List String :=
  [".", ":", "break", "continue", "eval", "exec", "exit", "export", "local", "readonly", "return",
    "set", "shift", "times", "trap", "unset"]

/-- The parts of a simple command. -/
structure Simple where
  assignments : List Assignment
  words : List Word
  redirects : List Redirect

/-- The target of a redirection, or the document that it announces. -/
def readTarget (bodies : Bodies) (token : Token) : Read Redirect := do
  match token with
  | .document stream dropsTabs => do
    let _ ← takeAll (fun c => c == ' ' || c == '\t') (← left)
    if (← peek).any (!endsWord ·) then
      let (mark, isQuoted) ← readMark (2 * (← left)) false
      return .document stream (← announce dropsTabs mark isQuoted)
    else unexpected (← anyToken bodies)
  | .redirect stream direction =>
    match ← anyToken bodies with
    | .word word => return .target stream direction word
    | other => unexpected other
  | other => unexpected other

/-- Redirections, as many as there are, from their first token on. -/
def readRedirects (bodies : Bodies) : Nat → Token → Read (List Redirect)
  | 0, _ => return []
  | fuel + 1, token => do
    match token with
    | .redirect _ _ | .document _ _ => do
      let redirect ← readTarget bodies token
      return redirect :: (← readRedirects bodies fuel (← anyToken bodies))
    | token => do
      putBack token
      return []

/-- Reads a simple command word by word, up to a token that is none of it.
    The answer says whether an opening bracket makes it a function. -/
def readSimple (bodies : Bodies) : Nat → Simple → Read (Simple × Bool)
  | 0, simple => return (simple, false)
  | fuel + 1, simple => do
    match ← anyToken bodies with
    | .word word =>
      match if simple.words.isEmpty then assignment? word else none with
      | some found =>
        readSimple bodies fuel { simple with assignments := simple.assignments ++ [found] }
      | none => readSimple bodies fuel { simple with words := simple.words ++ [word] }
    | .reserved text =>
      readSimple bodies fuel { simple with words := simple.words ++ [[.plain text.toList]] }
    | .operator "(" =>
      if simple.words.length = 1 && simple.assignments.isEmpty && simple.redirects.isEmpty then
        return (simple, true)
      else do
        putBack (.operator "(")
        return (simple, false)
    | token =>
      match token with
      | .redirect _ _ | .document _ _ => do
        let redirect ← readTarget bodies token
        readSimple bodies fuel { simple with redirects := simple.redirects ++ [redirect] }
      | token => do
        putBack token
        return (simple, false)

/-- The words of a loop, up to the end of its line. -/
def readLoopWords (bodies : Bodies) : Nat → Read (List Word)
  | 0 => return []
  | fuel + 1 => do
    match ← anyToken bodies with
    | .word word => return word :: (← readLoopWords bodies fuel)
    | .operator "\n" => do
      readDocuments bodies
      return []
    | .operator ";" => return []
    | token => unexpected token

/-- The patterns of a branch behind the first token of it. -/
def readPatterns (bodies : Bodies) : Nat → Token → Read (List Word)
  | 0, _ => return []
  | fuel + 1, token => do
    let word : Word :=
      match token with
      | .word word => word
      | .reserved text => [.plain text.toList]
      | _ => []
    match ← anyToken bodies with
    | .operator "|" => return word :: (← readPatterns bodies fuel (← anyToken bodies))
    | .operator ")" => return [word]
    | other => unexpectedFor other (.operator ")")

/-! ## Section 5: Commands -/

/-- Where commands stand. -/
inductive Setting where
  /-- In a line of the program. -/
  | line
  /-- In another command, which needs at least one. -/
  | block
  /-- In another command that needs none. -/
  | body
  deriving DecidableEq

mutual

/-- The ways to read commands in substitutions. -/
def bodiesOf : Nat → Bodies
  | 0 => ⟨return [], return []⟩
  | fuel + 1 => ⟨readBracketed fuel, readList fuel .body⟩

/-- Reads the commands of a substitution up to its closing bracket.  Documents that
    do not stand before it are empty. -/
def readBracketed : Nat → Read (List Command)
  | 0 => return []
  | fuel + 1 => do
    let announced := (← get).announced
    modify fun c => { c with announced := [] }
    let body ← readList fuel .body
    let bodies := bodiesOf fuel
    match ← anyToken bodies with
    | .operator ")" => do
      modify fun c => { c with
        announced := announced
        documents := c.documents ++ c.announced.map fun missing => (missing.number, []) }
      return body
    | token => unexpectedFor token (.operator ")")

/-- Reads commands up to what cannot be one of them. -/
def readList : Nat → Setting → Read (List Command)
  | 0, _ => return []
  | fuel + 1, setting => do
    let bodies := bodiesOf fuel
    let token ← if setting = .line then keyToken bodies else keyTokenBehindLines bodies
    match token with
    | .operator "\n" => do
      readDocuments bodies
      return []
    | .textEnd => do
      putBack .textEnd
      readDocuments bodies
      return []
    | token =>
      putBack token
      if setting = .body && token.endsCommands then return []
      let command ← readChain fuel
      let next := if setting = .block then .body else setting
      match ← anyToken bodies with
      | .operator "&" => return .detached command :: (← readList fuel next)
      | .operator ";" => return command :: (← readList fuel next)
      | .operator "\n" => do
        putBack (.operator "\n")
        return command :: (← readList fuel next)
      | .textEnd => do
        putBack .textEnd
        return command :: (← readList fuel next)
      | token =>
        if setting = .line then unexpected token
        putBack token
        return [command]

/-- Reads commands joined by `&&` and `||`. -/
def readChain : Nat → Read Command
  | 0 => return .group []
  | fuel + 1 => do
    let first ← readPipe fuel (← anyToken (bodiesOf fuel))
    readJoined fuel first

/-- Continues a chain behind its first commands. -/
def readJoined : Nat → Command → Read Command
  | 0, first => return first
  | fuel + 1, first => do
    let bodies := bodiesOf fuel
    match ← anyToken bodies with
    | .operator "&&" => do
      let second ← readPipe fuel (← keyTokenBehindLines bodies)
      readJoined fuel (.both first second)
    | .operator "||" => do
      let second ← readPipe fuel (← keyTokenBehindLines bodies)
      readJoined fuel (.either first second)
    | token => do
      putBack token
      return first

/-- Reads commands joined by `|`, from their first token on; an exclamation
    mark stands before all of them. -/
def readPipe : Nat → Token → Read Command
  | 0, _ => return .group []
  | fuel + 1, token => do
    let bodies := bodiesOf fuel
    let negates := token.isReserved "!"
    let first ← readCommand fuel (← if negates then keyToken bodies else pure token)
    let others ← readPiped fuel
    let command := if others.isEmpty then first else .piped (first :: others)
    return if negates then .negated command else command

/-- Continues a pipe behind its first command. -/
def readPiped : Nat → Read (List Command)
  | 0 => return []
  | fuel + 1 => do
    let bodies := bodiesOf fuel
    match ← anyToken bodies with
    | .operator "|" => do
      let command ← readCommand fuel (← keyTokenBehindLines bodies)
      return command :: (← readPiped fuel)
    | token => do
      putBack token
      return []

/-- Reads one command from its first token on. -/
def readCommand : Nat → Token → Read Command
  | 0, _ => return .group []
  | fuel + 1, token => do
    let bodies := bodiesOf fuel
    let line := (← get).line
    match token with
    | .operator "(" => do
      let body ← readList fuel .block
      match ← anyToken bodies with
      | .operator ")" => do
        let redirects ← readRedirects bodies fuel (← keyToken bodies)
        return .isolated line body redirects
      | token => unexpectedFor token (.operator ")")
    | .reserved "\x7b" => do
      let body ← readList fuel .block
      requireReserved bodies "\x7d"
      withRedirects bodies fuel line (.group body)
    | .reserved "if" => do
      let command ← readConditional fuel
      withRedirects bodies fuel line command
    | .reserved "while" => do
      let command ← readRepeated fuel true
      withRedirects bodies fuel line command
    | .reserved "until" => do
      let command ← readRepeated fuel false
      withRedirects bodies fuel line command
    | .reserved "for" => do
      let command ← readLoop fuel line
      withRedirects bodies fuel line command
    | .reserved "case" => do
      let command ← readChoice fuel line
      withRedirects bodies fuel line command
    | token =>
      match token with
      | .word _ | .redirect _ _ | .document _ _ => do
        putBack token
        let (simple, isFunction) ← readSimple bodies (← left) ⟨[], [], []⟩
        if isFunction then readFunction fuel (simple.words.headD [])
        else return .simple line simple.assignments simple.words simple.redirects
      | token => unexpected token
where
  /-- A command with the redirections behind it.  Those of a group that is an
      isolated command take the place of that command's own ones. -/
  withRedirects (bodies : Bodies) (fuel line : Nat) (command : Command) : Read Command := do
    let redirects ← readRedirects bodies fuel (← keyToken bodies)
    if redirects.isEmpty then return command
    match command with
    | .group [.isolated line body _] => return .isolated line body redirects
    | command => return .redirected line command redirects

/-- Reads a function behind the first of its brackets. -/
def readFunction : Nat → Word → Read Command
  | 0, _ => return .group []
  | fuel + 1, word => do
    let bodies := bodiesOf fuel
    match ← anyToken bodies with
    | .operator ")" =>
      let name := (plainWord? word).getD []
      if !isName name || specialNames.contains (String.ofList name) then
        refuse "Bad function name"
      let body ← readCommand fuel (← keyTokenBehindLines bodies)
      return .function name body
    | token => unexpectedFor token (.operator ")")

/-- Reads a conditional from behind `if` or `elif`. -/
def readConditional : Nat → Read Command
  | 0 => return .group []
  | fuel + 1 => do
    let bodies := bodiesOf fuel
    let test ← readList fuel .block
    requireReserved bodies "then"
    let body ← readList fuel .block
    let token ← anyToken bodies
    if token.isReserved "elif" then
      match ← readConditional fuel with
      | .conditional branches otherwise =>
        return .conditional ((test, body) :: branches) otherwise
      | other => return other
    else if token.isReserved "else" then
      let otherwise ← readList fuel .block
      requireReserved bodies "fi"
      return .conditional [(test, body)] otherwise
    else do
      putBack token
      requireReserved bodies "fi"
      return .conditional [(test, body)] []

/-- Reads a repetition from behind its first word. -/
def readRepeated : Nat → Bool → Read Command
  | 0, _ => return .group []
  | fuel + 1, wanted => do
    let bodies := bodiesOf fuel
    let condition ← readList fuel .block
    requireReserved bodies "do"
    let body ← readList fuel .block
    requireReserved bodies "done"
    return .repeated wanted condition body

/-- Reads a loop from behind `for`.  Without words it goes over the arguments. -/
def readLoop : Nat → Nat → Read Command
  | 0, _ => return .group []
  | fuel + 1, line => do
    let bodies := bodiesOf fuel
    let name :=
      match ← anyToken bodies with
      | .word word => (plainWord? word).filter isName
      | .reserved text => some text.toList
      | _ => none
    match name with
    | none => refuse "Bad for loop variable"
    | some name => do
      let token ← keyTokenBehindLines bodies
      let words ←
        if token.isReserved "in" then readLoopWords bodies (← left)
        else do
          if !(match token with | .operator ";" => true | _ => false) then putBack token
          pure [[Part.parameter ['@'] .value [] true]]
      let token ← keyTokenBehindLines bodies
      if !token.isReserved "do" then unexpectedFor token (.reserved "do")
      let body ← readList fuel .block
      requireReserved bodies "done"
      return .loop line name words body

/-- Reads a choice from behind `case`. -/
def readChoice : Nat → Nat → Read Command
  | 0, _ => return .group []
  | fuel + 1, line => do
    let bodies := bodiesOf fuel
    match ← anyToken bodies with
    | .word word => do
      let token ← keyTokenBehindLines bodies
      if !token.isReserved "in" then unexpectedFor token (.reserved "in")
      return .choice line word (← readBranches fuel)
    | token => unexpectedFor token (.word [])

/-- Reads the branches of a choice up to its end. -/
def readBranches : Nat → Read (List (List Word × List Command))
  | 0 => return []
  | fuel + 1 => do
    let bodies := bodiesOf fuel
    let token ← keyTokenBehindLines bodies
    if token.isReserved "esac" then return []
    let first ← match token with
      | .operator "(" => anyToken bodies
      | token => pure token
    let patterns ← readPatterns bodies (← left) first
    let body ← readList fuel .body
    let token ← keyTokenBehindLines bodies
    if token.isReserved "esac" then return [(patterns, body)]
    match token with
    | .operator ";;" => return (patterns, body) :: (← readBranches fuel)
    | token => unexpectedFor token (.operator ";;")

end

/-! ## Section 6: Programs -/

/-- The lines of a program from a place on. -/
def linesFrom (depth : Nat) : Nat → Cursor → Program
  | 0, _ => ⟨[], none⟩
  | fuel + 1, c =>
    match (readList depth .line).run { c with documents := [], announced := [] } with
    | .error fault => ⟨[], some fault⟩
    | .ok (commands, after) =>
      let line : Line := ⟨commands, after.documents, after.line⟩
      match after.back with
      | some .textEnd => ⟨[line], none⟩
      | _ =>
        let more := linesFrom depth fuel after
        { more with lines := line :: more.lines }

/-- The program that a text writes. -/
def program (text : List Char) : Program :=
  linesFrom (16 * text.length + 64) (text.length + 2) (.start text)

end DenoBridge.Shell
