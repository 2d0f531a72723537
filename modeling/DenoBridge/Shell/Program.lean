/-! # Shell programs

    The commands of a small shell, as they are written.  The shell works on
    bytes; a text is a list of characters each of which stands for one byte.
    A program is run line by line, so what is wrong with one line does not
    keep the lines before it from being run.
-/

namespace DenoBridge.Shell

/-! ## Section 1: Words and commands -/

/-- What is made of the value of a parameter.  With `nonempty`, an empty value
    counts as none. -/
inductive Operation where
  | value
  | length
  | default (nonempty : Bool)
  | assign (nonempty : Bool)
  | require (nonempty : Bool)
  | alternative (nonempty : Bool)
  | dropStart (longest : Bool)
  | dropEnd (longest : Bool)
  | unknown
  deriving Repr, DecidableEq

/-- What a redirection does with its target. -/
inductive Direction where
  | input
  | create
  /-- Even where files that are there are kept. -/
  | overwrite
  | append
  /-- For input and output. -/
  | update
  | duplicate
  deriving Repr, DecidableEq

mutual

/-- One part of a word. -/
inductive Part where
  /-- Characters that stand for themselves. -/
  | plain (text : List Char)
  /-- Characters between quotation marks. -/
  | quoted (text : List Char)
  /-- What is made of a parameter and a word. -/
  | parameter (name : List Char) (operation : Operation) (word : List Part) (isQuoted : Bool)
  /-- The output of commands. -/
  | output (body : List Command) (isQuoted : Bool)
  /-- The value of an expression. -/
  | arithmetic (word : List Part) (isQuoted : Bool)

/-- A redirection of a stream: to a target, or to a document below the line. -/
inductive Redirect where
  | target (stream : Nat) (direction : Direction) (word : List Part)
  | document (stream number : Nat)

/-- A command. -/
inductive Command where
  | simple (line : Nat) (assignments : List (List Char × List Part)) (words : List (List Part))
      (redirects : List Redirect)
  /-- The output of each command is the input of the next one. -/
  | piped (commands : List Command)
  | both (first second : Command)
  | either (first second : Command)
  | negated (command : Command)
  /-- A command that is not waited for. -/
  | detached (command : Command)
  | conditional (branches : List (List Command × List Command)) (otherwise : List Command)
  | loop (line : Nat) (name : List Char) (words : List (List Part)) (body : List Command)
  /-- Goes on as long as the condition holds, or fails, as `wanted` says. -/
  | repeated (wanted : Bool) (condition body : List Command)
  | choice (line : Nat) (word : List Part) (branches : List (List (List Part) × List Command))
  | group (body : List Command)
  /-- Commands that are run in a shell of their own. -/
  | isolated (line : Nat) (body : List Command) (redirects : List Redirect)
  | redirected (line : Nat) (command : Command) (redirects : List Redirect)
  | function (name : List Char) (body : Command)

end

/-- A word before expansion. -/
abbrev Word := List Part

/-- An assignment. -/
abbrev Assignment := List Char × Word

/-! ## Section 2: Programs -/

/-- What is wrong with a program, and the line in which it was found. -/
structure Fault where
  line : Nat
  message : String
  deriving Repr, DecidableEq

/-- The documents that stand below a line, by their numbers. -/
abbrev Documents := List (Nat × Word)

/-- One line of a program: commands that are read before the first of them is
    run. -/
structure Line where
  commands : List Command
  documents : Documents
  /-- The number of the line that is read next. -/
  next : Nat

/-- A program: its lines, and what is wrong behind them. -/
structure Program where
  lines : List Line
  fault : Option Fault

end DenoBridge.Shell
