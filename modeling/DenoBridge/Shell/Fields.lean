import DenoBridge.Shell.State
import DenoBridge.Machine.Home

/-! # Fields

    A word is expanded to characters, some of which may separate fields.  A
    field with signs of a pattern stands for the files that match it.  Main
    statement: a word in which nothing separates is one field
    (`fieldsFrom_joined`).
-/

namespace DenoBridge.Shell

/-! ## Section 1: Atoms -/

/-- A piece of an expanded word. -/
inductive Atom where
  /-- A character, which may separate fields if `splits` says so. -/
  | letter (letter : Letter) (splits : Bool)
  /-- Something quoted stands here, though it may be empty. -/
  | mark
  /-- A field ends here. -/
  | cut
  deriving Repr

/-- The atoms of a text. -/
def atomsOf (quoted : Bool) (text : List Char) : List Atom :=
  (if quoted then [.mark] else []) ++ text.map fun c => .letter ⟨c, quoted⟩ (!quoted)

/-- The letters of an expanded word that is not split. -/
def lettersOf (atoms : List Atom) : List Letter :=
  atoms.flatMap fun
    | .letter letter _ => [letter]
    | .cut => [⟨' ', true⟩]
    | .mark => []

/-- The text of letters. -/
def textOf (letters : List Letter) : List Char :=
  letters.map (·.char)

/-- The arguments, each one a field. -/
def argumentAtoms (quoted : Bool) : List (List Char) → List Atom
  | [] => []
  | [argument] => atomsOf quoted argument
  | argument :: more => atomsOf quoted argument ++ .cut :: argumentAtoms quoted more

/-! ## Section 2: Splitting -/

/-- The fields of an expanded word.  `current` holds the letters of the field
    that is being read, if one is.  After a blank that ended a field, another
    separator ends none. -/
def fieldsFrom (separators : List Char) (current : Option (List Letter)) (afterBlank : Bool) :
    List Atom → List (List Letter)
  | [] => current.toList
  | .mark :: rest => fieldsFrom separators (some (current.getD [])) false rest
  | .cut :: rest => current.toList ++ fieldsFrom separators none false rest
  | .letter letter splits :: rest =>
    if splits && separators.contains letter.char then
      if isSpace letter.char then
        current.toList ++ fieldsFrom separators none (afterBlank || current.isSome) rest
      else if afterBlank && current.isNone then fieldsFrom separators none false rest
      else current.getD [] :: fieldsFrom separators none false rest
    else fieldsFrom separators (some (current.getD [] ++ [letter])) false rest

theorem fieldsFrom_joined (separators : List Char) (letters before : List Letter) :
    fieldsFrom separators (some before) false (letters.map (.letter · false)) =
      [before ++ letters] := by
  induction letters generalizing before with
  | nil => simp [fieldsFrom]
  | cons letter rest ih => simp [fieldsFrom, ih]

/-- A word in front of a line and what follows it, where `separators` divide
    words.  What a backslash protected separates nothing. -/
def wordAt (separators : List Char) (line : List Letter) : List Letter × List Letter :=
  let divides := fun (letter : Letter) => !letter.isQuoted && separators.contains letter.char
  let isBlank := fun (letter : Letter) => divides letter && isSpace letter.char
  let word := line.takeWhile (!divides ·)
  let rest := (line.drop word.length).dropWhile isBlank
  let rest := if rest.head?.any divides then rest.drop 1 else rest
  (word, rest.dropWhile isBlank)

/-- The values of names that share a line: one word for each, and for the last
    of them all that is left. -/
def shareLine (separators : List Char) : List (List Char) → List Letter →
    List (List Char × List Char)
  | [], _ => []
  | [name], line =>
    let isBlank := fun (letter : Letter) =>
      !letter.isQuoted && separators.contains letter.char && isSpace letter.char
    let (word, rest) := wordAt separators line
    let found := if rest.isEmpty then word else (line.reverse.dropWhile isBlank).reverse
    [(name, textOf found)]
  | name :: more, line =>
    let (word, rest) := wordAt separators line
    (name, textOf word) :: shareLine separators more rest

/-- The first line of a text, how many characters belong to it, and whether it
    has an end.  A backslash keeps the character behind it, and joins lines;
    with `raw` it stands for itself.  A NUL counts for nothing. -/
def lineAt (raw : Bool) : List Char → List Letter × Nat × Bool
  | [] => ([], 0, false)
  | '\n' :: _ => ([], 1, true)
  | '\x00' :: rest =>
    let (line, count, ended) := lineAt raw rest
    (line, count + 1, ended)
  | '\\' :: c :: rest =>
    if raw then
      let (line, count, ended) := lineAt raw (c :: rest)
      (⟨'\\', false⟩ :: line, count + 1, ended)
    else
      let (line, count, ended) := lineAt raw rest
      (if c = '\n' then line else ⟨c, true⟩ :: line, count + 2, ended)
  | c :: rest =>
    let (line, count, ended) := lineAt raw rest
    (if c = '\\' && !raw then line else ⟨c, false⟩ :: line, count + 1, ended)
termination_by text => text.length
decreasing_by all_goals (simp_all; try omega)

/-! ## Section 3: Homes -/

/-- The home directory that the text behind a tilde means. -/
def homeAt? (s : State) (account : List Char) : Option (List Char) :=
  if account.isEmpty then s.value? "HOME".toList
  else (accounts.lookup (toName account)).map ofString

/-- Is the part this character, unquoted? -/
def isPlain (c : Char) : Part → Bool
  | .plain text => text == [c]
  | _ => false

/-- A word with a home directory in place of a tilde at its start, and the parts
    behind the account.  In an assignment, a colon ends the account as a slash
    does. -/
def homeBefore? (s : State) (isAssignment : Bool) (word : Word) : Option (Part × Word) :=
  match word with
  | [] => none
  | first :: rest =>
    let ends := fun part => isPlain '/' part || (isAssignment && isPlain ':' part)
    let parts := rest.takeWhile (!ends ·)
    let account := parts.mapM fun part =>
      match part with
      | .plain text => some text
      | _ => none
    if isPlain '~' first then
      (account.bind fun texts => homeAt? s texts.flatten).map fun home =>
        (.quoted home, rest.drop parts.length)
    else none

/-- A word with home directories in place of tildes: of the one at its start,
    and in an assignment of those behind colons. -/
def expandTildes (s : State) (isAssignment : Bool) : Nat → Word → Word
  | 0, word => word
  | fuel + 1, word =>
    let (before, rest) : Word × Word :=
      match homeBefore? s isAssignment word with
      | some (home, rest) => ([home], rest)
      | none => ([], word)
    if isAssignment then
      let inside := rest.takeWhile (!isPlain ':' ·)
      match rest.drop inside.length with
      | colon :: more => before ++ inside ++ colon :: expandTildes s true fuel more
      | [] => before ++ rest
    else before ++ rest

/-! ## Section 4: Files -/

/-- Has a field signs of a pattern? -/
def hasSigns (field : List Letter) : Bool :=
  field.any fun letter => letter.isSign '*' || letter.isSign '?' || letter.isSign '['

/-- The names in a directory that match a pattern.  Those that begin with a dot
    need one in the pattern. -/
def namesIn (s : State) (directory : List Char) (pattern : List Letter) : List (List Char) :=
  let path := if directory.isEmpty then "." else toName directory
  match s.files.find s.directory path with
  | .ok (place, .directory) =>
    let names := ".".toList :: "..".toList :: (s.files.entries place).map ofString
    names.filter fun name =>
      (name.head? != some '.' || pattern.head?.any (·.char == '.')) && matchesAll pattern name
  | _ => []

/-- The paths that match a pattern behind a path that is already known. -/
def pathsFrom (s : State) : Nat → List Char → List Letter → List (List Char)
  | 0, _, _ => []
  | _, done, [] =>
    match (s.files.locate s.directory (toName done) false).toOption.bind s.files.get? with
    | some _ => [done]
    | none => []
  | fuel + 1, done, rest =>
    let isSlash := fun (letter : Letter) => letter.char == '/'
    let pattern := rest.takeWhile (!isSlash ·)
    let after := rest.drop pattern.length
    let slashes := after.takeWhile isSlash
    let after := after.drop slashes.length
    let names := if hasSigns pattern then namesIn s done pattern else [textOf pattern]
    names.flatMap fun name => pathsFrom s fuel (done ++ name ++ textOf slashes) after

/-- The texts that a field stands for: the paths that match it in order, or
    its own text if there are none. -/
def filesOf (s : State) (field : List Letter) : List (List Char) :=
  if s.options.keepsPatterns || !hasSigns field then [textOf field]
  else
    match (pathsFrom s (field.length + 1) [] field).mergeSort isInOrder with
    | [] => [textOf field]
    | paths => paths

/-- The fields of an expanded word, with files in place of patterns. -/
def fieldsOf (s : State) (atoms : List Atom) : List (List Char) :=
  (fieldsFrom s.separators none false atoms).flatMap (filesOf s)

end DenoBridge.Shell
