import DenoBridge.Shell.Bytes

/-! # Patterns

    A pattern stands for texts: a star for any characters, a question mark for
    one, and square brackets for one of those they name.  A quoted character
    stands for itself.  Main statement: a pattern of quoted characters is
    matched by their text alone (`matchesAll_quoted`).
-/

namespace DenoBridge.Shell

/-! ## Section 1: Brackets -/

/-- A character of a pattern. -/
structure Letter where
  char : Char
  isQuoted : Bool
  deriving Repr, DecidableEq

/-- Is it this character, unquoted? -/
def Letter.isSign (letter : Letter) (c : Char) : Bool :=
  !letter.isQuoted && letter.char == c

/-- The classes of characters that brackets can name. -/
def classOf? (name : String) : Option (Char → Bool) :=
  let isPrinted := fun (c : Char) => ' ' ≤ c && c ≤ '~'
  match name with
  | "alpha" => some Char.isAlpha
  | "digit" => some Char.isDigit
  | "alnum" => some Char.isAlphanum
  | "upper" => some Char.isUpper
  | "lower" => some Char.isLower
  | "blank" => some fun c => c == ' ' || c == '\t'
  | "space" => some fun c => c == ' ' || ('\t' ≤ c && c ≤ '\r')
  | "print" => some isPrinted
  | "graph" => some fun c => isPrinted c && c != ' '
  | "punct" => some fun c => isPrinted c && c != ' ' && !c.isAlphanum
  | "cntrl" => some fun c => c < ' ' || c == '\x7f'
  | "xdigit" => some fun c => c.isDigit || ('a' ≤ c && c ≤ 'f') || ('A' ≤ c && c ≤ 'F')
  | _ => none

/-- A named class at the start of a text, behind its opening bracket, and what
    follows it. -/
def namedClass? (text : List Letter) : Option ((Char → Bool) × List Letter) :=
  match text with
  | colon :: rest =>
    if colon.isSign ':' then
      let name := rest.takeWhile fun letter => letter.char.isAlpha
      match rest.drop name.length with
      | last :: bracket :: after =>
        if last.isSign ':' && bracket.isSign ']' then
          (classOf? (String.ofList (name.map (·.char)))).map (·, after)
        else none
      | _ => none
    else none
  | [] => none

/-- What the rest of a bracket stands for, and what follows the bracket.  One
    that is closed at once holds a closing bracket instead. -/
def bracketItems : Nat → Bool → List Letter → Option (List (Char → Bool) × List Letter)
  | 0, _, _ => none
  | _, _, [] => none
  | fuel + 1, isFirst, letter :: rest =>
    if letter.isSign ']' && !isFirst then some ([], rest)
    else
      match if letter.isSign '[' then namedClass? rest else none with
      | some (holds, after) =>
        (bracketItems fuel false after).map fun (items, stop) => (holds :: items, stop)
      | none =>
        match rest with
        | dash :: high :: after =>
          if dash.isSign '-' && !high.isSign ']' then
            (bracketItems fuel false after).map fun (items, stop) =>
              ((fun c => letter.char ≤ c && c ≤ high.char) :: items, stop)
          else
            (bracketItems fuel false rest).map fun (items, stop) =>
              ((fun c => c == letter.char) :: items, stop)
        | _ =>
          (bracketItems fuel false rest).map fun (items, stop) =>
            ((fun c => c == letter.char) :: items, stop)

/-- The characters that a bracket stands for, and what follows it.  The text
    begins behind the opening bracket. -/
def bracket? (text : List Letter) : Option ((Char → Bool) × List Letter) :=
  let negates := text.head?.any (·.isSign '!')
  let inside := if negates then text.drop 1 else text
  (bracketItems (inside.length + 1) true inside).map fun (items, after) =>
    (fun c => items.any (· c) != negates, after)

/-! ## Section 2: Matching -/

/-- Does a text match a pattern? -/
def matchesWithin : Nat → List Letter → List Char → Bool
  | 0, _, _ => false
  | _, [], text => text.isEmpty
  | fuel + 1, letter :: pattern, text =>
    if letter.isSign '*' then
      matchesWithin fuel pattern text ||
        (match text with
        | [] => false
        | _ :: rest => matchesWithin fuel (letter :: pattern) rest)
    else
      match text with
      | [] => false
      | c :: rest =>
        match if letter.isSign '[' then bracket? pattern else none with
        | some (holds, after) => holds c && matchesWithin fuel after rest
        | none => (letter.isSign '?' || letter.char == c) && matchesWithin fuel pattern rest

/-- Does a text match a pattern as a whole? -/
def matchesAll (pattern : List Letter) (text : List Char) : Bool :=
  matchesWithin (pattern.length + text.length + 1) pattern text

/-- A text as a pattern for itself. -/
def quoteAll (text : List Char) : List Letter :=
  text.map (⟨·, true⟩)

theorem matchesWithin_quoted (fuel : Nat) (text other : List Char) (h : text.length < fuel) :
    matchesWithin fuel (quoteAll text) other = (text == other) := by
  induction text generalizing fuel other with
  | nil =>
    cases fuel with
    | zero => simp at h
    | succ fuel => cases other <;> simp [quoteAll, matchesWithin]
  | cons c text ih =>
    cases fuel with
    | zero => simp at h
    | succ fuel =>
      have hlt : text.length < fuel := by simpa using h
      cases other with
      | nil => simp [quoteAll, matchesWithin, Letter.isSign]
      | cons d other =>
        have hrest := ih fuel other hlt
        simp only [quoteAll] at hrest
        simp [quoteAll, matchesWithin, Letter.isSign, hrest, List.cons_beq_cons]

theorem matchesAll_quoted (text other : List Char) :
    matchesAll (quoteAll text) other = (text == other) :=
  matchesWithin_quoted _ _ _ (by simp only [quoteAll, List.length_map]; omega)

/-! ## Section 3: Parts of texts -/

/-- The text without the part at its start that matches a pattern, the longest
    or the shortest one. -/
def dropStart (longest : Bool) (pattern : List Letter) (text : List Char) : List Char :=
  let lengths := List.range (text.length + 1)
  let lengths := if longest then lengths.reverse else lengths
  match lengths.find? fun n => matchesAll pattern (text.take n) with
  | some n => text.drop n
  | none => text

/-- The text without the part at its end that matches a pattern, the longest
    or the shortest one. -/
def dropEnd (longest : Bool) (pattern : List Letter) (text : List Char) : List Char :=
  let lengths := List.range (text.length + 1)
  let lengths := if longest then lengths else lengths.reverse
  match lengths.find? fun n => matchesAll pattern (text.drop n) with
  | some n => text.take n
  | none => text

end DenoBridge.Shell
