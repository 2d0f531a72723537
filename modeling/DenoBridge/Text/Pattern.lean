import DenoBridge.Text.WordChar

/-! # Patterns

    A pattern describes texts by their characters, by sequence, choice and
    repetition, and by what stands around them.  Parts of it can be named.
    Of several ways to match, the first in the order in which the pattern
    lists them counts: the left choice before the right one, and more rounds
    of a greedy repetition before fewer.
-/

namespace DenoBridge.Text

/-! ## Section 1: Patterns -/

/-- A pattern. -/
inductive Pattern where
  /-- Nothing. -/
  | empty
  /-- One character of a class. -/
  | one (holds : Char → Bool)
  | seq (first second : Pattern)
  | choice (left right : Pattern)
  /-- At least `least` rounds, and at most `most` rounds if that is given. -/
  | many (greedy : Bool) (least : Nat) (most : Option Nat) (part : Pattern)
  /-- A part with a name. -/
  | named (name : String) (part : Pattern)
  /-- No character of the class stands directly before. -/
  | notAfter (holds : Char → Bool)
  /-- A word begins or ends here, or does not, as `wanted` says. -/
  | border (wanted : Bool)

namespace Pattern

/-- These characters. -/
def exactly (text : String) : Pattern :=
  text.toList.foldr (fun c rest => .seq (.one (· == c)) rest) .empty

/-- Patterns one after the other. -/
def all (parts : List Pattern) : Pattern :=
  parts.foldr .seq .empty

/-- One of several patterns, the first that matches. -/
def any : List Pattern → Pattern
  | [] => .one fun _ => false
  | [part] => part
  | part :: more => .choice part (any more)

/-- As many rounds as possible, perhaps none. -/
def star (part : Pattern) : Pattern := .many true 0 none part

/-- As many rounds as possible, but at least one. -/
def plus (part : Pattern) : Pattern := .many true 1 none part

/-- The part, or nothing. -/
def maybe (part : Pattern) : Pattern := .many true 0 (some 1) part

/-- So many rounds of a part, as many as possible. -/
def rounds (least most : Nat) (part : Pattern) : Pattern := .many true least (some most) part

/-- As few characters as possible, none of them a line feed. -/
def fewest : Pattern := .many false 0 none (.one (· != '\n'))

end Pattern

/-! ## Section 2: Matching -/

/-- A place in a text, with what was named so far. -/
structure Reading where
  /-- The character before the place. -/
  last : Option Char
  rest : List Char
  position : Nat
  /-- The named parts, the newest first: where they begin and end. -/
  names : List (String × Nat × Nat)

namespace Reading

/-- The place before a text. -/
def start (text : List Char) : Reading :=
  ⟨none, text, 0, []⟩

/-- The place behind one more character. -/
def step (r : Reading) (c : Char) (rest : List Char) : Reading :=
  { r with last := some c, rest := rest, position := r.position + 1 }

/-- Does a word begin or end here? -/
def isBorder (r : Reading) : Bool :=
  r.last.any isWordChar != r.rest.head?.any isWordChar

end Reading

/-- What is left of a bound after one more round. -/
def oneLess (most : Option Nat) : Option Nat :=
  most.map (· - 1)

/-- Rounds of `part` and then `next`.  A round that takes nothing is the last
    one.  The first argument bounds the number of rounds. -/
def matchRounds (part : (Reading → Option Reading) → Reading → Option Reading) (greedy : Bool) :
    Nat → Nat → Option Nat → (Reading → Option Reading) → Reading → Option Reading
  | 0, least, _, next, r => if least = 0 then next r else none
  | fuel + 1, least, most, next, r =>
    let round := fun (_ : Unit) =>
      if most = some 0 then none
      else
        part (fun after =>
          if after.position = r.position then (if least ≤ 1 then next after else none)
          else matchRounds part greedy fuel (least - 1) (oneLess most) next after) r
    if least ≠ 0 then round ()
    else if greedy then
      match round () with
      | some found => some found
      | none => next r
    else
      match next r with
      | some found => some found
      | none => round ()

/-- A pattern and then `next`: the first place behind both, if there is one. -/
def Pattern.run : Pattern → (Reading → Option Reading) → Reading → Option Reading
  | .empty, next, r => next r
  | .one holds, next, r =>
    match r.rest with
    | c :: rest => if holds c then next (r.step c rest) else none
    | [] => none
  | .seq first second, next, r => first.run (second.run next) r
  | .choice left right, next, r =>
    match left.run next r with
    | some found => some found
    | none => right.run next r
  | .many greedy least most part, next, r =>
    matchRounds (fun next r => part.run next r) greedy (r.rest.length + least + 1) least most next r
  | .named name part, next, r =>
    part.run (fun after =>
      next { after with names := (name, r.position, after.position) :: after.names }) r
  | .notAfter holds, next, r => if r.last.any holds then none else next r
  | .border wanted, next, r => if r.isBorder == wanted then next r else none

/-- The first match at a place. -/
def Pattern.matchAt? (p : Pattern) (r : Reading) : Option Reading :=
  p.run some r

/-- All matches in a text, from left to right; they do not overlap.  The first
    argument bounds the places that are tried. -/
def Pattern.matchesFrom (p : Pattern) : Nat → Reading → List Reading
  | 0, _ => []
  | fuel + 1, r =>
    let further := fun (r : Reading) =>
      match r.rest with
      | c :: rest => matchesFrom p fuel (r.step c rest)
      | [] => []
    match p.matchAt? { r with names := [] } with
    | some found =>
      if found.position = r.position then found :: further r else found :: matchesFrom p fuel found
    | none => further r

/-- All matches of a pattern in a text. -/
def Pattern.matches (p : Pattern) (text : List Char) : List Reading :=
  p.matchesFrom (text.length + 1) (.start text)

end DenoBridge.Text
