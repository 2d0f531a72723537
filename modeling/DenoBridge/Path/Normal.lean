import DenoBridge.Path.Basic

/-! # Normal paths

    Two spellings of a path are compared by their normal forms.  The normal
    form has an upper-case drive letter, no empty or single-dot name, and a
    `..` only in a leading run of a relative path.  The file system is never
    asked: a `..` removes the name in front of it whatever that name is.

    `isWithin` says whether one path lies at or below another, name by name.
-/

namespace DenoBridge

/-! ## Section 1: Collapsing -/

/-- One name put on the stack of names seen so far (the last one first).  A
    `..` takes an ordinary name away; on an empty stack it is dropped below a
    root and kept in a relative path. -/
def Path.push (anchor : Anchor) (stack : List String) (name : String) : List String :=
  if name = ".." then
    match stack with
    | [] => if anchor = .relative then [".."] else []
    | top :: rest => if top = ".." then ".." :: top :: rest else rest
  else name :: stack

/-- The path with every `..` resolved that has something to remove. -/
def Path.collapse (path : Path) : Path :=
  ⟨path.anchor, (path.names.foldl (Path.push path.anchor) []).reverse⟩

/-! ## Section 2: Drive letters -/

/-- A lower-case ASCII letter. -/
def isLowerLetter (c : Char) : Bool :=
  'a' ≤ c && c ≤ 'z'

/-- The text with the letter of a leading drive such as `c:\` in upper case. -/
def raiseDrive : List Char → List Char
  | letter :: ':' :: '\\' :: rest =>
    (if isLowerLetter letter then letter.toUpper else letter) :: ':' :: '\\' :: rest
  | text => text

/-! ## Section 3: Normal forms -/

/-- Why a text has no normal form. -/
inductive PathError where
  /-- There is no text at all. -/
  | missing
  /-- The text is empty. -/
  | empty
  deriving Repr, DecidableEq

/-- The wording of a path error. -/
def PathError.message : PathError → String
  | .missing => "path must not be None"
  | .empty => "path must not be empty"

/-- The normal form of a text that is not empty. -/
def Path.normalForm (text : String) : Path :=
  (Path.ofChars (raiseDrive text.toList)).collapse

/-- The normal form of a text. -/
def normalize? (text : Option String) : Except PathError Path :=
  match text with
  | none => .error .missing
  | some "" => .error .empty
  | some text => .ok (Path.normalForm text)

/-- The normal form of a path. -/
def Path.normalize (path : Path) : Path :=
  Path.normalForm path.text

/-! ## Section 4: Containment -/

/-- Why two texts cannot be compared. -/
inductive ContainmentError where
  /-- There is no candidate. -/
  | noCandidate
  /-- The container has no normal form. -/
  | badRoot (cause : PathError)
  deriving Repr, DecidableEq

/-- The wording of a containment error. -/
def ContainmentError.message : ContainmentError → String
  | .noCandidate => "expected str, bytes or os.PathLike object, not NoneType"
  | .badRoot cause => cause.message

/-- Is `candidate` the path `base`, or does it continue it by further names? -/
def Path.isAtOrBelow (candidate base : Path) : Bool :=
  candidate = base || candidate.parents.contains base

/-- Does the first text, normalised, spell the second or a path below it?  An
    empty text is inside nothing. -/
def isWithin (path root : Option String) : Except ContainmentError Bool :=
  match path with
  | none => .error .noCandidate
  | some "" => .ok false
  | some path =>
    match normalize? root with
    | .error cause => .error (.badRoot cause)
    | .ok base => .ok ((Path.normalForm path).isAtOrBelow base)

end DenoBridge
