import DenoBridge.Text.Split

/-! # File paths

    A path is an anchor (how many slashes it begins with) and a list of
    names.  Reading a text drops empty names and single dots; nothing else is
    interpreted, so a `..` stays until a path is normalised.  The text of a
    path is read back as the same path.
-/

namespace DenoBridge

/-- What a path starts from.  Exactly two leading slashes are kept apart from
    one, as POSIX allows; three or more mean one. -/
inductive Anchor where
  | relative
  | root
  | doubleRoot
  deriving Repr, DecidableEq

/-- The slashes written in front of a path's names. -/
def Anchor.text : Anchor → String
  | .relative => ""
  | .root => "/"
  | .doubleRoot => "//"

/-- The anchor of a text that begins with `n` slashes. -/
def Anchor.ofSlashes : Nat → Anchor
  | 0 => .relative
  | 2 => .doubleRoot
  | _ => .root

/-- A path: where it starts and the names it goes through.

    A name is a non-empty text without a slash that is not a single dot; the
    functions below keep to that. -/
structure Path where
  anchor : Anchor
  names : List String
  deriving Repr, DecidableEq

namespace Path

/-! ## Section 1: Reading -/

/-- The names in a text: what stands between slashes, without empty names and
    single dots. -/
def namesOf (text : List Char) : List String :=
  (Text.pieces '/' text).filterMap fun piece =>
    if piece = [] ∨ piece = ['.'] then none else some (String.ofList piece)

/-- The anchor that a text's leading slashes stand for. -/
def anchorOf (text : List Char) : Anchor :=
  .ofSlashes (text.takeWhile (· == '/')).length

/-- The path that a text spells. -/
def ofChars (text : List Char) : Path :=
  ⟨anchorOf text, namesOf text⟩

/-- The path that a text spells. -/
def ofString (text : String) : Path :=
  ofChars text.toList

/-! ## Section 2: Writing -/

/-- The names with a slash between each two of them. -/
def joinNames (names : List String) : String :=
  String.ofList (Text.joinPieces ['/'] (names.map String.toList))

/-- The text of a path; the path without anchor and names is a dot. -/
def text (path : Path) : String :=
  match path.anchor, path.names with
  | .relative, [] => "."
  | anchor, names => anchor.text ++ joinNames names

instance : ToString Path where
  toString := text

/-! ## Section 3: Operations -/

/-- Does the path start at a root? -/
def isAbsolute (path : Path) : Bool :=
  path.anchor != .relative

/-- The second path seen from the first: one that is absolute stays what it
    is, any other continues the first. -/
def join (path next : Path) : Path :=
  if next.isAbsolute then next else ⟨path.anchor, path.names ++ next.names⟩

/-- The path one name below. -/
def child (path : Path) (name : String) : Path :=
  path.join (ofString name)

/-- The path without its last name. -/
def parent (path : Path) : Path :=
  ⟨path.anchor, path.names.dropLast⟩

/-- The last name, empty when there is none. -/
def name (path : Path) : String :=
  path.names.getLast?.getD ""

/-- The paths with fewer names that the path continues, the nearest first. -/
def parents (path : Path) : List Path :=
  (List.range path.names.length).reverse.map fun n => ⟨path.anchor, path.names.take n⟩

end Path

end DenoBridge
