import DenoBridge.Machine.Basic

/-! # Laying out files

    The files that a bare system has, and the ways to put files in place, to
    remove them and to look at them from outside.
-/

namespace DenoBridge

namespace FileSystem

/-! ## Section 1: A bare system -/

/-- The places of the programs of the system. -/
def toolPlaces : List (Place × Tool) :=
  [(["bin", "sh"], .shell), (["bin", "cat"], .cat), (["usr", "bin", "sh"], .shell),
    (["usr", "bin", "cat"], .cat)]

/-- The directories of a bare system. -/
def bareDirectories : List Place :=
  [["bin"], ["usr"], ["usr", "bin"], ["dev"], ["tmp"]]

/-- The place of the null device. -/
def nullPlace : Place := ["dev", "null"]

/-- The permissions of the null device: everyone may read and write. -/
def nullMode : Nat := 0o666

/-- A system with its programs, the null device, and a directory to work in. -/
def bare (here : Place) : FileSystem :=
  let above := (List.range here.length).map fun n => here.take (n + 1)
  let fs : FileSystem := ⟨(bareDirectories ++ above).eraseDups.map (·, Node.directory)⟩
  let fs := toolPlaces.foldl (fun fs entry => fs.put entry.1 (.tool entry.2)) fs
  fs.put nullPlace (.sink nullMode)

/-! ## Section 2: Items -/

/-- What can be put in place. -/
inductive Item where
  | directory
  | link (target : String)
  | file (mode : Nat) (content : Bytes)
  deriving Repr, DecidableEq

/-- The node of an item. -/
def Item.node : Item → Node
  | .directory => .directory
  | .link target => .link target
  | .file mode content => .file mode content

/-- The directories above a path, the highest first. -/
def above (path : String) : List Path :=
  (Path.ofString path).parents.reverse

/-- Makes a directory unless something stands there. -/
def makeIfMissing (here : Place) (fs : FileSystem) (path : Path) : FileSystem :=
  ((fs.makeDirectory here path.text).toOption).getD fs

/-- Puts an item in place.  The directories above it are made; a file or link
    that stands there gives way. -/
def place (fs : FileSystem) (here : Place) (path : String) (item : Item) : FileSystem :=
  let fs := (above path).foldl (makeIfMissing here) fs
  match fs.locate here path false with
  | .error _ => fs
  | .ok place =>
    match item, fs.get? place with
    | .directory, some .directory => fs
    | _, _ => fs.put place item.node

/-- Removes what stands at a path, with all below it. -/
def remove? (fs : FileSystem) (here : Place) (path : String) : Option FileSystem :=
  match fs.locate here path false with
  | .error _ => none
  | .ok place => (fs.get? place).map fun _ => fs.removeTree place

/-! ## Section 3: Views -/

/-- What is seen at a path. -/
inductive View where
  | missing
  | directory (names : List String)
  | file (mode : Nat) (content : Bytes)
  deriving Repr

/-- Looks at a path.  Links are followed. -/
def view (fs : FileSystem) (here : Place) (path : String) : View :=
  match fs.find here path with
  | .error _ => .missing
  | .ok (place, .directory) => .directory ((fs.entries place).mergeSort (· ≤ ·))
  | .ok (_, .file mode content) => .file mode content
  | .ok (_, node) => .file (modeOf node) []

end FileSystem

end DenoBridge
