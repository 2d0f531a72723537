import DenoBridge.Machine.Errno
import DenoBridge.Text.Split
import DenoBridge.Text.Utf8

/-! # File systems

    A file system says which node stands at each place.  A place is the list
    of names that leads to it from the root, without dots and links.  A path
    is located by walking its names and following the links on the way.
-/

namespace DenoBridge

/-- Where a node stands: the names from the root on. -/
abbrev Place := List String

/-- The programs that come with the system. -/
inductive Tool where
  | shell
  | cat
  deriving Repr, DecidableEq

/-- What stands at a place. -/
inductive Node where
  | directory
  | file (mode : Nat) (content : Bytes)
  | link (target : String)
  /-- A program of the system. -/
  | tool (tool : Tool)
  /-- A device that takes everything and gives nothing. -/
  | sink (mode : Nat)
  deriving Repr, DecidableEq

/-- The nodes of a file system by their places.  The root is a directory. -/
structure FileSystem where
  nodes : List (Place × Node)
  deriving Repr

namespace FileSystem

/-! ## Section 1: Nodes -/

/-- The node at a place. -/
def get? (fs : FileSystem) (place : Place) : Option Node :=
  if place = [] then some .directory else fs.nodes.lookup place

/-- The file system with a node put at a place. -/
def put (fs : FileSystem) (place : Place) (node : Node) : FileSystem :=
  ⟨(place, node) :: fs.nodes.filter (·.1 ≠ place)⟩

/-- The file system without a place and all that stands below it. -/
def removeTree (fs : FileSystem) (place : Place) : FileSystem :=
  ⟨fs.nodes.filter fun entry => !place.isPrefixOf entry.1⟩

/-- The names that stand in a directory. -/
def entries (fs : FileSystem) (place : Place) : List String :=
  fs.nodes.filterMap fun entry =>
    if entry.1.length = place.length + 1 ∧ entry.1.dropLast = place then entry.1.getLast? else none

/-! ## Section 2: Walking -/

/-- The names in the text of a path.  A slash at the end counts as a dot: it
    asks for a directory. -/
def namesIn (path : String) : List String :=
  let pieces := Text.pieces '/' path.toList
  let names := (pieces.filter (· ≠ [])).map String.ofList
  if pieces.getLast? = some [] then names ++ ["."] else names

/-- The greatest length of a name, in bytes. -/
def nameLimit : Nat := 255

/-- The length at which a path is too long, in bytes. -/
def pathLimit : Nat := 4096

/-- The number of links that are followed on one walk. -/
def linkLimit : Nat := 40

/-- Walks the names from a directory.  The place reached need not hold a node
    yet if only the last name is missing.  A link at the end is followed if
    `follow` says so. -/
def walk (fs : FileSystem) (follow : Bool) : Nat → Place → List String → Except Errno Place
  | _, here, [] => .ok here
  | links, here, name :: rest =>
    if name = "." then walk fs follow links here rest
    else if name = ".." then walk fs follow links here.dropLast rest
    else if name.utf8ByteSize > nameLimit then .error .nameTooLong
    else
      let next := here ++ [name]
      match fs.get? next with
      | none => if rest = [] then .ok next else .error .noEntry
      | some .directory => walk fs follow links next rest
      | some (.link target) =>
        if rest = [] ∧ !follow then .ok next
        else
          match links with
          | 0 => .error .tooManyLinks
          | links + 1 =>
            let start := if target.toList.head? = some '/' then [] else here
            walk fs follow links start (namesIn target ++ rest)
      | some _ => if rest = [] then .ok next else .error .notDirectory
termination_by links _ names => (links, names.length)

/-- The place of a path seen from a directory. -/
def locate (fs : FileSystem) (here : Place) (path : String) (follow : Bool) : Except Errno Place :=
  if path = "" then .error .noEntry
  else if path.utf8ByteSize ≥ pathLimit then .error .nameTooLong
  else
    let start := if path.toList.head? = some '/' then [] else here
    fs.walk follow linkLimit start (namesIn path)

/-- The node of a path, with its place. -/
def find (fs : FileSystem) (here : Place) (path : String) : Except Errno (Place × Node) :=
  match fs.locate here path true with
  | .error e => .error e
  | .ok place =>
    match fs.get? place with
    | some node => .ok (place, node)
    | none => .error .noEntry

/-! ## Section 3: Calls -/

/-- The permission to write, for any class of users. -/
def writeBits : Nat := 0o222

/-- The permission to execute, for any class of users. -/
def executeBits : Nat := 0o111

/-- The permission to read, for the owner. -/
def ownerReadBit : Nat := 0o400

/-- The permission to write, for the owner. -/
def ownerWriteBit : Nat := 0o200

/-- The mode of a new file. -/
def newFileMode : Nat := 0o644

/-- The permissions of a node. -/
def modeOf : Node → Nat
  | .file mode _ | .sink mode => mode
  | _ => 0o755

/-- The mode of the file at a path. -/
def mode (fs : FileSystem) (here : Place) (path : String) : Except Errno Nat :=
  (fs.find here path).map fun found => modeOf found.2

/-- The content of the file at a path.  The permissions of a regular file do not
    keep its owner from opening it, those of a device do. -/
def read (fs : FileSystem) (here : Place) (path : String) : Except Errno Bytes :=
  match fs.find here path with
  | .error e => .error e
  | .ok (_, .directory) => .error .isDirectory
  | .ok (_, .file _ content) => .ok content
  | .ok (_, .sink mode) => if mode &&& ownerReadBit = 0 then .error .accessDenied else .ok []
  | .ok _ => .ok []

/-- The node of a written file. -/
def written (old : Option Node) (content : Bytes) : Except Errno Node :=
  match old with
  | some .directory => .error .isDirectory
  | some (.file mode _) => .ok (.file mode content)
  | some (.sink mode) =>
    if mode &&& ownerWriteBit = 0 then .error .accessDenied else .ok (.sink mode)
  | some _ => .ok (.file 0o755 content)
  | none => .ok (.file newFileMode content)

/-- Gives the file at a path a content; a missing file is made. -/
def write (fs : FileSystem) (here : Place) (path : String) (content : Bytes) :
    Except Errno FileSystem := do
  let place ← fs.locate here path true
  let node ← written (fs.get? place) content
  return fs.put place node

/-- The content of the file at a path that is opened for writing as well. -/
def readWritable (fs : FileSystem) (here : Place) (path : String) : Except Errno Bytes := do
  let (_, node) ← fs.find here path
  let _ ← written (some node) []
  fs.read here path

/-- A node with other permissions. -/
def withMode (mode : Nat) : Node → Node
  | .file _ content => .file mode content
  | .sink _ => .sink mode
  | node => node

/-- Changes the permissions of the file at a path. -/
def chmod (fs : FileSystem) (here : Place) (path : String) (mode : Nat) :
    Except Errno FileSystem :=
  (fs.find here path).map fun (place, node) => fs.put place (withMode mode node)

/-- Makes one directory. -/
def makeDirectory (fs : FileSystem) (here : Place) (path : String) : Except Errno FileSystem := do
  let place ← fs.locate here path false
  match fs.get? place with
  | some _ => .error .exists
  | none => .ok (fs.put place .directory)

/-- Does a directory stand at a path? -/
def isDirectory (fs : FileSystem) (here : Place) (path : String) : Bool :=
  match fs.find here path with
  | .ok (_, .directory) => true
  | _ => false

/-- Is there a file with permission to execute at a path? -/
def isExecutable (fs : FileSystem) (here : Place) (path : String) : Bool :=
  match fs.find here path with
  | .ok (_, .directory) => false
  | .ok (_, node) => modeOf node &&& executeBits != 0
  | .error _ => false

/-- Is the cause one of those that only say that nothing is there? -/
def meansAbsent : Errno → Bool
  | .noEntry | .notDirectory | .tooManyLinks => true
  | _ => false

/-- Does anything stand at a path?  Links are followed. -/
def hasEntry (fs : FileSystem) (here : Place) (path : String) : Except Errno Bool :=
  match fs.find here path with
  | .ok _ => .ok true
  | .error e => if meansAbsent e then .ok false else .error e

/-- Does a regular file stand at a path? -/
def hasFile (fs : FileSystem) (here : Place) (path : String) : Except Errno Bool :=
  match fs.find here path with
  | .ok (_, .file _ _) | .ok (_, .tool _) => .ok true
  | .ok _ => .ok false
  | .error e => if meansAbsent e then .ok false else .error e

end FileSystem

end DenoBridge
