import DenoBridge.Cache
import DenoBridge.Error
import DenoBridge.Toolchain.Probe

/-! # Declaration files

    The declaration file of a mode holds what the toolchain prints and is
    protected against writing.  A pass compares the file with the toolchain's
    output and creates, replaces or protects it as needed.

    A pass is written over the calls it makes on files, so that the same
    steps can be run on a file system or on one whose calls may fail.
-/

namespace DenoBridge

/-! ## Section 1: Calls on files -/

/-- The calls that a pass makes on files. -/
structure FileAccess (m : Type → Type) where
  hasEntry : Path → m Bool
  makeDirectories : Path → m Unit
  read : Path → m Bytes
  mode : Path → m Nat
  chmod : Path → Nat → m Unit
  write : Path → Bytes → m Unit

/-- Work on a file system that may fail.  What was done before a failure
    stays done. -/
abbrev FileWork := ExceptT FileFault (StateM FileSystem)

namespace FileSystem

/-- Does the path hold a NUL, so that no call can be made on it? -/
def isUnusable (path : Path) : Bool :=
  path.text.toList.contains '\x00'

/-- The result of looking at a file system. -/
def look (path : Path) (call : FileSystem → Except Errno α) : FileWork α := do
  if isUnusable path then throw .embeddedNul
  match call (← get) with
  | .ok found => return found
  | .error e => throw (.os ⟨e, path.text⟩)

/-- The effect of changing a file system. -/
def change (path : Path) (call : FileSystem → Except Errno FileSystem) : FileWork Unit := do
  let files ← look path call
  set files

/-- Makes a directory; one that is there already is fine. -/
def ensureDirectory (here : Place) (path : Path) : FileWork Unit :=
  tryCatch (change path fun fs => fs.makeDirectory here path.text) fun fault => do
    match fault with
    | .os _ => if (← get).isDirectory here path.text then return () else throw fault
    | .embeddedNul => throw fault

/-- Makes a directory and all that lead to it.  Only where something is
    missing on the way is the directory above made first. -/
def ensureDirectories (here : Place) (path : Path) : FileWork Unit :=
  tryCatch (change path fun fs => fs.makeDirectory here path.text) fun fault => do
    match fault with
    | .os ⟨.noEntry, _⟩ =>
      if _h : path.names = [] then throw fault
      else
        ensureDirectories here path.parent
        ensureDirectory here path
    | .os _ => if (← get).isDirectory here path.text then return () else throw fault
    | .embeddedNul => throw fault
termination_by path.names.length
decreasing_by
  simp only [Path.parent, List.length_dropLast]
  have := List.length_pos_iff.2 _h
  omega

/-- The calls on a file system, seen from a directory. -/
def access (here : Place) : FileAccess FileWork where
  hasEntry path :=
    if isUnusable path then return false else look path fun fs => fs.hasEntry here path.text
  makeDirectories path := ensureDirectories here path
  read path := look path fun fs => fs.read here path.text
  mode path := look path fun fs => fs.mode here path.text
  chmod path mode := change path fun fs => fs.chmod here path.text mode
  write path content := change path fun fs => fs.write here path.text content

end FileSystem

/-! ## Section 2: A pass -/

namespace Declarations

/-- The mode of a protected file. -/
def readOnlyMode : Nat := 0o444

/-- The mode of a file that is about to be rewritten. -/
def writableMode : Nat := 0o666

/-- What a pass did to the file. -/
inductive Outcome where
  | created
  | updated
  | unchanged
  deriving Repr, DecidableEq

/-- The name of an outcome. -/
def Outcome.name : Outcome → String
  | .created => "created"
  | .updated => "updated"
  | .unchanged => "unchanged"

variable {m : Type → Type} [Monad m]

/-- Gives the file a content and protects it. -/
def writeProtected (calls : FileAccess m) (path : Path) (content : Bytes) : m Unit := do
  if ← calls.hasEntry path then calls.chmod path writableMode
  calls.write path content
  calls.chmod path readOnlyMode

/-- Brings the file in line with a content. -/
def refresh (calls : FileAccess m) (path : Path) (content : Bytes) : m Outcome := do
  if !(← calls.hasEntry path) then
    calls.makeDirectories path.parent
    writeProtected calls path content
    return .created
  else if (← calls.read path) ≠ content then
    writeProtected calls path content
    return .updated
  else
    if (← calls.mode path) &&& FileSystem.writeBits ≠ 0 then calls.chmod path readOnlyMode
    return .unchanged

/-! ## Section 3: Passes of a toolchain -/

/-- Why a pass has no outcome. -/
inductive Failure where
  /-- The toolchain gave no declarations. -/
  | unavailable
  /-- The file could not be read, written or protected. -/
  | file (e : SyncError)
  /-- The file's path holds a NUL. -/
  | embeddedNul
  /-- The toolchain's versions could not be read. -/
  | excess (e : VersionReport.Excess)
  deriving Repr, DecidableEq

/-- The wording of a failure. -/
def Failure.message : Failure → String
  | .unavailable => "Unable to read type declarations from the Deno toolchain"
  | .file e => e.message
  | .embeddedNul => FileFault.embeddedNul.message
  | .excess e => e.message

/-- The failure that a fault on the way to a file is. -/
def Failure.ofFault (path : Path) : FileFault → Failure
  | .os e => .file ⟨path.text, e.cause.message⟩
  | .embeddedNul => .embeddedNul

/-- The record that an outcome leaves. -/
def record? (path : Path) (content : Bytes) : Outcome → Option String
  | .created => some s!"created {path.text} ({content.length} bytes)"
  | .updated => some s!"refreshed {path.text} ({content.length} bytes)"
  | .unchanged => none

/-- Brings the file of a mode in line with the toolchain. -/
def synchronize (s : Settings) (path : Path) (unstable : Bool) (m : Machine) :
    Except Failure Outcome × Machine :=
  match Toolchain.typeDeclarations s unstable m with
  | (.error e, m) => (.error (.excess e), m)
  | (.ok none, m) => (.error .unavailable, m)
  | (.ok (some content), m) =>
    let work := refresh (FileSystem.access m.directory) path content
    match work.run m.files with
    | (.error fault, files) => (.error (.ofFault path fault), { m with files := files })
    | (.ok outcome, files) =>
      let m := { m with files := files }
      match record? path content outcome with
      | some text => (.ok outcome, m.debug "denokit.declarations" text)
      | none => (.ok outcome, m)

end Declarations

end DenoBridge
