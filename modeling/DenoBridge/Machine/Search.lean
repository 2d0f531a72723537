import DenoBridge.Machine.Basic

/-! # Finding executables

    A name without a slash is looked for in the directories of `PATH`, a name
    with one is a file of its own.  An empty entry of `PATH` is the current
    directory.
-/

namespace DenoBridge

/-- Where executables are looked for when `PATH` is unset. -/
def defaultSearchPath : String := "/bin:/usr/bin"

/-- The directories in the text of `PATH`. -/
def searchDirectories (path : String) : List String :=
  (Text.pieces ':' path.toList).map String.ofList

/-- Does the name say where the file is? -/
def hasDirectory (name : String) : Bool :=
  name.toList.contains '/'

/-- A name in a directory. -/
def inDirectory (directory name : String) : String :=
  if directory = "" then name
  else if directory.toList.getLast? = some '/' then directory ++ name
  else directory ++ "/" ++ name

namespace Machine

/-- Is there an executable file at a path? -/
def isExecutable (m : Machine) (path : String) : Bool :=
  !path.toList.contains '\x00' && m.files.isExecutable m.directory path

/-- The executable that a name stands for. -/
def which (m : Machine) (name : String) : Option String :=
  if hasDirectory name then if m.isExecutable name then some name else none
  else
    let path := (m.environment.get? "PATH").getD defaultSearchPath
    if path = "" then none
    else ((searchDirectories path).map (inDirectory · name)).find? m.isExecutable

end Machine

end DenoBridge
