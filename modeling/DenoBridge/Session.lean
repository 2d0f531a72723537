import DenoBridge.Toolchain.Declarations
import DenoBridge.Toolchain.Formatter
import DenoBridge.Url.Key

/-! # Sessions

    A session joins settings with the place they are read in.  It answers
    where the cache is, where a module is cached, what the toolchain says, and
    keeps the declaration files.  Nothing is remembered but the settings:
    every answer follows the machine as it is at that moment.
-/

namespace DenoBridge

/-- A session. -/
structure Session where
  settings : Settings
  /-- The environment in which the cache root is looked up; without one it is
      the environment of the process. -/
  environment : Option Environment
  platform : Platform

namespace Session

/-! ## Section 1: Places -/

/-- The cache root. -/
def cacheRoot (s : Session) (m : Machine) : Path :=
  Cache.root s.settings (s.environment.getD m.environment) s.platform

/-- The directory of the cached remote modules. -/
def dependencyRoot (s : Session) (m : Machine) : Path :=
  Cache.dependencies (s.cacheRoot m)

/-- The declaration file of a mode. -/
def declarationFileFor (s : Session) (m : Machine) (unstable : Bool) : Path :=
  Cache.declarationFile (s.cacheRoot m) unstable

/-- The declaration file of the session's mode. -/
def declarationFile (s : Session) (m : Machine) : Path :=
  s.declarationFileFor m s.settings.unstable

/-- The file in which the module of a URL is cached. -/
def cachedFile (s : Session) (m : Machine) (url : String) : Except Url.KeyError Path :=
  (Url.keyOf url).map fun key => (s.dependencyRoot m).join key.path

/-- Does a path lie in the cache? -/
def isInCache (s : Session) (m : Machine) (path : Option String) :
    Except ContainmentError Bool :=
  isWithin path (some (s.cacheRoot m).text)

/-! ## Section 2: Changes -/

/-- Pins the cache root. -/
def setCacheRoot (s : Session) (path : Option String) : Except PathError Session :=
  (normalize? path).map fun root =>
    { s with settings := { s.settings with cacheRootOverride := some root } }

/-- Assigns a field of the settings. -/
def assign (s : Session) (a : Settings.Assignment) : Except Settings.AssignError Session :=
  (s.settings.assign a).map fun settings => { s with settings := settings }

/-! ## Section 3: The toolchain -/

/-- The executable of the toolchain. -/
def executable (s : Session) (m : Machine) : Option Path :=
  Toolchain.executable m s.settings

/-- Brings the declaration file of a mode, or of the session's mode, in line
    with the toolchain. -/
def synchronize (s : Session) (mode : Option Bool) (m : Machine) :
    Except Declarations.Failure Declarations.Outcome × Machine :=
  let unstable := mode.getD s.settings.unstable
  Declarations.synchronize s.settings (s.declarationFileFor m unstable) unstable m

end Session

end DenoBridge
