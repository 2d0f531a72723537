import DenoBridge.Environment
import DenoBridge.Path.Normal
import DenoBridge.Settings

/-! # The cache

    Where the toolchain keeps its cache.  The root is an override of the
    settings, or else a variable of the environment, or else a directory that
    depends on the platform and on a few variables; an unset variable counts
    as an empty text, so there is always an answer.  The dependencies and the
    declaration files stand one name below the root.
-/

namespace DenoBridge

/-! ## Section 1: Platforms -/

/-- The platforms that have rules of their own. -/
inductive Platform where
  | windows
  | mac
  | linux
  | other
  deriving Repr, DecidableEq

/-- The platform with a given name. -/
def Platform.ofName (name : String) : Platform :=
  if name = "win32" then .windows
  else if name = "darwin" then .mac
  else if "linux".toList.isPrefixOf name.toList then .linux
  else .other

/-- The text of the default cache root. -/
def Platform.defaultRootText (platform : Platform) (env : Environment) : String :=
  let home := env.getD "HOME"
  match platform with
  | .windows => env.getD "LOCALAPPDATA" ++ "\\deno"
  | .mac => home ++ "/Library/Caches/deno"
  | .linux =>
    match env.nonEmpty? "XDG_CACHE_HOME" with
    | some cache => cache ++ "/deno"
    | none => home ++ "/.cache/deno"
  | .other => home ++ "/.deno"

/-- The default cache root of a platform. -/
def Platform.defaultRoot (platform : Platform) (env : Environment) : Path :=
  .ofString (platform.defaultRootText env)

/-! ## Section 2: The root and what stands below it -/

namespace Cache

/-- The cache root under the given settings. -/
def root (settings : Settings) (env : Environment) (platform : Platform) : Path :=
  match settings.cacheRootOverride with
  | some override => override.normalize
  | none =>
    match env.nonEmpty? settings.rootVariable with
    | some text => Path.normalForm text
    | none => (platform.defaultRoot env).normalize

/-- The directory of the cached remote modules. -/
def dependencies (root : Path) : Path :=
  root.child "deps"

/-- The name of the file that holds the declarations of a mode. -/
def declarationName (unstable : Bool) : String :=
  if unstable then "lib.deno.unstable.d.ts" else "lib.deno.d.ts"

/-- The file that holds the declarations of a mode. -/
def declarationFile (root : Path) (unstable : Bool) : Path :=
  root.child (declarationName unstable)

end Cache

end DenoBridge
