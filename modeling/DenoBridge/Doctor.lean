import DenoBridge.Session

/-! # Checks of the environment

    Whether the toolchain can be used: is it found, does it tell its version,
    and does it agree on the cache root?  Whether the declaration files are
    there is told as well, but is not required.
-/

namespace DenoBridge.Doctor

/-- The outcome of a check. -/
structure Check where
  name : String
  passed : Bool
  detail : List Glyph
  deriving Repr, DecidableEq

/-- Why the checks cannot be made. -/
inductive Failure where
  | excess (e : VersionReport.Excess)
  | os (e : OsError)
  deriving Repr, DecidableEq

/-- The wording of a failure. -/
def Failure.message : Failure → String
  | .excess e => e.message
  | .os e => e.message

/-- A check about which a string is told. -/
def Check.ofString (name : String) (passed : Bool) (detail : String) : Check :=
  ⟨name, passed, Glyph.ofString detail⟩

/-- Is the toolchain found? -/
def checkExecutable (found : Option Path) : Check :=
  .ofString "Executable" found.isSome ((found.map Path.text).getD "not on PATH")

/-- Does the toolchain tell its version? -/
def checkVersion (report : Option VersionReport) : Check :=
  match report with
  | none => .ofString "Version" false "unavailable"
  | some report => ⟨"Version", true, report.deno⟩

/-- Does the toolchain agree on the cache root? -/
def checkRoot (computed : Path) (reported : Option Path) : Check :=
  match reported with
  | none => .ofString "Reported root" false "deno info produced no cache root"
  | some root =>
    if root = computed then .ofString "Reported root" true root.text
    else .ofString "Reported root" false s!"{root.text} (computed {computed.text})"

/-- Is a declaration file there? -/
def checkDeclarations (m : Machine) (path : Path) : Except Failure Check :=
  if FileSystem.isUnusable path then .ok (.ofString path.name false "missing")
  else
    match m.files.hasFile m.directory path.text with
    | .error e => .error (.os ⟨e, path.text⟩)
    | .ok found => .ok (.ofString path.name found (if found then path.text else "missing"))

/-- All checks, in the order in which they are shown. -/
def checks (s : Session) (m : Machine) : Except Failure (List Check) × Machine :=
  let found := s.executable m
  match Toolchain.version s.settings m with
  | (.error e, m) => (.error (.excess e), m)
  | (.ok report, m) =>
    let computed := s.cacheRoot m
    let (reported, m) := Toolchain.reportedRoot s.settings m
    let declarations := [false, true].mapM fun unstable =>
      checkDeclarations m (s.declarationFileFor m unstable)
    let first :=
      [checkExecutable found, checkVersion report, .ofString "Cache root" true computed.text,
        checkRoot computed reported]
    (declarations.map (first ++ ·), m)

/-- The checks that have to pass. -/
def isRequired (check : Check) : Bool :=
  ["Executable", "Version", "Reported root"].contains check.name

/-- Is the toolchain ready for use? -/
def isHealthy (checks : List Check) : Bool :=
  (checks.filter isRequired).all (·.passed)

end DenoBridge.Doctor
