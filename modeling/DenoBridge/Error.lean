import DenoBridge.Text.Blank

/-! # Failures of the toolchain's work

    What can go wrong when the toolchain is asked to do something, and how it
    is worded.
-/

namespace DenoBridge

/-- The formatter did not start, or ended with a status other than 0.  Without
    a status it did not start, and `stderr` says why. -/
structure FormatterError where
  stderr : String
  status : Option Int
  deriving Repr, DecidableEq

/-- The wording of a formatter error. -/
def FormatterError.message (e : FormatterError) : String :=
  let detail :=
    match Text.trim e.stderr.toList with
    | [] => "<no stderr>"
    | text => String.ofList text
  match e.status with
  | none => "Formatter could not be started: " ++ detail
  | some status => s!"Formatter exited with status {status}: {detail}"

/-- The declaration file could not be read, written or protected. -/
structure SyncError where
  path : String
  reason : String
  deriving Repr, DecidableEq

/-- The wording of a synchronisation error. -/
def SyncError.message (e : SyncError) : String :=
  "Failed to synchronise " ++ e.path ++ ": " ++ e.reason

end DenoBridge
