import DenoBridge.Text.Quoted

/-! # Failures of the operating system

    The causes for which a file or a program cannot be used, with their
    numbers and wordings.
-/

namespace DenoBridge

/-- Why the operating system refuses a call. -/
inductive Errno where
  | noEntry
  | noExecFormat
  | accessDenied
  | exists
  | notDirectory
  | isDirectory
  | nameTooLong
  | tooManyLinks
  deriving Repr, DecidableEq

/-- The number of a cause. -/
def Errno.code : Errno → Nat
  | .noEntry => 2
  | .noExecFormat => 8
  | .accessDenied => 13
  | .exists => 17
  | .notDirectory => 20
  | .isDirectory => 21
  | .nameTooLong => 36
  | .tooManyLinks => 40

/-- The wording of a cause. -/
def Errno.message : Errno → String
  | .noEntry => "No such file or directory"
  | .noExecFormat => "Exec format error"
  | .accessDenied => "Permission denied"
  | .exists => "File exists"
  | .notDirectory => "Not a directory"
  | .isDirectory => "Is a directory"
  | .nameTooLong => "File name too long"
  | .tooManyLinks => "Too many levels of symbolic links"

/-- A refused call and the file it was about. -/
structure OsError where
  cause : Errno
  file : String
  deriving Repr, DecidableEq

/-- The wording of a refused call. -/
def OsError.message (e : OsError) : String :=
  s!"[Errno {e.cause.code}] {e.cause.message}: " ++ Text.quote e.file

/-- Why a call on a file fails: the system refuses it, or the file's name
    holds a NUL and is no name at all. -/
inductive FileFault where
  | os (e : OsError)
  | embeddedNul
  deriving Repr, DecidableEq

/-- The wording of a fault. -/
def FileFault.message : FileFault → String
  | .os e => e.message
  | .embeddedNul => "embedded null byte"

end DenoBridge
