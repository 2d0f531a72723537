import DenoBridge.Json.Reader
import DenoBridge.Version.Order

/-! # Reported versions

    The toolchain reports its versions as a JSON object with three texts, in
    which lone halves of surrogate pairs may stand.  A payload of any other
    form reports nothing; a payload that cannot be read for its size is an
    error of its own.
-/

namespace DenoBridge

/-- The versions of the toolchain and its parts. -/
structure VersionReport where
  deno : List Glyph
  v8 : List Glyph
  typescript : List Glyph
  deriving Repr, DecidableEq

namespace VersionReport

/-- The report of three strings. -/
def ofStrings (deno v8 typescript : String) : VersionReport :=
  ⟨Glyph.ofString deno, Glyph.ofString v8, Glyph.ofString typescript⟩

/-- The report as it is shown, a line for each part. -/
def display (report : VersionReport) : List Glyph :=
  Glyph.ofString "deno: " ++ report.deno ++ Glyph.ofString "\nv8: " ++ report.v8 ++
    Glyph.ofString "\ntypescript: " ++ report.typescript

/-- What a payload turns out to be. -/
inductive Reading where
  /-- A report. -/
  | found (report : VersionReport)
  /-- No JSON. -/
  | noJson
  /-- JSON, but no object. -/
  | noObject
  /-- An object that lacks one of the texts. -/
  | incomplete (value : Json)

/-- Why a payload cannot be read. -/
inductive Excess where
  | digits (refusal : Digits.TooMany)
  | nesting (shape : Json.Shape)
  deriving Repr, DecidableEq

/-- The wording of an excess. -/
def Excess.message : Excess → String
  | .digits refusal => refusal.message
  | .nesting shape =>
    "maximum recursion depth exceeded while decoding a JSON " ++
      (match shape with | .array => "array" | .object => "object") ++ " from a unicode string"

/-- The report in a JSON value. -/
def ofJson? (value : Json) : Option VersionReport := do
  let deno ← (← value.get? "deno").text?
  let v8 ← (← value.get? "v8").text?
  let typescript ← (← value.get? "typescript").text?
  return ⟨deno, v8, typescript⟩

/-- Reads a payload, with at most `limit` brackets open at once. -/
def read (limit : Nat) (payload : String) : Except Excess Reading :=
  match Json.read limit payload.toList with
  | .error .malformed => .ok .noJson
  | .error (.tooManyDigits refusal) => .error (.digits refusal)
  | .error (.tooDeep shape) => .error (.nesting shape)
  | .ok (.object members) =>
    match ofJson? (.object members) with
    | some report => .ok (.found report)
    | none => .ok (.incomplete (.object members))
  | .ok _ => .ok .noObject

/-- The report that was read. -/
def Reading.toOption : Reading → Option VersionReport
  | .found report => some report
  | _ => none

/-- The report in a payload. -/
def parse (limit : Nat) (payload : String) : Except Excess (Option VersionReport) :=
  (read limit payload).map Reading.toOption

end VersionReport

/-! ## The unstable surface -/

/-- The least version that can print the unstable declarations. -/
def unstableFloor : String := "0.43.0"

/-- Can the toolchain print the unstable declarations?  A text with a half in it
    is no version. -/
def supportsUnstable (version : Option VersionReport) : Except Digits.TooMany Bool :=
  Version.isCompatible (version.bind fun report => Glyph.string? report.deno)
    (some unstableFloor)

/-- The arguments that make the toolchain print its declarations.  A toolchain
    that is too old for the unstable ones gets to print the stable ones. -/
def typeArguments (unstable : Bool) (version : Option VersionReport) :
    Except Digits.TooMany (List String) := do
  let flagged ← if unstable then supportsUnstable version else .ok false
  return if flagged then ["types", "--unstable"] else ["types"]

end DenoBridge
