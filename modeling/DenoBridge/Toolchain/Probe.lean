import DenoBridge.Json.Display
import DenoBridge.Machine.Command
import DenoBridge.Path.Normal
import DenoBridge.Settings
import DenoBridge.Version.Report

/-! # Asking the toolchain

    The toolchain is asked for its versions, its type declarations and its
    cache root.  Nothing is remembered between questions.  A toolchain that
    is missing, does not start, fails or answers something else gives no
    answer; each such case leaves a debugging record.
-/

namespace DenoBridge.Toolchain

/-- The logger of this part. -/
def probeLogger : String := "denokit.probe"

/-! ## Section 1: Questions -/

/-- The executable that the settings name. -/
def executable (m : Machine) (s : Settings) : Option Path :=
  (m.which s.executable).map .ofString

/-- Runs the toolchain with some arguments; a failure gives no answer. -/
def query (run : Machine → List String → Except CommandError α × Machine) (s : Settings)
    (arguments : List String) (m : Machine) : Option α × Machine :=
  match executable m s with
  | none => (none, m.debug probeLogger (s.executable ++ " not found on PATH"))
  | some path =>
    match run m (path.text :: arguments) with
    | (.ok answer, m) => (some answer, m)
    | (.error e, m) =>
      let command := path.text ++ " " ++ " ".intercalate arguments
      (none, m.debug probeLogger (command ++ " failed: " ++ e.message))

/-- Asks for a text. -/
def queryText (s : Settings) (arguments : List String) (m : Machine) :
    Option (Completed String) × Machine :=
  query (fun m command => m.runText command true) s arguments m

/-- Asks for bytes. -/
def queryBytes (s : Settings) (arguments : List String) (m : Machine) :
    Option (Completed Bytes) × Machine :=
  query (fun m command => m.runBytes command true) s arguments m

/-! ## Section 2: Versions -/

/-- The program that makes the toolchain print its versions. -/
def versionScript : String := "console.log(JSON.stringify(Deno.version))"

/-- The record that an unusable payload leaves. -/
def payloadRecord? (payload : String) : VersionReport.Reading → Option String
  | .noJson => some ("version payload is not JSON: " ++ Text.quote payload)
  | .incomplete value => some ("version payload is missing fields: " ++ value.display)
  | _ => none

/-- The report in a payload; an unusable one leaves a record. -/
def readPayload (payload : String) (m : Machine) :
    Except VersionReport.Excess (Option VersionReport) × Machine :=
  match VersionReport.read m.nesting payload with
  | .error excess => (.error excess, m)
  | .ok reading =>
    match payloadRecord? payload reading with
    | some text => (.ok reading.toOption, m.debug "denokit.versioning" text)
    | none => (.ok reading.toOption, m)

/-- The versions of the toolchain. -/
def version (s : Settings) (m : Machine) :
    Except VersionReport.Excess (Option VersionReport) × Machine :=
  match queryText s ["eval", versionScript] m with
  | (none, m) => (.ok none, m)
  | (some done, m) =>
    if done.errors ≠ "" then
      (.ok none, m.debug probeLogger ("version probe wrote to stderr: " ++ done.errors))
    else readPayload done.output m

/-! ## Section 3: Declarations -/

/-- The declarations of a mode, as the toolchain prints them. -/
def typeDeclarations (s : Settings) (unstable : Bool) (m : Machine) :
    Except VersionReport.Excess (Option Bytes) × Machine :=
  match version s m with
  | (.error excess, m) => (.error excess, m)
  | (.ok none, m) => (.ok none, m)
  | (.ok (some report), m) =>
    match typeArguments unstable (some report) with
    | .error refusal => (.error (.digits refusal), m)
    | .ok arguments =>
      match queryBytes s arguments m with
      | (none, m) => (.ok none, m)
      | (some done, m) => (.ok (some done.output), m)

/-! ## Section 4: The reported cache root -/

/-- What follows a sequence that sets colours or styles, behind its escape
    character; `none` if there is no such sequence. -/
def afterStyle? : List Char → Option (List Char)
  | '[' :: rest =>
    match rest.dropWhile fun c => c.isDigit || c == ';' with
    | 'm' :: after => some after
    | _ => none
  | _ => none

theorem length_afterStyle?_le {text after : List Char} (h : afterStyle? text = some after) :
    after.length ≤ text.length := by
  unfold afterStyle? at h
  split at h
  · rename_i rest
    split at h
    · rename_i after' hdrop
      have hle :=
        (List.dropWhile_sublist (fun c : Char => c.isDigit || c == ';') (l := rest)).length_le
      rw [hdrop] at hle
      simp only [Option.some.injEq] at h
      subst h
      simp only [List.length_cons] at hle ⊢
      omega
    · simp at h
  · simp at h

/-- The text without sequences that set colours or styles. -/
def dropStyles : List Char → List Char
  | [] => []
  | c :: rest =>
    if c = '\x1b' then
      match _h : afterStyle? rest with
      | some after => dropStyles after
      | none => c :: dropStyles rest
    else c :: dropStyles rest
termination_by text => text.length
decreasing_by
  · have := length_afterStyle?_le _h
    simp only [List.length_cons]
    omega
  · simp
  · simp

/-- The first text that stands between two quotation marks and is not
    empty. -/
def quoted? (line : List Char) : Option (List Char) :=
  (Text.pieces '"' line).tail.dropLast.find? (!·.isEmpty)

/-- What follows the first `label` in a text. -/
def after? (label : List Char) : List Char → Option (List Char)
  | [] => none
  | c :: rest =>
    if label.isPrefixOf (c :: rest) then some ((c :: rest).drop label.length)
    else after? label rest

/-- What follows the label of the cache root, without blanks around it. -/
def labelled? (line : List Char) : Option (List Char) :=
  match (after? "location:".toList line).map Text.trim with
  | some [] => none
  | found => found

/-- The cache root in the first line of the toolchain's answer: between
    quotation marks, or else behind a label. -/
def rootIn? (line : List Char) : Option Path :=
  ((quoted? line).or (labelled? line)).map fun text => Path.normalForm (String.ofList text)

/-- The cache root that the toolchain reports. -/
def reportedRoot (s : Settings) (m : Machine) : Option Path × Machine :=
  match queryText s ["info"] m with
  | (none, m) => (none, m)
  | (some done, m) =>
    match Text.lines (dropStyles done.output.toList) with
    | [] => (none, m)
    | line :: _ =>
      match rootIn? line with
      | some root => (some root, m)
      | none =>
        let shown := Text.quote (String.ofList line)
        (none, m.debug probeLogger ("no cache root in info output: " ++ shown))

end DenoBridge.Toolchain
