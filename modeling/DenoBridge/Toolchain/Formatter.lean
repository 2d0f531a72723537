import DenoBridge.Error
import DenoBridge.Toolchain.Probe

/-! # Formatting

    Source text is piped through the toolchain.  Without an executable there
    is no result; a formatter that does not start or fails is an error.
-/

namespace DenoBridge.Toolchain

/-- Why a text was not formatted. -/
inductive FormatFailure where
  | formatter (e : FormatterError)
  /-- The command line cannot be run at all. -/
  | command (e : CommandError)
  deriving Repr, DecidableEq

/-- What a failed start means for formatting: everything that the operating
    system refuses is an error of the formatter. -/
def startFailure (e : CommandError) : FormatFailure :=
  match e with
  | .notFound _ | .file (.os _) => .formatter ⟨e.message, none⟩
  | e => .command e

/-- The formatted text. -/
def format (s : Settings) (source : String) (m : Machine) :
    Except FormatFailure (Option String) × Machine :=
  match executable m s with
  | none => (.ok none, m)
  | some path =>
    match m.stream [path.text, "fmt", "-"] source with
    | (.error e, m) => (.error (startFailure e), m)
    | (.ok done, m) =>
      if done.status = 0 then (.ok (some done.output), m)
      else
        (.error (.formatter ⟨done.errors, some done.status⟩),
          m.debug "denokit.formatter" s!"deno fmt exited with {done.status}")

/-- The formatted text of a part of a document, without the blanks that
    formatting puts around it. -/
def formatFragment (s : Settings) (source : String) (m : Machine) :
    Except FormatFailure (Option String) × Machine :=
  match format s source m with
  | (.ok (some text), m) => (.ok (some (String.ofList (Text.trim text.toList))), m)
  | other => other

end DenoBridge.Toolchain
