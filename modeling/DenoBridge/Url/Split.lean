import DenoBridge.Hostname.Folding
import DenoBridge.Text.Blank
import DenoBridge.Text.LowerCase
import DenoBridge.Text.Quoted
import DenoBridge.Url.IpLiteral

/-! # The parts of a URL

    A URL is cut into scheme, authority, path, query and fragment.  Cutting is
    refused only for the authority: brackets must come in pairs and enclose
    an address, and no character may imitate one of the marks that separate
    the parts.
-/

namespace DenoBridge.Url

/-- The parts of a URL. -/
structure Parts where
  scheme : List Char
  authority : List Char
  path : List Char
  query : List Char
  fragment : List Char
  deriving Repr, DecidableEq

/-- Why an authority is refused. -/
inductive Fault where
  /-- A bracket stands alone or in a wrong place. -/
  | brackets
  /-- The brackets enclose a malformed address of a later version. -/
  | futureAddress
  /-- The brackets enclose something that is no address. -/
  | noAddress (text : String)
  /-- The brackets enclose an IPv4 address. -/
  | bracketedIPv4
  /-- A character imitates a mark. -/
  | impostor (authority : String)
  deriving Repr, DecidableEq

/-- The wording of a fault. -/
def Fault.message : Fault → String
  | .brackets => "Invalid IPv6 URL"
  | .futureAddress => "IPvFuture address is invalid"
  | .noAddress text => Text.quote text ++ " does not appear to be an IPv4 or IPv6 address"
  | .bracketedIPv4 => "An IPv4 address cannot be in brackets"
  | .impostor authority =>
    "netloc '" ++ authority ++ "' contains invalid characters under NFKC normalization"

/-! ## Section 1: Characters without meaning -/

/-- Tabs and line breaks, which count for nothing wherever they stand. -/
def isBreak (c : Char) : Bool :=
  c == '\t' || c == '\n' || c == '\r'

/-- The text without tabs and line breaks. -/
def dropBreaks (text : List Char) : List Char :=
  text.filter (!isBreak ·)

/-- The text without leading controls and spaces and without breaks. -/
def strip (text : List Char) : List Char :=
  dropBreaks (text.dropWhile (· ≤ ' '))

/-- The text of a URL without blanks around it and without breaks. -/
def clean (url : List Char) : List Char :=
  dropBreaks (Text.trim url)

/-! ## Section 2: The scheme -/

/-- May the character stand in a scheme? -/
def isSchemeChar (c : Char) : Bool :=
  c.isAlphanum || c == '+' || c == '-' || c == '.'

/-- Is the text a scheme: a letter and characters that may follow? -/
def isScheme (text : List Char) : Bool :=
  text.head?.any Char.isAlpha && text.all isSchemeChar

/-- The scheme in lower case, empty if there is none, and what follows it. -/
def splitScheme (text : List Char) : List Char × List Char :=
  match Text.cutAt (· == ':') text with
  | (front, some rest) => if isScheme front then (front.map Text.asciiLower, rest) else ([], text)
  | _ => ([], text)

/-! ## Section 3: The authority -/

/-- Does the character end an authority? -/
def endsAuthority (c : Char) : Bool :=
  c == '/' || c == '?' || c == '#'

/-- The authority behind two slashes, empty without them, and what follows
    it. -/
def splitAuthority : List Char → List Char × List Char
  | '/' :: '/' :: rest =>
    (rest.takeWhile (!endsAuthority ·), rest.dropWhile (!endsAuthority ·))
  | text => ([], text)

/-- What an authority says about the host: the text behind the last `@`. -/
def hostInfo (authority : List Char) : List Char :=
  (Text.cutAtLast '@' authority).2

/-- Checks the text between brackets. -/
def checkLiteral (text : List Char) : Except Fault Unit :=
  if text.head? = some 'v' then
    if isFutureAddress text then .ok () else .error .futureAddress
  else if isIPv6 text then .ok ()
  else if isIPv4 text then .error .bracketedIPv4
  else .error (.noAddress (String.ofList text))

/-- Checks an authority that holds both brackets. -/
def checkBrackets (authority : List Char) : Except Fault Unit :=
  match Text.cutAt (· == '[') (hostInfo authority) with
  | (before, some bracketed) =>
    let (host, after) := Text.cutAt (· == ']') bracketed
    let tail := after.getD []
    if !before.isEmpty || !(tail.isEmpty || tail.head? == some ':') then .error .brackets
    else checkLiteral host
  | (info, none) => checkLiteral (Text.cutAt (· == ':') info).1

/-- Checks an authority for brackets and impostors. -/
def checkAuthority (authority : List Char) : Except Fault Unit :=
  match authority.contains '[', authority.contains ']' with
  | true, true => checkBrackets authority
  | false, false => .ok ()
  | _, _ => .error .brackets

/-- Checks that no character imitates a mark. -/
def checkImpostors (authority : List Char) : Except Fault Unit :=
  if authority.any fun c => Hostname.impostors.contains c.toNat then
    .error (.impostor (String.ofList authority))
  else .ok ()

/-! ## Section 4: All parts -/

/-- The parts of a URL. -/
def split (url : List Char) : Except Fault Parts := do
  let (scheme, rest) := splitScheme (strip url)
  let (authority, rest) := splitAuthority rest
  checkAuthority authority
  let (rest, fragment) := Text.cutAt (· == '#') rest
  let (path, query) := Text.cutAt (· == '?') rest
  checkImpostors authority
  return ⟨scheme, authority, path, query.getD [], fragment.getD []⟩

/-! ## Section 5: Host and port -/

/-- The host as it is written, without brackets, and the port behind it. -/
def hostAndPort (authority : List Char) : List Char × List Char :=
  match Text.cutAt (· == '[') (hostInfo authority) with
  | (_, some bracketed) =>
    let (host, after) := Text.cutAt (· == ']') bracketed
    (host, ((Text.cutAt (· == ':') (after.getD [])).2).getD [])
  | (info, none) =>
    let (host, port) := Text.cutAt (· == ':') info
    (host, port.getD [])

/-- The host in lower case, except for a zone behind a percent sign. -/
def Parts.host (parts : Parts) : List Char :=
  let written := (hostAndPort parts.authority).1
  Text.lower (written.takeWhile (· != '%')) ++ written.dropWhile (· != '%')

/-- Is the port absent or a number up to 65535? -/
def Parts.portOk (parts : Parts) : Bool :=
  let port := (hostAndPort parts.authority).2
  port.all Char.isDigit && port.length ≤ Digits.digitLimit && Digits.value port ≤ 65535

end DenoBridge.Url
