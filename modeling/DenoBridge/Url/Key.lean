import DenoBridge.Digest.Sha256
import DenoBridge.Hostname.Ascii
import DenoBridge.Path.Basic
import DenoBridge.Url.Percent
import DenoBridge.Url.Segments
import DenoBridge.Url.Split

/-! # Cache keys of modules

    A remote module is cached under its scheme, its host and the digest of
    its resource.  The resource is the path without dot segments, percent
    encoded, and the query behind it.  Credentials, port and fragment do not
    count.
-/

namespace DenoBridge.Url

/-- Why a URL has no key. -/
inductive KeyError where
  /-- There is no scheme or no host, or the port is no number in range. -/
  | incomplete (url : String)
  /-- The URL cannot be cut into parts. -/
  | fault (cause : Fault)
  deriving Repr, DecidableEq

/-- The wording of a key error. -/
def KeyError.message : KeyError → String
  | .incomplete url =>
    "Cannot derive a cache path for '" ++ url ++ "': scheme and host are required"
  | .fault cause => cause.message

/-- The parts of a URL after cleaning. -/
def parts (url : String) : Except KeyError Parts :=
  match split (clean url.toList) with
  | .ok parts => .ok parts
  | .error cause => .error (.fault cause)

/-! ## Section 1: The resource -/

/-- The schemes in which a backslash counts as a slash. -/
def specialSchemes : List (List Char) :=
  ["ftp".toList, "file".toList, "http".toList, "https".toList, "ws".toList, "wss".toList]

/-- The path of a URL as the toolchain reads it: a slash comes first, and with
    a special scheme backslashes are slashes. -/
def Parts.rootedPath (parts : Parts) : List Char :=
  let path :=
    if specialSchemes.contains parts.scheme then Text.replaceChar '\\' '/' parts.path
    else parts.path
  if path.head? = some '/' then path else '/' :: path

/-- The path and query that name a module within its host. -/
def Parts.resource (parts : Parts) : List Char :=
  let path := percentEncode pathMarks (resolveDots parts.rootedPath)
  if parts.query.isEmpty then path
  else path ++ '?' :: percentEncode queryMarks parts.query

/-- The resource of a URL. -/
def canonicalResource (url : String) : Except KeyError String :=
  match parts url with
  | .error e => .error e
  | .ok parts =>
    if parts.scheme.isEmpty || parts.host.isEmpty || !parts.portOk then .error (.incomplete url)
    else .ok (String.ofList parts.resource)

/-- The digest of the resource of a URL. -/
def contentHash (url : String) : Except KeyError String :=
  (canonicalResource url).map fun resource =>
    String.ofList (Sha256.hex (Utf8.encodeString resource))

/-! ## Section 2: The key -/

/-- The name of a host in the cache: an IPv6 address stands in brackets, and
    an international name is written in ASCII where it can be. -/
def Parts.hostName (parts : Parts) : List Char :=
  let host := parts.host
  if host.contains ':' then '[' :: host ++ [']']
  else if Hostname.isAscii host then host
  else (Hostname.toAscii? host).getD host

/-- The place of a remote module relative to the dependency cache. -/
structure Key where
  scheme : String
  host : String
  contentHash : String
  deriving Repr, DecidableEq

/-- The key as a path. -/
def Key.path (key : Key) : Path :=
  ((Path.ofString key.scheme).child key.host).child key.contentHash

/-- The key of a URL.  Scheme and host are read from the URL once more. -/
def keyOf (url : String) : Except KeyError Key := do
  let hash ← contentHash url
  let scheme ←
    match split (Text.trim url.toList) with
    | .ok parts => .ok parts.scheme
    | .error cause => .error (.fault cause)
  let parts ← parts url
  return ⟨String.ofList scheme, String.ofList parts.hostName, hash⟩

end DenoBridge.Url
