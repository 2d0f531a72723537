import DenoBridge.Machine.Basic
import DenoBridge.Path.Normal

/-! # Home directories and real paths

    A path that begins with a tilde is seen from a home directory: the
    user's own, or the one of the account that is named.  The real path of a
    path is absolute and goes through no links.
-/

namespace DenoBridge

/-! ## Section 1: Homes -/

/-- The system accounts with their home directories. -/
def accounts : List (String × String) :=
  [("root", "/root"), ("daemon", "/usr/sbin"), ("bin", "/bin"), ("sys", "/dev"), ("sync", "/bin"),
    ("games", "/usr/games"), ("man", "/var/cache/man"), ("lp", "/var/spool/lpd"),
    ("mail", "/var/mail"), ("news", "/var/spool/news"), ("uucp", "/var/spool/uucp"),
    ("proxy", "/bin"), ("www-data", "/var/www"), ("backup", "/var/backups"), ("list", "/var/list"),
    ("irc", "/run/ircd"), ("_apt", "/nonexistent"), ("nobody", "/nonexistent")]

/-- The account that runs the program. -/
def ownAccount : String := "root"

/-- The home directory that a name after a tilde means; no name means the
    user's own home, which a variable can set. -/
def homeOf? (env : Environment) (account : String) : Option String :=
  if account = "" then (env.get? "HOME").or (accounts.lookup ownAccount)
  else accounts.lookup account

/-- A home directory without slashes at its end; nothing else means the
    root. -/
def homeText (home : String) : String :=
  match Text.dropTail (· == '/') home.toList with
  | [] => "/"
  | text => String.ofList text

/-- Why a path is not resolved. -/
inductive ResolveError where
  /-- There is no such home directory. -/
  | unknownHome
  /-- The path goes round in links. -/
  | loop (path : String)
  deriving Repr, DecidableEq

/-- The wording of an error. -/
def ResolveError.message : ResolveError → String
  | .unknownHome => "Could not determine home directory."
  | .loop path => "Symlink loop from " ++ Text.quote path

/-- A path with its tilde replaced by the home directory that it means. -/
def Path.expandHome (env : Environment) (path : Path) : Except ResolveError Path :=
  match path.anchor, path.names with
  | .relative, first :: rest =>
    match first.toList with
    | '~' :: account =>
      match (homeOf? env (String.ofList account)).map homeText with
      | none => .error .unknownHome
      | some home =>
        if home.toList.head? = some '~' then .error .unknownHome
        else
          let base := Path.ofString home
          .ok ⟨base.anchor, base.names ++ rest⟩
    | _ => .ok path
  | _, _ => .ok path

/-! ## Section 2: Real paths -/

namespace FileSystem

/-- The directory from which the target of a link is seen. -/
def targetStart (here : Place) (target : String) : Place :=
  if target.toList.head? = some '/' then [] else here

/-- The place that names lead to, with every link on the way followed and
    what is missing taken as it is.  `active` holds the links whose targets
    are being resolved; a link that leads back to itself is given with the
    names after it.  `depth` bounds how many links can be active. -/
def follow (fs : FileSystem) : Nat → List Place → Place → List String →
    Except (Place × List String) Place
  | _, _, here, [] => .ok here
  | depth, active, here, name :: rest =>
    if name = ".." then follow fs depth active here.dropLast rest
    else
      let next := here ++ [name]
      match fs.get? next, depth with
      | some (.link _), 0 => .error (next, rest)
      | some (.link target), depth + 1 =>
        if active.contains next then .error (next, rest)
        else
          match follow fs depth (next :: active) (targetStart here target)
              (Path.namesOf target.toList) with
          | .error (place, names) => .error (place, names ++ rest)
          | .ok place => follow fs (depth + 1) active place rest
      | _, depth => follow fs depth active next rest
termination_by depth _ _ names => (depth, names.length)

/-- The real path of a path seen from a directory.  From a link that leads
    back to itself on, the names are only normalised. -/
def realPath (fs : FileSystem) (here : Place) (path : Path) : Path :=
  let start := if path.isAbsolute then [] else here
  match fs.follow (fs.nodes.length + 1) [] start path.names with
  | .ok place => ⟨.root, place⟩
  | .error (place, names) => Path.collapse ⟨.root, place ++ names⟩

end FileSystem

/-- The real path of a path, unless it goes round in links. -/
def Machine.resolvePath (m : Machine) (path : Path) : Except ResolveError Path :=
  let real := m.files.realPath m.directory path
  match m.files.find m.directory real.text with
  | .error .tooManyLinks => .error (.loop real.text)
  | _ => .ok real

end DenoBridge
