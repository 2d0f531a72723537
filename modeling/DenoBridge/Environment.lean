/-! # Environments

    An environment is a list of named texts.  The last value given to a name
    counts.
-/

namespace DenoBridge

/-- Variables and their values, the newest first. -/
structure Environment where
  bindings : List (String × String)
  deriving Repr

namespace Environment

/-- The environment without variables. -/
def empty : Environment :=
  ⟨[]⟩

/-- The value of a variable. -/
def get? (env : Environment) (name : String) : Option String :=
  env.bindings.lookup name

/-- The value of a variable, empty when it is unset. -/
def getD (env : Environment) (name : String) : String :=
  (env.get? name).getD ""

/-- The value of a variable that is set and not empty. -/
def nonEmpty? (env : Environment) (name : String) : Option String :=
  (env.get? name).filter (· ≠ "")

/-- The environment after a variable was unset. -/
def unset (env : Environment) (name : String) : Environment :=
  ⟨env.bindings.filter (·.1 ≠ name)⟩

/-- The environment after a variable was given a value. -/
def set (env : Environment) (name value : String) : Environment :=
  ⟨(name, value) :: (env.unset name).bindings⟩

/-- The environment in which the pairs were set one after the other. -/
def ofList (pairs : List (String × String)) : Environment :=
  pairs.foldl (fun env pair => env.set pair.1 pair.2) empty

end Environment

end DenoBridge
