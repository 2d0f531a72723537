import DenoBridge.Environment
import DenoBridge.Json.Value
import DenoBridge.Path.Basic
import DenoBridge.Text.Blank
import DenoBridge.Text.LowerCase

/-! # Settings of a session

    Four fields: the name of the executable, a cache root that overrides all
    others, the mode, and the variable that names the cache root.  Values
    come as JSON and are checked when settings are built and whenever a field
    is assigned, so an executable is never blank and the variable's name is
    never empty.  A failed assignment changes nothing, and neither does one to
    a name that begins with an underscore.

    Names and paths are strings here, but an executable and an override may
    be given with lone halves of surrogate pairs in them.  They are kept with
    stand-ins for the halves; no file has a name with a half in it.
-/

namespace DenoBridge

/-- The settings of a session. -/
structure Settings where
  /-- The toolchain's name or file. -/
  executable : String
  /-- The cache root that stands above all others. -/
  cacheRootOverride : Option Path
  /-- Is the unstable declaration surface the one that is meant? -/
  unstable : Bool
  /-- The variable that names the cache root. -/
  rootVariable : String
  deriving Repr, DecidableEq

namespace Settings

/-! ## Section 1: Fields and flaws -/

/-- The fields, in order. -/
inductive Field where
  | executable
  | cacheRootOverride
  | unstable
  | rootVariable
  deriving Repr, DecidableEq

/-- The name under which a field is given. -/
def Field.name : Field → String
  | .executable => "executable"
  | .cacheRootOverride => "cache_root_override"
  | .unstable => "unstable"
  | .rootVariable => "root_env_var"

/-- All fields, in order. -/
def Field.all : List Field :=
  [.executable, .cacheRootOverride, .unstable, .rootVariable]

/-- The field with a given name. -/
def Field.ofName? (name : String) : Option Field :=
  Field.all.find? (·.name == name)

/-- What is wrong with a value. -/
inductive Flaw where
  | noText
  | brokenText
  | blankExecutable
  | noPath
  | unclearBool
  | noBool
  | tooShort
  | noSuchField (name : String)
  deriving Repr, DecidableEq

/-- The kind of a flaw. -/
def Flaw.kind : Flaw → String
  | .noText => "string_type"
  | .brokenText => "string_unicode"
  | .blankExecutable => "value_error"
  | .noPath => "path_type"
  | .unclearBool => "bool_parsing"
  | .noBool => "bool_type"
  | .tooShort => "string_too_short"
  | .noSuchField _ => "no_such_attribute"

/-- The wording of a flaw. -/
def Flaw.message : Flaw → String
  | .noText => "Input should be a valid string"
  | .brokenText =>
    "Input should be a valid string, unable to parse raw data as a unicode string"
  | .blankExecutable => "Value error, executable must not be blank"
  | .noPath => "Input is not a valid path for <class 'pathlib.Path'>"
  | .unclearBool => "Input should be a valid boolean, unable to interpret input"
  | .noBool => "Input should be a valid boolean"
  | .tooShort => "String should have at least 1 character"
  | .noSuchField name => "Object has no attribute '" ++ name ++ "'"

/-- A flaw in the value of a field, with the value. -/
structure Complaint where
  field : String
  flaw : Flaw
  input : Json
  deriving Repr

/-! ## Section 2: Checking values -/

/-- An executable: a text that is not blank, taken without the blanks around
    it. -/
def checkExecutable (value : Json) : Except Flaw String :=
  match value.text? with
  | none => .error .noText
  | some glyphs =>
    match Text.trim (Glyph.stringOf glyphs).toList with
    | [] => .error .blankExecutable
    | trimmed => .ok (String.ofList trimmed)

/-- An override: a path, or nothing. -/
def checkOverride (value : Json) : Except Flaw (Option Path) :=
  match value with
  | .null => .ok none
  | value =>
    match value.text? with
    | some glyphs => .ok (some (Path.ofString (Glyph.stringOf glyphs)))
    | none => .error .noPath

/-- The words that mean yes, in lower case. -/
def yesWords : List String :=
  ["1", "on", "t", "true", "y", "yes"]

/-- The words that mean no, in lower case. -/
def noWords : List String :=
  ["0", "off", "f", "false", "n", "no"]

/-- A text that says yes or no. -/
def checkWord (text : String) : Except Flaw Bool :=
  let word := String.ofList (text.toList.map Text.asciiLower)
  if yesWords.contains word then .ok true
  else if noWords.contains word then .ok false
  else .error .unclearBool

/-- A whole number that says yes or no. -/
def checkNumber (n : Int) : Except Flaw Bool :=
  if n = 1 then .ok true
  else if n = 0 then .ok false
  else .error .unclearBool

/-- Numbers of at least this size stand for nothing. -/
def numberLimit : Int := 9223372036854775808

/-- A mode: a boolean, or a word or a number that stands for one. -/
def checkBool : Json → Except Flaw Bool
  | .bool value => .ok value
  | .integer n => if -numberLimit ≤ n ∧ n < numberLimit then checkNumber n else .error .noBool
  | .real x =>
    match x.integer? with
    | some n => if -numberLimit < n ∧ n < numberLimit then checkNumber n else .error .noBool
    | none => .error .noBool
  | .string glyphs =>
    match Glyph.string? glyphs with
    | some text => checkWord text
    | none => .error .brokenText
  | _ => .error .noBool

/-- A variable's name: a text that is not empty and holds no halves. -/
def checkVariable (value : Json) : Except Flaw String :=
  match value.text? with
  | none => .error .noText
  | some glyphs =>
    match Glyph.string? glyphs with
    | none => .error .brokenText
    | some text => if text = "" then .error .tooShort else .ok text

/-! ## Section 3: Assignment -/

/-- The settings when nothing is said. -/
def default : Settings :=
  { executable := "deno"
    cacheRootOverride := none
    unstable := false
    rootVariable := "DENO_DIR" }

/-- The settings with one field set to a value. -/
def setField (s : Settings) (field : Field) (value : Json) : Except Flaw Settings :=
  match field with
  | .executable => (checkExecutable value).map fun text => { s with executable := text }
  | .cacheRootOverride => (checkOverride value).map fun path => { s with cacheRootOverride := path }
  | .unstable => (checkBool value).map fun mode => { s with unstable := mode }
  | .rootVariable => (checkVariable value).map fun name => { s with rootVariable := name }

/-- Names of what is worked out from the settings. -/
def computedNames : List String :=
  ["model_extra", "model_fields_set", "__fields_set__"]

/-- Names of what stays as it is as long as the settings live. -/
def fixedNames : List String :=
  ["__weakref__"]

/-- The name under which settings keep what they are. -/
def kindName : String := "__class__"

/-- The name under which settings keep all that they hold. -/
def contentName : String := "__dict__"

/-- Is an object put in the place of all that settings hold? -/
def replacesContent (name : String) (value : Json) : Bool :=
  name = contentName && value.isObject

/-- A value for a name.  To put an object in the place of all that settings
    hold is not to assign to a field: whatever the object holds is taken
    unchecked then, and need not be settings. -/
structure Assignment where
  name : String
  value : Json
  keeps : replacesContent name value = false

/-- A value for a field. -/
def Assignment.toField (field : Field) (value : Json) : Assignment :=
  ⟨field.name, value, by cases field <;> rfl⟩

/-- Why an assignment fails. -/
inductive AssignError where
  /-- There is no such field, or the value is flawed. -/
  | complaint (c : Complaint)
  /-- The name is one of `computedNames`. -/
  | computed (name : String)
  /-- The name is one of `fixedNames`. -/
  | fixed (name : String)
  /-- No JSON value can stand under `kindName`. -/
  | noKind (value : Json)
  /-- Only an object can stand under `contentName`. -/
  | noContent (value : Json)
  deriving Repr

/-- What settings are called in messages. -/
def kind : String := "DenoSettings"

/-- The wording of an assignment that fails for another reason than a flaw;
    that of a flaw tells the flaw only. -/
def AssignError.message : AssignError → String
  | .complaint c => c.flaw.message
  | .computed name => "property '" ++ name ++ "' of '" ++ kind ++ "' object has no setter"
  | .fixed name => "attribute '" ++ name ++ "' of '" ++ kind ++ "' objects is not writable"
  | .noKind value => s!"{kindName} must be set to a class, not '{value.typeName}' object"
  | .noContent value => s!"{contentName} must be set to a dictionary, not a '{value.typeName}'"

/-- The settings after an assignment to a name that begins with an underscore:
    they stay what they are. -/
def assignAside (s : Settings) (a : Assignment) : Except AssignError Settings :=
  if a.name = kindName then .error (.noKind a.value)
  else if a.name = contentName then .error (.noContent a.value)
  else .ok s

/-- The settings after an assignment. -/
def assign (s : Settings) (a : Assignment) : Except AssignError Settings :=
  if computedNames.contains a.name then .error (.computed a.name)
  else if fixedNames.contains a.name then .error (.fixed a.name)
  else if a.name.toList.head? = some '_' then s.assignAside a
  else
    match Field.ofName? a.name with
    | none => .error (.complaint ⟨a.name, .noSuchField a.name, a.value⟩)
    | some field =>
      match s.setField field a.value with
      | .ok s => .ok s
      | .error flaw => .error (.complaint ⟨a.name, flaw, a.value⟩)

/-! ## Section 4: Construction -/

/-- Values by the names of their fields; the last one given counts. -/
abbrev Values := List (String × Json)

/-- One field taken from the values.  A complaint does not keep the further
    fields from being checked. -/
def take (values : Values) (result : Settings × List Complaint) (field : Field) :
    Settings × List Complaint :=
  match values.reverse.lookup field.name with
  | none => result
  | some value =>
    match result.1.setField field value with
    | .ok s => (s, result.2)
    | .error flaw => (result.1, result.2 ++ [⟨field.name, flaw, value⟩])

/-- The settings with the given values, or all complaints about them in the
    order of the fields. -/
def ofValues (values : Values) : Except (List Complaint) Settings :=
  match Field.all.foldl (take values) (default, []) with
  | (s, []) => .ok s
  | (_, complaints) => .error complaints

/-! ## Section 5: The environment -/

/-- The variable that names the executable. -/
def executableVariable : String := "DENOKIT_EXECUTABLE"

/-- The variable that sets the mode. -/
def unstableVariable : String := "DENOKIT_UNSTABLE"

/-- Does the text of a variable say yes?  Blanks around it and the case of
    ASCII letters do not count. -/
def saysYes (text : String) : Bool :=
  ["1", "true", "yes", "on"].contains
    (String.ofList ((Text.trim text.toList).map Text.asciiLower))

/-- The values that the environment gives. -/
def valuesOfEnvironment (env : Environment) : Values :=
  let executable := (env.nonEmpty? executableVariable).map fun text =>
    (Field.executable.name, Json.string (Glyph.ofString text))
  let unstable := (env.get? unstableVariable).map fun text =>
    (Field.unstable.name, Json.bool (saysYes text))
  executable.toList ++ unstable.toList

/-- Is the value absent? -/
def isNull : Json → Bool
  | .null => true
  | _ => false

/-- The settings that the environment and the overrides give.  An override
    stands above the environment unless it is null. -/
def fromEnvironment (env : Environment) (overrides : Values) :
    Except (List Complaint) Settings :=
  ofValues (valuesOfEnvironment env ++ overrides.filter (!isNull ·.2))

/-- The names of what overrides stand beside, which none of them can have. -/
def reservedNames : List String :=
  ["cls", "environ"]

/-- Why overrides give no settings. -/
inductive OverrideError where
  | reserved (name : String)
  | complaints (list : List Complaint)
  deriving Repr

/-- The wording of overrides that are not looked at. -/
def OverrideError.message : OverrideError → String
  | .reserved name => kind ++ ".from_env() got multiple values for argument '" ++ name ++ "'"
  | .complaints list => String.intercalate "; " (list.map (·.flaw.message))

/-- The settings that the environment and overrides of any names give.  A
    reserved name among them counts even when its value is null. -/
def fromOverrides (env : Environment) (overrides : Values) : Except OverrideError Settings :=
  match overrides.find? (reservedNames.contains ·.1) with
  | some (name, _) => .error (.reserved name)
  | none =>
    match fromEnvironment env overrides with
    | .ok s => .ok s
    | .error list => .error (.complaints list)

end Settings

end DenoBridge
