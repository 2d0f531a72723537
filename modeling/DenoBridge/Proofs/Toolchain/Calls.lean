import DenoBridge.Proofs.Machine.Starting
import DenoBridge.Toolchain.Formatter

/-! # What the toolchain's calls depend on

    A call of the toolchain runs the text of its executable's path and nothing
    else (`callsRun_executable`).  Where the text is not started the call
    fails, and what children of other names would do is without effect: on two
    machines whose children differ in nothing but that, the answer is the same.
-/

namespace DenoBridge

namespace Machine

variable {m m₁ m₂ : Machine} {name : String} {β : Type}
  {child : Launch → FileSystem → ChildResult × FileSystem}

/-! ## Section 1: Twins -/

/-- The children that a name is started as behave as they do on the machine,
    and leave its files alone. -/
def AgreesOn (m : Machine) (name : String)
    (child : Launch → FileSystem → ChildResult × FileSystem) : Prop :=
  ∀ arguments given launch, m.launchOf (name :: arguments) given = .ok launch →
    child launch m.files = m.child launch m.files ∧ (m.child launch m.files).2 = m.files

/-- Two machines in the state of a third that differ in their children only. -/
structure Twins (m : Machine) (child : Launch → FileSystem → ChildResult × FileSystem)
    (m₁ m₂ : Machine) : Prop where
  files : m₁.files = m.files
  environment : m₁.environment = m.environment
  directory : m₁.directory = m.directory
  nesting : m₁.nesting = m.nesting
  children : m₁.child = m.child
  twin : m₂ = { m₁ with child := child }

theorem twins_self (m : Machine) (child : Launch → FileSystem → ChildResult × FileSystem) :
    Twins m child m { m with child := child } :=
  ⟨rfl, rfl, rfl, rfl, rfl, rfl⟩

theorem Twins.debug (h : Twins m child m₁ m₂) (logger message : String) :
    Twins m child (m₁.debug logger message) (m₂.debug logger message) := by
  obtain ⟨hfiles, henvironment, hdirectory, hnesting, hchild, rfl⟩ := h
  exact ⟨hfiles, henvironment, hdirectory, hnesting, hchild, rfl⟩

theorem launch?_congr (hfiles : m₁.files = m.files) (henvironment : m₁.environment = m.environment)
    (hdirectory : m₁.directory = m.directory) (arguments : List String) (input : Bytes)
    (failure : Errno) (files : List String) :
    m₁.launch? arguments input failure files = m.launch? arguments input failure files := by
  induction files generalizing failure with
  | nil => rfl
  | cons file more ih =>
    unfold launch?
    rw [hfiles, henvironment, hdirectory]
    cases m.files.program m.directory scriptLimit file arguments with
    | ok found => rfl
    | error e => exact ih _

theorem which_congr (hfiles : m₁.files = m.files) (henvironment : m₁.environment = m.environment)
    (hdirectory : m₁.directory = m.directory) (name : String) : m₁.which name = m.which name := by
  have hexecutable : m₁.isExecutable = m.isExecutable := by
    funext file
    unfold isExecutable
    rw [hfiles, hdirectory]
  unfold which
  rw [hexecutable, henvironment]

theorem Twins.which_eq (h : Twins m child m₁ m₂) (name : String) :
    m₁.which name = m.which name ∧ m₂.which name = m.which name := by
  obtain ⟨hfiles, henvironment, hdirectory, -, -, rfl⟩ := h
  exact ⟨which_congr hfiles henvironment hdirectory name,
    which_congr hfiles henvironment hdirectory name⟩

theorem resolve_congr (hwhich : m₁.which name = m.which name) :
    m₁.resolve name = m.resolve name := by
  unfold resolve
  rw [hwhich]

theorem feed_congr (hfiles : m₁.files = m.files) (hdirectory : m₁.directory = m.directory)
    (given : Feed) : m₁.feed given = m.feed given := by
  unfold feed
  rw [hfiles, hdirectory]

theorem launchOf_congr (hfiles : m₁.files = m.files)
    (henvironment : m₁.environment = m.environment) (hdirectory : m₁.directory = m.directory)
    (name : String) (arguments : List String) (given : Feed) :
    m₁.launchOf (name :: arguments) given = m.launchOf (name :: arguments) given := by
  have hcandidates : m₁.candidates = m.candidates := by
    funext name
    unfold candidates
    rw [henvironment]
  unfold launchOf
  dsimp only
  rw [resolve_congr (which_congr hfiles henvironment hdirectory name)]
  cases m.resolve name with
  | error e => rfl
  | ok program =>
    dsimp only
    rw [feed_congr hfiles hdirectory given]
    cases m.feed given with
    | error e => rfl
    | ok input =>
      dsimp only
      rw [launch?_congr hfiles henvironment hdirectory, hcandidates]

theorem Twins.launchOf_eq (h : Twins m child m₁ m₂) (name : String) (arguments : List String)
    (given : Feed) : m₁.launchOf (name :: arguments) given = m.launchOf (name :: arguments) given ∧
      m₂.launchOf (name :: arguments) given = m.launchOf (name :: arguments) given := by
  obtain ⟨hfiles, henvironment, hdirectory, -, -, rfl⟩ := h
  constructor
  · exact launchOf_congr hfiles henvironment hdirectory name arguments given
  · refine launchOf_congr ?_ ?_ ?_ name arguments given
    · exact hfiles
    · exact henvironment
    · exact hdirectory

/-! ## Section 2: Running commands on twins -/

/-- Twins give the same answer and stay twins. -/
def Congr (m : Machine) (child : Launch → FileSystem → ChildResult × FileSystem)
    (call : Machine → β × Machine) : Prop :=
  ∀ m₁ m₂, Twins m child m₁ m₂ →
    ∃ answer m₁' m₂', call m₁ = (answer, m₁') ∧ call m₂ = (answer, m₂') ∧ Twins m child m₁' m₂'

theorem congr_execute (hagrees : m.AgreesOn name child) (arguments : List String)
    (given : Feed) : Congr m child fun m => m.execute (name :: arguments) given := by
  intro m₁ m₂ h
  -- Both machines resolve the name alike and come to the same launch.
  obtain ⟨hwhich₁, hwhich₂⟩ := h.which_eq name
  obtain ⟨hlaunch₁, hlaunch₂⟩ := h.launchOf_eq name arguments given
  obtain ⟨hfiles, henvironment, hdirectory, hnesting, hchild, rfl⟩ := h
  dsimp only
  rw [execute_eq_launchOf, execute_eq_launchOf, resolve_congr hwhich₁, resolve_congr hwhich₂,
    hlaunch₁, hlaunch₂]
  cases hlaunch : m.launchOf (name :: arguments) given with
  | error e => exact ⟨_, _, _, rfl, rfl, hfiles, henvironment, hdirectory, hnesting, hchild, rfl⟩
  | ok launch =>
    obtain ⟨hsame, hkept⟩ := hagrees arguments given launch hlaunch
    dsimp only
    rw [hfiles, hchild, hsame, hkept]
    refine ⟨_, _, _, rfl, rfl, ?_⟩
    exact ⟨rfl, henvironment, hdirectory, hnesting, rfl, rfl⟩

theorem congr_runBytes (hagrees : m.AgreesOn name child) (arguments : List String)
    (check : Bool) : Congr m child fun m => m.runBytes (name :: arguments) check := by
  intro m₁ m₂ h
  obtain ⟨answer, m₁', m₂', h₁, h₂, htwins⟩ := congr_execute hagrees arguments .null m₁ m₂ h
  dsimp only at h₁ h₂ ⊢
  unfold runBytes
  rw [h₁, h₂]
  cases answer <;> exact ⟨_, _, _, rfl, rfl, htwins⟩

theorem congr_runText (hagrees : m.AgreesOn name child) (arguments : List String)
    (check : Bool) : Congr m child fun m => m.runText (name :: arguments) check := by
  intro m₁ m₂ h
  obtain ⟨answer, m₁', m₂', h₁, h₂, htwins⟩ := congr_execute hagrees arguments .null m₁ m₂ h
  dsimp only at h₁ h₂ ⊢
  unfold runText
  rw [h₁, h₂]
  cases answer with
  | error e => exact ⟨_, _, _, rfl, rfl, htwins⟩
  | ok done =>
    dsimp only
    cases asText done <;> exact ⟨_, _, _, rfl, rfl, htwins⟩

theorem congr_stream (hagrees : m.AgreesOn name child) (arguments : List String)
    (input : String) : Congr m child fun m => m.stream (name :: arguments) input := by
  intro m₁ m₂ h
  obtain ⟨answer, m₁', m₂', h₁, h₂, htwins⟩ :=
    congr_execute hagrees arguments (.pipe (Utf8.encodeString input)) m₁ m₂ h
  dsimp only at h₁ h₂ ⊢
  unfold stream
  rw [h₁, h₂]
  cases answer <;> exact ⟨_, _, _, rfl, rfl, htwins⟩

end Machine

namespace Toolchain

open Machine

variable {m : Machine} {s : Settings} {path : Path} {β : Type}
  {child : Launch → FileSystem → ChildResult × FileSystem}

/-! ## Section 3: Asking the toolchain on twins -/

theorem executable_eq {m₁ m₂ : Machine} (h : Twins m child m₁ m₂)
    (hpath : executable m s = some path) :
    executable m₁ s = some path ∧ executable m₂ s = some path := by
  obtain ⟨h₁, h₂⟩ := h.which_eq s.executable
  unfold executable at hpath ⊢
  rw [h₁, h₂]
  exact ⟨hpath, hpath⟩

theorem congr_query (run : Machine → List String → Except CommandError β × Machine)
    (hpath : executable m s = some path) (arguments : List String)
    (hrun : Congr m child fun m => run m (path.text :: arguments)) :
    Congr m child (query run s arguments) := by
  intro m₁ m₂ h
  obtain ⟨hpath₁, hpath₂⟩ := executable_eq h hpath
  obtain ⟨answer, m₁', m₂', h₁, h₂, htwins⟩ := hrun m₁ m₂ h
  dsimp only at h₁ h₂
  unfold query
  rw [hpath₁, hpath₂]
  dsimp only
  rw [h₁, h₂]
  cases answer with
  | ok answer => exact ⟨_, _, _, rfl, rfl, htwins⟩
  | error e => exact ⟨_, _, _, rfl, rfl, htwins.debug _ _⟩

theorem congr_queryText (hagrees : m.AgreesOn path.text child)
    (hpath : executable m s = some path) (arguments : List String) :
    Congr m child (queryText s arguments) :=
  congr_query (fun m command => m.runText command true) hpath arguments
    (congr_runText hagrees arguments true)

theorem congr_queryBytes (hagrees : m.AgreesOn path.text child)
    (hpath : executable m s = some path) (arguments : List String) :
    Congr m child (queryBytes s arguments) :=
  congr_query (fun m command => m.runBytes command true) hpath arguments
    (congr_runBytes hagrees arguments true)

theorem congr_readPayload (payload : String) : Congr m child (readPayload payload) := by
  intro m₁ m₂ h
  have hnesting₁ : m₁.nesting = m.nesting := h.nesting
  have hnesting₂ : m₂.nesting = m.nesting := by rw [h.twin, ← h.nesting]
  unfold readPayload
  rw [hnesting₁, hnesting₂]
  cases VersionReport.read m.nesting payload with
  | error excess => exact ⟨_, _, _, rfl, rfl, h⟩
  | ok reading =>
    dsimp only
    cases payloadRecord? payload reading with
    | none => exact ⟨_, _, _, rfl, rfl, h⟩
    | some text => exact ⟨_, _, _, rfl, rfl, h.debug _ _⟩

theorem congr_version (hagrees : m.AgreesOn path.text child)
    (hpath : executable m s = some path) : Congr m child (version s) := by
  intro m₁ m₂ h
  obtain ⟨answer, m₁', m₂', h₁, h₂, htwins⟩ :=
    congr_queryText hagrees hpath ["eval", versionScript] m₁ m₂ h
  unfold version
  rw [h₁, h₂]
  cases answer with
  | none => exact ⟨_, _, _, rfl, rfl, htwins⟩
  | some done =>
    dsimp only
    split
    · exact ⟨_, _, _, rfl, rfl, htwins.debug _ _⟩
    · exact congr_readPayload done.output m₁' m₂' htwins

theorem congr_typeDeclarations (hagrees : m.AgreesOn path.text child)
    (hpath : executable m s = some path) (unstable : Bool) :
    Congr m child (typeDeclarations s unstable) := by
  intro m₁ m₂ h
  obtain ⟨answer, m₁', m₂', h₁, h₂, htwins⟩ := congr_version hagrees hpath m₁ m₂ h
  unfold typeDeclarations
  rw [h₁, h₂]
  cases answer with
  | error excess => exact ⟨_, _, _, rfl, rfl, htwins⟩
  | ok report =>
    cases report with
    | none => exact ⟨_, _, _, rfl, rfl, htwins⟩
    | some report =>
      dsimp only
      cases typeArguments unstable (some report) with
      | error refusal => exact ⟨_, _, _, rfl, rfl, htwins⟩
      | ok arguments =>
        -- The toolchain is asked a second time, on what the first child left.
        obtain ⟨answer, m₁'', m₂'', h₁, h₂, htwins⟩ :=
          congr_queryBytes hagrees hpath arguments m₁' m₂' htwins
        dsimp only
        rw [h₁, h₂]
        cases answer <;> exact ⟨_, _, _, rfl, rfl, htwins⟩

theorem congr_reportedRoot (hagrees : m.AgreesOn path.text child)
    (hpath : executable m s = some path) : Congr m child (reportedRoot s) := by
  intro m₁ m₂ h
  obtain ⟨answer, m₁', m₂', h₁, h₂, htwins⟩ :=
    congr_queryText hagrees hpath ["info"] m₁ m₂ h
  unfold reportedRoot
  rw [h₁, h₂]
  cases answer with
  | none => exact ⟨_, _, _, rfl, rfl, htwins⟩
  | some done =>
    dsimp only
    cases Text.lines (dropStyles done.output.toList) with
    | nil => exact ⟨_, _, _, rfl, rfl, htwins⟩
    | cons line rest =>
      dsimp only
      cases rootIn? line with
      | some root => exact ⟨_, _, _, rfl, rfl, htwins⟩
      | none => exact ⟨_, _, _, rfl, rfl, htwins.debug _ _⟩

theorem congr_format (hagrees : m.AgreesOn path.text child)
    (hpath : executable m s = some path) (source : String) :
    Congr m child (format s source) := by
  intro m₁ m₂ h
  obtain ⟨hpath₁, hpath₂⟩ := executable_eq h hpath
  obtain ⟨answer, m₁', m₂', h₁, h₂, htwins⟩ := congr_stream hagrees ["fmt", "-"] source m₁ m₂ h
  dsimp only at h₁ h₂
  unfold format
  rw [hpath₁, hpath₂]
  dsimp only
  rw [h₁, h₂]
  cases answer with
  | error e => exact ⟨_, _, _, rfl, rfl, htwins⟩
  | ok done =>
    dsimp only
    split
    · exact ⟨_, _, _, rfl, rfl, htwins⟩
    · exact ⟨_, _, _, rfl, rfl, htwins.debug _ _⟩

theorem congr_formatFragment (hagrees : m.AgreesOn path.text child)
    (hpath : executable m s = some path) (source : String) :
    Congr m child (formatFragment s source) := by
  intro m₁ m₂ h
  obtain ⟨answer, m₁', m₂', h₁, h₂, htwins⟩ := congr_format hagrees hpath source m₁ m₂ h
  unfold formatFragment
  rw [h₁, h₂]
  cases answer with
  | error e => exact ⟨_, _, _, rfl, rfl, htwins⟩
  | ok text => cases text <;> exact ⟨_, _, _, rfl, rfl, htwins⟩

/-! ## Section 4: The calls -/

/-- The calls of the toolchain. -/
inductive Call where
  | version
  | typeDeclarations (unstable : Bool)
  | reportedRoot
  | format (source : String)
  | formatFragment (source : String)

/-- What a call answers. -/
def Call.Answer : Call → Type
  | .version => Except VersionReport.Excess (Option VersionReport)
  | .typeDeclarations _ => Except VersionReport.Excess (Option Bytes)
  | .reportedRoot => Option Path
  | .format _ => Except FormatFailure (Option String)
  | .formatFragment _ => Except FormatFailure (Option String)

/-- A call on a machine. -/
def Call.ask (s : Settings) (m : Machine) : (call : Call) → call.Answer × Machine
  | .version => Toolchain.version s m
  | .typeDeclarations unstable => Toolchain.typeDeclarations s unstable m
  | .reportedRoot => Toolchain.reportedRoot s m
  | .format source => Toolchain.format s source m
  | .formatFragment source => Toolchain.formatFragment s source m

/-- The arguments that a call runs the executable with first. -/
def Call.arguments : Call → List String
  | .version | .typeDeclarations _ => ["eval", versionScript]
  | .reportedRoot => ["info"]
  | .format _ | .formatFragment _ => ["fmt", "-"]

/-- What the executable reads then. -/
def Call.input : Call → Feed
  | .version | .typeDeclarations _ | .reportedRoot => .null
  | .format source | .formatFragment source => .pipe (Utf8.encodeString source)

/-- What a call answers when nothing was started. -/
def Call.failed (e : CommandError) : (call : Call) → call.Answer
  | .version | .typeDeclarations _ => .ok none
  | .reportedRoot => none
  | .format _ | .formatFragment _ => .error (startFailure e)

/-- The calls run a name: they fail where it is not started, and nothing but
    the children that it is started as has a say in what they answer. -/
structure CallsRun (s : Settings) (m : Machine) (name : String) : Prop where
  failed : ∀ (call : Call) e, m.launchOf (name :: call.arguments) call.input = .error e →
    (call.ask s m).1 = call.failed e
  only : ∀ child, m.AgreesOn name child → ∀ call : Call,
    (call.ask s { m with child := child }).1 = (call.ask s m).1

theorem congr_ask (hagrees : m.AgreesOn path.text child) (hpath : executable m s = some path)
    (call : Call) : Congr m child fun m => call.ask s m := by
  cases call with
  | version => exact congr_version hagrees hpath
  | typeDeclarations unstable => exact congr_typeDeclarations hagrees hpath unstable
  | reportedRoot => exact congr_reportedRoot hagrees hpath
  | format source => exact congr_format hagrees hpath source
  | formatFragment source => exact congr_formatFragment hagrees hpath source

theorem execute_of_launchOf_error {name : String} {arguments : List String} {given : Feed}
    {e : CommandError} (h : m.launchOf (name :: arguments) given = .error e) :
    m.execute (name :: arguments) given = (.error e, m) := by
  rw [execute_eq_launchOf, h]

theorem queryText_of_launchOf_error (hpath : executable m s = some path)
    {arguments : List String} {e : CommandError}
    (h : m.launchOf (path.text :: arguments) .null = .error e) :
    (queryText s arguments m).1 = none := by
  unfold queryText query runText
  rw [hpath]
  dsimp only
  rw [execute_of_launchOf_error h]

theorem version_of_launchOf_error (hpath : executable m s = some path) {e : CommandError}
    (h : m.launchOf [path.text, "eval", versionScript] .null = .error e) :
    (version s m).1 = .ok none := by
  have hquery := queryText_of_launchOf_error hpath h
  unfold version
  cases hanswer : queryText s ["eval", versionScript] m with
  | mk answer m' =>
    rw [hanswer] at hquery
    obtain rfl : answer = none := hquery
    rfl

theorem format_of_launchOf_error (hpath : executable m s = some path) {source : String}
    {e : CommandError}
    (h : m.launchOf [path.text, "fmt", "-"] (.pipe (Utf8.encodeString source)) = .error e) :
    format s source m = (.error (startFailure e), m) := by
  unfold format stream
  rw [hpath]
  dsimp only
  rw [execute_of_launchOf_error h]

theorem ask_of_launchOf_error (hpath : executable m s = some path) {call : Call}
    {e : CommandError} (h : m.launchOf (path.text :: call.arguments) call.input = .error e) :
    (call.ask s m).1 = call.failed e := by
  cases call with
  | version => exact version_of_launchOf_error hpath h
  | typeDeclarations unstable =>
    -- Without versions the declarations are not asked for.
    have hversion := version_of_launchOf_error hpath h
    show (typeDeclarations s unstable m).1 = .ok none
    unfold typeDeclarations
    cases hanswer : version s m with
    | mk answer m' =>
      rw [hanswer] at hversion
      obtain rfl : answer = .ok none := hversion
      rfl
  | reportedRoot =>
    have hquery : (queryText s ["info"] m).1 = none := queryText_of_launchOf_error hpath h
    show (reportedRoot s m).1 = none
    unfold reportedRoot
    cases hanswer : queryText s ["info"] m with
    | mk answer m' =>
      rw [hanswer] at hquery
      obtain rfl : answer = none := hquery
      rfl
  | format source =>
    show (format s source m).1 = .error (startFailure e)
    rw [format_of_launchOf_error hpath h]
  | formatFragment source =>
    show (formatFragment s source m).1 = .error (startFailure e)
    unfold formatFragment
    rw [format_of_launchOf_error hpath h]

/-- The calls run the text of the executable's path. -/
theorem callsRun_executable (hpath : executable m s = some path) : CallsRun s m path.text := by
  constructor
  · intro call e h
    exact ask_of_launchOf_error hpath h
  · intro child hagrees call
    obtain ⟨answer, m₁', m₂', h₁, h₂, -⟩ := congr_ask hagrees hpath call m _ (twins_self m child)
    dsimp only at h₁ h₂
    rw [h₁, h₂]

end Toolchain

end DenoBridge
