import DenoBridge.Proofs.CommandLine.Ending

/-! # How commands begin

    A command line that asks for a task sets up the screen for records and
    then does the task (`ensures_execute`).  The first can fail only where the
    size of a screen cannot be read from the environment
    (`stop_of_not_hasSizes`); where it can be read, the command line ends as
    its task does (`report_of_requests`), and notices can be written
    (`ensures_say`).  Most tasks begin with a session, and with valid settings
    and a root that resolves there is one (`ensures_openSession_of_opens`).
-/

namespace DenoBridge

open Terminal

/-! ## Section 1: Sizes of screens -/

namespace Terminal

/-- Columns and lines can be read from the environment, or are not given
    there. -/
structure HasSizes (env : Environment) : Prop where
  columns : ∃ columns, sizeIn env "COLUMNS" = .ok columns
  lines : ∃ lines, sizeIn env "LINES" = .ok lines

variable {env : Environment} {streams : Streams} {channel : Channel}

/-- Both sizes are read, whatever the screen is at the end of. -/
theorem exists_columns_iff (env : Environment) (terminal : Bool) :
    (∃ count, columns env terminal = .ok count) ↔ HasSizes env := by
  constructor
  · rintro ⟨count, hcount⟩
    obtain ⟨columns, hcolumns, hcount⟩ := exists_of_bind_ok hcount
    obtain ⟨lines, hlines, -⟩ := exists_of_bind_ok hcount
    exact ⟨⟨columns, hcolumns⟩, ⟨lines, hlines⟩⟩
  · rintro ⟨⟨columns, hcolumns⟩, ⟨lines, hlines⟩⟩
    unfold Terminal.columns
    rw [hcolumns, hlines]
    simp only [bind, Except.bind]
    split
    · exact ⟨_, rfl⟩
    · exact ⟨_, rfl⟩

theorem exists_recordScreen_iff (streams : Streams) (env : Environment) (channel : Channel) :
    (∃ screen, streams.recordScreen env channel = .ok screen) ↔ HasSizes env := by
  rw [← exists_columns_iff env (streams.countsAsTerminal env channel)]
  unfold Streams.recordScreen
  exact exists_bind_pure_iff

theorem exists_screen (h : HasSizes env) (streams : Streams) (channel : Channel) (wanted : Bool) :
    ∃ screen, streams.screen env channel wanted = .ok screen := by
  rw [← exists_columns_iff env (streams.isTerminal channel)] at h
  unfold Streams.screen
  exact exists_bind_pure_iff.2 h

end Terminal

namespace CommandLine

variable {m : Machine} {d : Desk} {streams : Streams} {line : List String} {input : String}
  {task : Task} {emoji : Bool}

/-! ## Section 2: Looking at screens -/

/-- The desk is as it was, but for what was written. -/
structure Written (d d' : Desk) : Prop where
  machine : d'.machine = d.machine
  streams : d'.streams = d.streams

theorem ensures_screen {ε : Type} (f : DisplayFault → ε) (h : HasSizes d.machine.environment)
    (channel : Channel) (wanted : Option Bool) :
    d.Ensures (Desk.screen f channel wanted)
      (fun screen d' => d = d' ∧
        d.streams.screen d.machine.environment channel (wanted.getD true) = .ok screen)
      (fun _ _ => False) := by
  obtain ⟨screen, hscreen⟩ := exists_screen h d.streams channel (wanted.getD true)
  unfold Desk.screen
  refine Desk.ensures_bind (M := fun seen d' => seen = d ∧ d = d') (Desk.ensures_get ⟨rfl, rfl⟩) ?_
  rintro _ _ ⟨rfl, rfl⟩
  rw [hscreen]
  exact Desk.ensures_pure ⟨rfl, rfl⟩

/-- A notice is written on any screen. -/
theorem ensures_say (h : HasSizes d.machine.environment) (channel : Channel) (kind : Notice)
    (emoji : Bool) (message : String) :
    d.Ensures (say channel kind emoji message) (fun _ d' => Written d d') (fun _ _ => False) := by
  unfold say Desk.notice
  refine Desk.ensures_after (ensures_screen _ h channel none) ?_
  rintro screen _ ⟨rfl, -⟩
  refine Desk.ensures_change ?_
  cases channel with
  | output => exact ⟨rfl, rfl⟩
  | errors => exact ⟨rfl, rfl⟩

/-! ## Section 3: Command lines -/

/-- The words of a command line ask for the task. -/
def Requests (m : Machine) (line : List String) (task : Task) : Prop :=
  ∃ verbose command words, readOpening line = .ok (.command verbose command words) ∧
    readRequest m command words = .ok (.run task)

/-- Records can be shown when the screen for them has a size. -/
theorem ensures_configure (d : Desk) (verbose : Bool) (h : d.diagnostics = .unset) :
    d.Ensures (Desk.configure Failure.display verbose)
      (fun _ d' => Written d d' ∧ d'.output = d.output ∧
        ∃ screen, d.streams.recordScreen d.machine.environment .errors = .ok screen)
      (fun stop d' => d'.output = d.output ∧ ∃ fault, stop = .failed (.display (.size fault)) ∧
        d.streams.recordScreen d.machine.environment .errors = .error fault) := by
  unfold Desk.configure
  refine Desk.ensures_bind (M := fun seen d' => d = seen ∧ d = d') (Desk.ensures_get ⟨rfl, rfl⟩) ?_
  rintro _ _ ⟨rfl, rfl⟩
  rw [h]
  dsimp only
  refine Desk.ensures_bind (M := fun _ d' => d'.output = d.output) (Desk.ensures_set rfl) ?_
  intro _ d' houtput
  refine Desk.ensures_bind (M := fun screen _ =>
    d.streams.recordScreen d.machine.environment .errors = .ok screen) ?_ ?_
  · refine Desk.ensures_orFail (fun screen hscreen => hscreen) ?_
    intro fault hfault
    exact ⟨houtput, fault, rfl, hfault⟩
  · intro screen _ hscreen
    exact Desk.ensures_set ⟨⟨rfl, rfl⟩, rfl, screen, hscreen⟩

/-- A command line ends without a screen for records, or as its task does. -/
theorem ensures_execute {done : Unit → Desk → Prop} {stopped : Stop Failure → Desk → Prop}
    (hd : d.diagnostics = .unset) (h : Requests d.machine line task) (input : String)
    (hscreen : ∀ fault (d' : Desk), d'.output = d.output →
      d.streams.recordScreen d.machine.environment .errors = .error fault →
      stopped (.failed (.display (.size fault))) d')
    (hperform : ∀ d' : Desk, Written d d' → d'.output = d.output →
      (∃ screen, d.streams.recordScreen d.machine.environment .errors = .ok screen) →
      d'.Ensures (perform input task) done stopped) :
    d.Ensures (execute line input) done stopped := by
  obtain ⟨verbose, command, words, hopening, hrequest⟩ := h
  unfold execute
  rw [hopening]
  refine Desk.ensures_bind (M := fun opening d' =>
    opening = .command verbose command words ∧ d = d') (Desk.ensures_pure ⟨rfl, rfl⟩) ?_
  rintro _ _ ⟨rfl, rfl⟩
  dsimp only
  -- Records are made visible before the task is even read from the words.
  refine Desk.ensures_bind ((ensures_configure d verbose hd).mono (fun _ _ h => h) ?_) ?_
  · rintro stop d' ⟨houtput, fault, rfl, hfault⟩
    exact hscreen fault d' houtput hfault
  rintro _ d' ⟨hwritten, houtput, hfound⟩
  refine Desk.ensures_bind (M := fun seen d'' => seen = d'.machine ∧ d' = d'')
    (Desk.ensures_asks ⟨rfl, rfl⟩) ?_
  rintro _ _ ⟨rfl, rfl⟩
  rw [hwritten.machine, hrequest]
  refine Desk.ensures_bind (M := fun request d'' => request = .run task ∧ d' = d'')
    (Desk.ensures_pure ⟨rfl, rfl⟩) ?_
  rintro _ _ ⟨rfl, rfl⟩
  exact hperform d' hwritten houtput hfound

/-- What holds of every end of the work, holds of the report. -/
theorem report_of_ensures {P : Stop Failure → String → Prop}
    (h : (Desk.start m streams).Ensures (execute line input) (fun _ d' => P (.exit 0) d'.output)
      (fun stop d' => P stop d'.output)) :
    P (run m streams line input).1.stop (run m streams line input).1.output := by
  unfold Desk.Ensures at h
  unfold run
  rcases hrun : (execute line input).run (Desk.start m streams) with ⟨result, d'⟩
  rw [hrun] at h
  cases result with
  | ok done => exact h
  | error stop => exact h

/-- What holds of every end of the task, from a desk on which nothing is
    written yet, holds of the end of the command line. -/
theorem report_of_requests {P : Stop Failure → String → Prop} (h : Requests m line task)
    (hsizes : HasSizes m.environment)
    (hperform : ∀ d : Desk, d.machine = m → d.streams = streams → d.output = "" →
      d.Ensures (perform input task) (fun _ d' => P (.exit 0) d'.output)
        (fun stop d' => P stop d'.output)) :
    P (run m streams line input).1.stop (run m streams line input).1.output := by
  have hstart : Requests (Desk.start m streams).machine line task := h
  refine report_of_ensures (ensures_execute rfl hstart input ?_ ?_)
  · -- There is a screen for records, so this does not happen.
    intro fault d' _ hfault
    obtain ⟨screen, hscreen⟩ := (exists_recordScreen_iff streams m.environment .errors).2 hsizes
    exact absurd (hscreen.symm.trans hfault) (by simp)
  · intro d' hwritten houtput _
    exact hperform d' hwritten.machine hwritten.streams houtput

/-- Without a screen for records nothing is begun. -/
theorem stop_of_not_hasSizes (h : Requests m line task) (hsizes : ¬ HasSizes m.environment) :
    ∃ fault, (run m streams line input).1.stop = .failed (.display (.size fault)) := by
  have hstart : Requests (Desk.start m streams).machine line task := h
  refine report_of_ensures (P := fun stop _ => ∃ fault, stop = .failed (.display (.size fault)))
    (ensures_execute rfl hstart input ?_ ?_)
  · intro fault _ _ _
    exact ⟨fault, rfl⟩
  · intro d' _ _ hfound
    exact absurd ((exists_recordScreen_iff streams m.environment .errors).1 hfound) hsizes

/-! ## Section 4: Sessions -/

/-- With this cache root, or without one, a command works in this session. -/
def Opens (m : Machine) (root : Option String) (s : Session) : Prop :=
  ∃ settings, Settings.fromEnvironment m.environment [] = .ok settings ∧
    match root with
    | none => s = ⟨settings, none, .linux⟩
    | some text => ∃ path, rootOf m text = .ok path ∧
        s = ⟨{ settings with cacheRootOverride := some path }, none, .linux⟩

/-- The same with a mode, or without one. -/
def OpensWith (m : Machine) (root : Option String) (unstable : Option Bool) (s : Session) : Prop :=
  ∃ settings, Settings.fromEnvironment m.environment
      (unstable.toList.map fun mode => (Settings.Field.unstable.name, Json.bool mode)) =
        .ok settings ∧
    match root with
    | none => s = ⟨settings, none, .linux⟩
    | some text => ∃ path, rootOf m text = .ok path ∧
        s = ⟨{ settings with cacheRootOverride := some path }, none, .linux⟩

theorem ensures_openSession_of_opensWith (d : Desk) {root : Option String}
    {unstable : Option Bool} {s : Session} (h : OpensWith d.machine root unstable s)
    (channel : Channel) (emoji : Bool) :
    d.Ensures (openSession channel emoji root unstable) (fun opened d' => s = opened ∧ d = d')
      (fun _ _ => False) := by
  obtain ⟨settings, hsettings, hroot⟩ := h
  unfold openSession
  refine Desk.ensures_bind (M := fun m d' => m = d.machine ∧ d = d')
    (Desk.ensures_asks ⟨rfl, rfl⟩) ?_
  rintro _ _ ⟨rfl, rfl⟩
  dsimp only
  rw [hsettings]
  cases root with
  | none =>
    obtain rfl := hroot
    exact Desk.ensures_pure ⟨rfl, rfl⟩
  | some text =>
    obtain ⟨path, hpath, rfl⟩ := hroot
    dsimp only
    rw [hpath]
    exact Desk.ensures_pure ⟨rfl, rfl⟩

theorem ensures_openSession_of_opens (d : Desk) {root : Option String} {s : Session}
    (h : Opens d.machine root s) (channel : Channel) (emoji : Bool) :
    d.Ensures (openSession channel emoji root none) (fun opened d' => s = opened ∧ d = d')
      (fun _ _ => False) := by
  have hmode : OpensWith d.machine root none s := h
  exact ensures_openSession_of_opensWith d hmode channel emoji

end CommandLine

end DenoBridge
