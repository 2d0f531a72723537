import DenoBridge.Proofs.CommandLine.Formatting
import DenoBridge.Proofs.Terminal.Notices
import DenoBridge.Proofs.Toolchain.Declaring
import DenoBridge.Proofs.Toolchain.Repeating

/-! # What the synchronising command tells

    The command announces the declaration file, runs a pass and tells how it
    ended.  Then it asks for the versions a second time, to warn of stable
    declarations that stand in for unstable ones.  With a toolchain that still
    gives the same versions, the warning comes exactly when the pass ran the
    toolchain without the flag (`ensures_types`).
-/

namespace DenoBridge

open Terminal

/-- Records are shown and then taken away; nothing else happens to the
    machine. -/
theorem Desk.machine_takeRecords (d : Desk) :
    d.takeRecords.machine = { d.machine with log := [] } := by
  unfold takeRecords
  refine foldl_record (V := Desk.machine) ?_ _ _
  intro d record
  unfold Desk.record
  split <;> rfl

namespace CommandLine

open Declarations Toolchain

variable {m : Machine} {d : Desk} {s : Session} {screen : Screen} {emoji warned : Bool}
  {target : String} {pass : Except Declarations.Failure Outcome}

/-! ## Section 1: Notices -/

/-- The warning that stable declarations were written. -/
def standInText : String :=
  s!"Deno older than {unstableFloor} has no unstable declarations; stable ones were written"

/-- What is told of the end of a pass. -/
def toldOfPass (target : String) : Except Declarations.Failure Outcome → List (Notice × String)
  | .ok outcome => [(.success, outcomeText outcome ++ " " ++ target)]
  | .error .unavailable =>
    [(.failure, Declarations.Failure.unavailable.message ++ "; is Deno installed?")]
  | .error (.file e) => [(.failure, e.message)]
  | .error _ => []

/-- What is told of a file and a pass, in order. -/
def told (target : String) (warned : Bool) (pass : Except Declarations.Failure Outcome) :
    List (Notice × String) :=
  (.info, "Synchronising " ++ target) :: toldOfPass target pass ++
    if warned then [(.warning, standInText)] else []

/-- Notices on a screen. -/
def displayed (screen : Screen) (emoji : Bool) (notices : List (Notice × String)) : String :=
  String.join (notices.map fun notice => notice.1.display screen emoji notice.2)

/-- The end of the command, told by the pass. -/
def stopAfter : Except Declarations.Failure Outcome → Stop Failure
  | .ok _ => .exit 0
  | .error .unavailable | .error (.file _) => .exit 1
  | .error .embeddedNul => .failed (.file .embeddedNul)
  | .error (.excess e) => .failed (.excess e)

theorem displayed_cons (notice : Notice × String) (more : List (Notice × String)) :
    displayed screen emoji (notice :: more) =
      notice.1.display screen emoji notice.2 ++ displayed screen emoji more := by
  simp [displayed]

theorem isOneLine_message (cause : Errno) : IsOneLine cause.message.toList := by
  cases cause <;> exact ⟨by decide, by decide, by decide⟩

theorem isOneLine_toldOfPass (htarget : IsOneLine target.toList)
    (hfile : ∀ e, pass = .error (.file e) → ∃ cause : Errno, e = ⟨target, cause.message⟩) :
    ∀ notice ∈ toldOfPass target pass, IsOneLine notice.2.toList := by
  match pass with
  | .ok outcome =>
    have hword : IsOneLine (outcomeText outcome ++ " ").toList := by
      cases outcome <;> exact ⟨by decide, by decide, by decide⟩
    rw [toldOfPass, List.forall_mem_singleton, String.toList_append, isOneLine_append_iff]
    exact ⟨hword, htarget⟩
  | .error .unavailable =>
    rw [toldOfPass, List.forall_mem_singleton]
    exact ⟨by decide, by decide, by decide⟩
  | .error (.file e) =>
    obtain ⟨cause, rfl⟩ := hfile e rfl
    rw [toldOfPass, List.forall_mem_singleton]
    show IsOneLine ("Failed to synchronise " ++ target ++ ": " ++ cause.message).toList
    simp only [String.toList_append, isOneLine_append_iff]
    exact ⟨⟨⟨⟨by decide, by decide, by decide⟩, htarget⟩, by decide, by decide, by decide⟩,
      isOneLine_message cause⟩
  | .error .embeddedNul => simp [toldOfPass]
  | .error (.excess e) => simp [toldOfPass]

/-- Nothing is told but the path of the file and words that a screen shows. -/
theorem isOneLine_told (htarget : IsOneLine target.toList)
    (hfile : ∀ e, pass = .error (.file e) → ∃ cause : Errno, e = ⟨target, cause.message⟩) :
    ∀ notice ∈ told target warned pass, IsOneLine notice.2.toList := by
  have hannounced : IsOneLine ("Synchronising " ++ target).toList := by
    rw [String.toList_append, isOneLine_append_iff]
    exact ⟨⟨by decide, by decide, by decide⟩, htarget⟩
  have hwarned : ∀ notice ∈ if warned then [(Notice.warning, standInText)] else [],
      IsOneLine notice.2.toList := by
    cases warned with
    | false => simp
    | true =>
      rw [if_pos rfl, List.forall_mem_singleton]
      exact ⟨by decide, by decide, by decide⟩
  unfold told
  rw [List.forall_mem_append, List.forall_mem_cons]
  exact ⟨⟨hannounced, isOneLine_toldOfPass htarget hfile⟩, hwarned⟩

/-- On a screen with columns each notice is a line. -/
theorem displayed_eq_lines {notices : List (Notice × String)}
    (h : ∀ notice ∈ notices, IsOneLine notice.2.toList) (hcolumns : screen.columns ≠ 0)
    (hcoloured : screen.colourless = false) (emoji : Bool) : displayed screen emoji notices =
      String.join (notices.map fun notice => notice.1.line screen emoji notice.2) := by
  unfold displayed
  congr 1
  apply List.map_congr_left
  intro notice hmem
  exact Notice.display_eq_line (h notice hmem) hcolumns hcoloured notice.1 emoji

theorem displayed_eq_empty (hcolumns : screen.columns = 0) (emoji : Bool)
    (notices : List (Notice × String)) : displayed screen emoji notices = "" := by
  induction notices with
  | nil => rfl
  | cons notice more ih => rw [displayed_cons, ih, Notice.display_eq_empty hcolumns]; rfl

/-! ## Section 2: The steps of the command -/

theorem hasSizes_of_screen {env : Environment} {streams : Streams} {channel : Channel}
    {wanted : Bool} (h : streams.screen env channel wanted = .ok screen) : HasSizes env := by
  unfold Streams.screen at h
  obtain ⟨count, hcount, -⟩ := exists_of_bind_ok h
  exact (exists_columns_iff env _).1 ⟨count, hcount⟩

theorem colourless_of_screen {env : Environment} {streams : Streams} {channel : Channel}
    {wanted : Bool} (h : streams.screen env channel wanted = .ok screen) :
    screen.colourless = false := by
  unfold Streams.screen at h
  obtain ⟨count, -, h⟩ := exists_of_bind_ok h
  obtain rfl := Except.ok.inj h
  rfl

/-- The screen is the one at the end of standard output. -/
def Shows (d : Desk) (screen : Screen) : Prop :=
  d.streams.screen d.machine.environment .output true = .ok screen

theorem Written.shows {d' : Desk} (h : Written d d') (hscreen : Shows d screen) :
    Shows d' screen := by
  unfold Shows
  rw [h.streams, h.machine]
  exact hscreen

/-- A notice is written on the screen. -/
theorem ensures_say_on (hscreen : Shows d screen) (kind : Notice) (emoji : Bool)
    (message : String) :
    d.Ensures (say .output kind emoji message)
      (fun _ d' => Written d d' ∧ d'.output = d.output ++ kind.display screen emoji message)
      (fun _ _ => False) := by
  have hsizes : HasSizes d.machine.environment := hasSizes_of_screen hscreen
  unfold say Desk.notice
  refine Desk.ensures_after (ensures_screen _ hsizes .output none) ?_
  intro seen d' hseen
  obtain ⟨rfl, hfound⟩ := hseen
  obtain rfl : screen = seen := Except.ok.inj (hscreen.symm.trans hfound)
  exact Desk.ensures_change ⟨⟨rfl, rfl⟩, rfl⟩

/-- The machine works.  Its records go to standard error and are taken away. -/
theorem ensures_run_on {α : Type} {f : Machine → α × Machine} {stopped : Stop Failure → Desk → Prop}
    (hscreen : Shows d screen) (hkept : (f d.machine).2.environment = d.machine.environment) :
    d.Ensures (Desk.run f : Work Failure α)
      (fun answer d' => answer = (f d.machine).1 ∧ d'.machine = { (f d.machine).2 with log := [] } ∧
        Shows d' screen ∧ d'.output = d.output) stopped := by
  refine Desk.ensures_run ⟨rfl, Desk.machine_takeRecords _, ?_, Desk.output_takeRecords _⟩
  unfold Shows
  rw [Desk.machine_takeRecords, Desk.streams_takeRecords]
  show d.streams.screen (f d.machine).2.environment .output true = .ok screen
  rw [hkept]
  exact hscreen

/-- What keeps a pass from an outcome is told, and the command exits. -/
theorem ensures_refused (hscreen : Shows d screen) (emoji : Bool) (message : String) :
    d.Ensures (do
        say .output .failure emoji message
        Desk.exit 1 : Work Failure Unit)
      (fun _ _ => False)
      (fun stop d' => stop = .exit 1 ∧
        d'.output = d.output ++ Notice.failure.display screen emoji message) := by
  refine Desk.ensures_after (ensures_say_on hscreen .failure emoji message) ?_
  intro _ d' hsaid
  exact Desk.ensures_exit ⟨rfl, hsaid.2⟩

/-- The second look at the versions decides whether there is a warning. -/
theorem ensures_second_look {settings : Settings} {report : VersionReport} {supported : Bool}
    (hscreen : Shows d screen) (hversion : (version settings d.machine).1 = .ok (some report))
    (hsupported : supportsUnstable (some report) = .ok supported) (emoji : Bool) :
    d.Ensures (do
        let report ← Desk.orFail .excess (← Desk.run (version settings))
        let supported ← Desk.orFail (fun e => .excess (.digits e)) (supportsUnstable report)
        if !supported then
          say .output .warning emoji standInText : Work Failure Unit)
      (fun _ d' => d'.output = d.output ++
        displayed screen emoji (if !supported then [(.warning, standInText)] else []))
      (fun _ _ => False) := by
  have hkept := (aged_version settings d.machine).environment_eq
  refine Desk.ensures_bind (ensures_run_on hscreen hkept) ?_
  intro answer d₁ hran
  obtain ⟨rfl, -, hscreen₁, houtput⟩ := hran
  rw [hversion]
  refine Desk.ensures_bind (M := fun found d' => found = some report ∧ d₁ = d')
    (Desk.ensures_pure ⟨rfl, rfl⟩) ?_
  intro found d' hfound
  obtain ⟨rfl, rfl⟩ := hfound
  rw [hsupported]
  refine Desk.ensures_bind (M := fun found d' => supported = found ∧ d₁ = d')
    (Desk.ensures_pure ⟨rfl, rfl⟩) ?_
  intro found d' hfound
  obtain ⟨rfl, rfl⟩ := hfound
  cases supported with
  | true => exact Desk.ensures_pure (by simp [displayed, houtput])
  | false =>
    refine (ensures_say_on hscreen₁ .warning emoji standInText).mono ?_ fun _ _ h => h
    intro _ d₂ hsaid
    rw [hsaid.2, houtput]
    simp [displayed]

/-- What the command does after a pass with an outcome. -/
theorem ensures_outcome {supported : Bool} (hscreen : Shows d screen)
    (hsupported : s.settings.unstable = true → ∃ report,
      (version s.settings d.machine).1 = .ok (some report) ∧
        supportsUnstable (some report) = .ok supported)
    (outcome : Outcome) (emoji : Bool) (target : String) :
    d.Ensures (do
        say .output .success emoji (outcomeText outcome ++ " " ++ target)
        if s.settings.unstable then
          let report ← Desk.orFail .excess (← Desk.run (version s.settings))
          let supported ← Desk.orFail (fun e => .excess (.digits e)) (supportsUnstable report)
          if !supported then
            say .output .warning emoji standInText : Work Failure Unit)
      (fun _ d' => d'.output = d.output ++ displayed screen emoji
        (toldOfPass target (.ok outcome) ++
          if s.settings.unstable && !supported then [(.warning, standInText)] else []))
      (fun _ _ => False) := by
  refine Desk.ensures_after (ensures_say_on hscreen .success emoji _) ?_
  intro _ d₁ hsaid
  obtain ⟨hwritten, houtput⟩ := hsaid
  by_cases hmode : s.settings.unstable = true
  · obtain ⟨report, hversion, hsupports⟩ := hsupported hmode
    rw [← hwritten.machine] at hversion
    rw [if_pos hmode, hmode, Bool.true_and]
    refine (ensures_second_look (hwritten.shows hscreen) hversion hsupports emoji).mono ?_
      fun _ _ h => h
    intro _ d₂ hwarned
    rw [hwarned, houtput, toldOfPass, List.singleton_append, displayed_cons, String.append_assoc]
  · rw [if_neg hmode]
    refine Desk.ensures_pure ?_
    simp [displayed, toldOfPass, hmode, houtput]

/-! ## Section 3: The command -/

/-- The command ends as its pass does.  It has told of the file and the pass,
    and it has warned exactly when stable declarations stand in. -/
def Tells (s : Session) (m : Machine) (screen : Screen) (emoji : Bool) (stop : Stop Failure)
    (output : String) : Prop :=
  stop = stopAfter (s.synchronize none m).1 ∧ ∃ warned,
    output = displayed screen emoji
      (told (s.declarationFile m).text warned (s.synchronize none m).1) ∧
    (warned = true ↔ stop = .exit 0 ∧ s.HasStandIn m)

theorem environment_synchronize (s : Session) (unstable : Bool) (m : Machine) :
    (s.synchronize (some unstable) m).2.environment = m.environment := by
  rw [(s.aged_synchronize unstable m).environment_eq]
  exact (aged_typeDeclarations s.settings unstable m).environment_eq

/-- Without an outcome there is nothing to warn of. -/
theorem tells_of_failure {failure : Declarations.Failure} {stop : Stop Failure} {output : String}
    (hpass : (s.synchronize none m).1 = .error failure) (hstop : stop = stopAfter (.error failure))
    (houtput : output = displayed screen emoji
      ((.info, "Synchronising " ++ (s.declarationFile m).text) ::
        toldOfPass (s.declarationFile m).text (.error failure))) :
    Tells s m screen emoji stop output := by
  have hfails : stopAfter (.error failure) ≠ .exit 0 := by
    cases failure <;> simp [stopAfter]
  refine ⟨by rw [hpass, hstop], false, ?_, ?_⟩
  · rw [hpass, houtput]
    exact congrArg _ (List.append_nil _).symm
  · simp [hstop, hfails]

theorem ensures_types {root : Option String} {unstable : Option Bool}
    (h : OpensWith d.machine root unstable s) (hsteady : s.IsSteady d.machine)
    (hscreen : Shows d screen) (hempty : d.output = "") (emoji : Bool) :
    d.Ensures (types root unstable emoji)
      (fun _ d' => Tells s d.machine screen emoji (.exit 0) d'.output)
      (fun stop d' => Tells s d.machine screen emoji stop d'.output) := by
  unfold types
  refine Desk.ensures_after (ensures_openSession_of_opensWith d h .output emoji) ?_
  intro opened d' hopened
  obtain ⟨rfl, rfl⟩ := hopened
  refine Desk.ensures_bind (M := fun seen d' => seen = d.machine ∧ d = d')
    (Desk.ensures_asks ⟨rfl, rfl⟩) ?_
  intro seen d' hseen
  obtain ⟨rfl, rfl⟩ := hseen
  refine Desk.ensures_after (ensures_say_on hscreen .info emoji _) ?_
  intro _ d₁ hsaid
  obtain ⟨hwritten, houtput⟩ := hsaid
  have hkept := environment_synchronize s s.settings.unstable d₁.machine
  refine Desk.ensures_bind (ensures_run_on (hwritten.shows hscreen) hkept) ?_
  intro answer d₂ hran
  obtain ⟨hpass, hmachine, hscreen₂, houtput₂⟩ := hran
  rw [hwritten.machine] at hpass hmachine
  rw [houtput, hempty, String.empty_append] at houtput₂
  match answer with
  | .error .unavailable =>
    refine (ensures_refused hscreen₂ emoji _).mono (fun _ _ habsurd => habsurd.elim) ?_
    intro stop d₃ hrefused
    refine tells_of_failure hpass.symm hrefused.1 ?_
    rw [hrefused.2, houtput₂]
    simp [displayed, toldOfPass]
  | .error (.file e) =>
    refine (ensures_refused hscreen₂ emoji _).mono (fun _ _ habsurd => habsurd.elim) ?_
    intro stop d₃ hrefused
    refine tells_of_failure hpass.symm hrefused.1 ?_
    rw [hrefused.2, houtput₂]
    simp [displayed, toldOfPass]
  | .error .embeddedNul =>
    refine Desk.ensures_fail (tells_of_failure hpass.symm rfl ?_)
    rw [houtput₂]
    simp [displayed, toldOfPass]
  | .error (.excess e) =>
    refine Desk.ensures_fail (tells_of_failure hpass.symm rfl ?_)
    rw [houtput₂]
    simp [displayed, toldOfPass]
  | .ok outcome =>
    obtain ⟨arguments, hsynchronises⟩ := Session.synchronises_of_outcome hpass.symm
    obtain ⟨supported, hsupported, hwarned⟩ := hsynchronises.exists_supported hsteady
    -- The records of the pass were taken away, and the versions are the same without them.
    have hagain : (version s.settings d₂.machine).1 =
        (version s.settings (s.synchronize none d.machine).2).1 := by
      rw [hmachine, version_with_log]
    rw [← hagain] at hsupported
    refine (ensures_outcome hscreen₂ hsupported outcome emoji _).mono ?_ ?_
    · intro _ d₃ htold
      refine ⟨by rw [← hpass]; rfl, s.settings.unstable && !supported, ?_, by simp [hwarned]⟩
      rw [htold, houtput₂, ← hpass]
      simp [displayed, told]
    · intro _ _ habsurd
      exact habsurd.elim

/-- With sizes that can be read, the command line ends and tells as the command
    does. -/
theorem tells_of_requests {line : List String} {root : Option String} {unstable : Option Bool}
    {streams : Streams} (h : Requests m line (.types root unstable emoji))
    (hopens : OpensWith m root unstable s) (hsteady : s.IsSteady m)
    (hscreen : streams.screen m.environment .output true = .ok screen) (input : String) :
    Tells s m screen emoji (run m streams line input).1.stop (run m streams line input).1.output := by
  refine report_of_requests h (hasSizes_of_screen hscreen) ?_
  rintro d rfl rfl hempty
  exact ensures_types hopens hsteady hscreen hempty emoji

theorem stopAfter_eq_zero_iff : stopAfter pass = .exit 0 ↔ ∃ outcome, pass = .ok outcome := by
  unfold stopAfter
  split <;> simp

theorem stopAfter_eq_one_iff : stopAfter pass = .exit 1 ↔
    pass = .error .unavailable ∨ ∃ e, pass = .error (.file e) := by
  unfold stopAfter
  split <;> simp

/-! ## Section 4: An outdated toolchain -/

/-- The versions that the program prints, whatever it is asked. -/
def outdatedText : String :=
  "\x7b\"deno\":\"0.42.0\",\"v8\":\"8\",\"typescript\":\"3\"\x7d"

/-- What the program prints. -/
def outdated : ChildResult :=
  ⟨Utf8.encodeString outdatedText, [], .exited 0⟩

/-- A machine with so many columns and with a declaration file at the root of
    its cache that holds what the program prints. -/
def outdatedOn (columns : String) : Machine :=
  { Machine.single ⟨[(Settings.executableVariable, "/deno"), ("DENO_DIR", "/"),
      ("COLUMNS", columns)]⟩ outdated with
    files := ⟨(["lib.deno.unstable.d.ts"], .file readOnlyMode outdated.output) ::
      (["deno"], .tool .cat) :: Machine.nullNodes⟩ }

/-- The session of a command that asks for the unstable declarations there. -/
def outdatedSession : Session :=
  ⟨{ Settings.default with executable := "/deno", unstable := true }, none, .linux⟩

theorem requests_outdatedOn (columns : String) :
    Requests (outdatedOn columns) ["types", "--unstable", "--no-emoji"]
      (.types none (some true) false) :=
  ⟨false, .types, ["--unstable", "--no-emoji"], rfl, rfl⟩

theorem opensWith_outdatedOn (columns : String) :
    OpensWith (outdatedOn columns) none (some true) outdatedSession :=
  ⟨outdatedSession.settings, rfl, rfl⟩

theorem serves_outdatedOn (columns : String) : (outdatedOn columns).Serves outdated :=
  Machine.serves_of_tool rfl rfl rfl fun _ _ => rfl

theorem decodeText_outdated : Machine.decodeText outdated.output = .ok outdatedText := by
  decide +kernel

/-- What is reported there. -/
def outdatedReport : VersionReport :=
  .ofStrings "0.42.0" "8" "3"

theorem parse_outdatedText :
    VersionReport.parse 1 outdatedText = .ok (some outdatedReport) := by
  decide +kernel

theorem version_outdatedOn (columns : String) :
    version outdatedSession.settings (outdatedOn columns) =
      (.ok (some outdatedReport), outdatedOn columns) :=
  version_of_serves (serves_outdatedOn columns) rfl rfl rfl decodeText_outdated parse_outdatedText

/-- The program is run without the flag, and the file holds what it prints. -/
theorem synchronize_outdatedOn (columns : String) :
    outdatedSession.synchronize none (outdatedOn columns) = (.ok .unchanged, outdatedOn columns) := by
  have harguments : typeArguments true (some outdatedReport) = .ok ["types"] := by
    decide +kernel
  have hanswer : typeDeclarations outdatedSession.settings true (outdatedOn columns) =
      (.ok (some outdated.output), outdatedOn columns) :=
    typeDeclarations_of_serves (serves_outdatedOn columns) rfl rfl rfl decodeText_outdated
      parse_outdatedText harguments (by decide)
  have hfile : outdatedSession.declarationFileFor (outdatedOn columns) true =
      Cache.declarationFile ⟨.root, []⟩ true := by
    have hroot : Path.normalForm "/" = ⟨.root, []⟩ := by decide
    show Cache.declarationFile (Path.normalForm "/") true = _
    rw [hroot]
  have hfind : (outdatedOn columns).files.find [] (Cache.declarationFile ⟨.root, []⟩ true).text =
      .ok (["lib.deno.unstable.d.ts"], .file readOnlyMode outdated.output) :=
    Session.find_in_root [] rfl (by simp)
  have hrun := run_refresh_same (by decide) hfind
  show Declarations.synchronize outdatedSession.settings
    (outdatedSession.declarationFileFor (outdatedOn columns) true) true (outdatedOn columns) = _
  unfold Declarations.synchronize
  rw [hanswer, hfile]
  dsimp only
  rw [show (refresh (FileSystem.access (outdatedOn columns).directory) _ _).run _ = _ from hrun]
  rfl

theorem isSteady_outdatedOn (columns : String) : outdatedSession.IsSteady (outdatedOn columns) := by
  unfold Session.IsSteady
  rw [synchronize_outdatedOn]

theorem hasStandIn_outdatedOn (columns : String) :
    outdatedSession.HasStandIn (outdatedOn columns) := by
  have hpass := synchronize_outdatedOn columns
  obtain ⟨arguments, hsynchronises⟩ :=
    Session.synchronises_of_outcome (congrArg Prod.fst hpass)
  obtain ⟨supported, hsupported, hwarned⟩ :=
    hsynchronises.exists_supported (isSteady_outdatedOn columns)
  obtain ⟨report, hversion, hsupports⟩ := hsupported rfl
  rw [hpass, version_outdatedOn] at hversion
  obtain rfl := Option.some.inj (Except.ok.inj hversion)
  have hold : supportsUnstable (some outdatedReport) = .ok false := by decide +kernel
  obtain rfl := Except.ok.inj (hold.symm.trans hsupports)
  exact hwarned.1 rfl

/-! ## Section 5: What is told -/

/-- With a session and a toolchain that gives the same versions after the pass
    as before it, the command exits with status 0 or 1 as its pass ends, if
    sizes of screens can be read.  A pass with an outcome has brought the file
    that is told of in line with what a child wrote.  A screen with columns
    shows what is told in lines, and a warning is among them exactly when the
    command exits with status 0 and stable declarations stand in; a screen
    without columns shows nothing. -/
theorem warned_of_stand_in {line : List String} {root : Option String} {unstable : Option Bool}
    (h : Requests m line (.types root unstable emoji)) (hopens : OpensWith m root unstable s)
    (hsteady : s.IsSteady m) (streams : Streams) (input : String) :
    ((run m streams line input).1.stop = .exit 0 ↔
      HasSizes m.environment ∧ ∃ outcome, (s.synchronize none m).1 = .ok outcome) ∧
    ((run m streams line input).1.stop = .exit 1 ↔
      HasSizes m.environment ∧ ((s.synchronize none m).1 = .error .unavailable ∨
        ∃ e, (s.synchronize none m).1 = .error (.file e))) ∧
    (∀ outcome, (s.synchronize none m).1 = .ok outcome →
      ∃ arguments, s.Synchronises m arguments outcome) ∧
    ∀ screen, streams.screen m.environment .output true = .ok screen → ∃ warned,
      (warned = true ↔ (run m streams line input).1.stop = .exit 0 ∧ s.HasStandIn m) ∧
      (run m streams line input).1.output = displayed screen emoji
        (told (s.declarationFile m).text warned (s.synchronize none m).1) ∧
      (screen.columns ≠ 0 → IsOneLine (s.declarationFile m).text.toList →
        (run m streams line input).1.output =
          String.join ((told (s.declarationFile m).text warned (s.synchronize none m).1).map
            fun notice => notice.1.line screen emoji notice.2)) ∧
      (screen.columns = 0 → (run m streams line input).1.output = "") := by
  have hends : HasSizes m.environment →
      (run m streams line input).1.stop = stopAfter (s.synchronize none m).1 := by
    intro hsizes
    obtain ⟨screen, hscreen⟩ := exists_screen hsizes streams .output true
    exact (tells_of_requests h hopens hsteady hscreen input).1
  have hfails : ¬ HasSizes m.environment →
      ∃ fault, (run m streams line input).1.stop = .failed (.display (.size fault)) :=
    stop_of_not_hasSizes h
  refine ⟨?_, ?_, fun outcome => Session.synchronises_of_outcome, ?_⟩
  · by_cases hsizes : HasSizes m.environment
    · rw [hends hsizes, stopAfter_eq_zero_iff]
      simp [hsizes]
    · obtain ⟨fault, hstop⟩ := hfails hsizes
      simp [hsizes, hstop]
  · by_cases hsizes : HasSizes m.environment
    · rw [hends hsizes, stopAfter_eq_one_iff]
      simp [hsizes]
    · obtain ⟨fault, hstop⟩ := hfails hsizes
      simp [hsizes, hstop]
  · intro screen hscreen
    obtain ⟨-, warned, houtput, hwarned⟩ := tells_of_requests h hopens hsteady hscreen input
    refine ⟨warned, hwarned, houtput, ?_, ?_⟩
    · intro hcolumns hline
      have hlines : ∀ notice ∈ told (s.declarationFile m).text warned (s.synchronize none m).1,
          IsOneLine notice.2.toList := isOneLine_told hline fun e => Session.file_of_synchronize
      rw [houtput, displayed_eq_lines hlines hcolumns (colourless_of_screen hscreen)]
    · intro hcolumns
      rw [houtput, displayed_eq_empty hcolumns]

/-- In a pipe of 80 columns, all three notices of a pass with an outdated
    toolchain can be read. -/
theorem stand_in_told :
    Requests (outdatedOn "80") ["types", "--unstable", "--no-emoji"]
      (.types none (some true) false) ∧
    OpensWith (outdatedOn "80") none (some true) outdatedSession ∧
    outdatedSession.IsSteady (outdatedOn "80") ∧
    (run (outdatedOn "80") piped ["types", "--unstable", "--no-emoji"] "").1.stop = .exit 0 ∧
    (run (outdatedOn "80") piped ["types", "--unstable", "--no-emoji"] "").1.output =
      "Synchronising /lib.deno.unstable.d.ts\nUp to date: /lib.deno.unstable.d.ts\n" ++
      "Deno older than 0.43.0 has no unstable declarations; stable ones were written\n" := by
  have hrequests := requests_outdatedOn "80"
  have hopens := opensWith_outdatedOn "80"
  have hsteady := isSteady_outdatedOn "80"
  obtain ⟨hzero, -, -, htold⟩ := warned_of_stand_in hrequests hopens hsteady piped ""
  have hscreen : piped.screen (outdatedOn "80").environment .output true =
      .ok ⟨80, none, false⟩ := rfl
  have hpass := synchronize_outdatedOn "80"
  have hstop := hzero.2 ⟨hasSizes_of_screen hscreen, .unchanged, congrArg Prod.fst hpass⟩
  obtain ⟨warned, hwarned, -, hlines, -⟩ := htold _ hscreen
  obtain rfl := hwarned.2 ⟨hstop, hasStandIn_outdatedOn "80"⟩
  have htarget : (outdatedSession.declarationFile (outdatedOn "80")).text =
      "/lib.deno.unstable.d.ts" := by decide
  rw [htarget, hpass] at hlines
  refine ⟨hrequests, hopens, hsteady, hstop, ?_⟩
  rw [hlines (by decide) ⟨by decide, by decide, by decide⟩]
  rfl

/-- Without columns the command exits with status 0 after the same pass, and it
    has not warned of the stable declarations, nor written anything. -/
theorem stand_in_not_told :
    Requests (outdatedOn "0") ["types", "--unstable", "--no-emoji"]
      (.types none (some true) false) ∧
    OpensWith (outdatedOn "0") none (some true) outdatedSession ∧
    outdatedSession.IsSteady (outdatedOn "0") ∧ outdatedSession.HasStandIn (outdatedOn "0") ∧
    (run (outdatedOn "0") piped ["types", "--unstable", "--no-emoji"] "").1.stop = .exit 0 ∧
    (run (outdatedOn "0") piped ["types", "--unstable", "--no-emoji"] "").1.output = "" := by
  have hrequests := requests_outdatedOn "0"
  have hopens := opensWith_outdatedOn "0"
  have hsteady := isSteady_outdatedOn "0"
  have hscreen : piped.screen (outdatedOn "0").environment .output true =
      .ok ⟨0, none, false⟩ := rfl
  obtain ⟨hstop, warned, houtput, -⟩ := tells_of_requests hrequests hopens hsteady hscreen ""
  rw [synchronize_outdatedOn] at hstop
  refine ⟨hrequests, hopens, hsteady, hasStandIn_outdatedOn "0", hstop, ?_⟩
  rw [houtput, displayed_eq_empty rfl]

end CommandLine

end DenoBridge
