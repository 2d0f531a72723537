import DenoBridge.Proofs.CommandLine.Formatting

/-! # Nothing but the formatted text

    A command line that asks for formatting can end in many ways: its words may
    not be read, records may have no screen, settings, source or toolchain may
    be missing or fail.  Whatever is told of this is told on standard error,
    and standard output is written last (`ensures_execute_of_formats`).  So
    where the program does not exit with status 0, nothing has come to standard
    output (`output_eq_empty_of_formats`).
-/

namespace DenoBridge.CommandLine

open Terminal

variable {m : Machine} {d : Desk} {line words : List String} {task : Task}

/-! ## Section 1: Asking for formatting -/

/-- There are words, and if they name a command it is the one that formats. -/
def Formats (line : List String) : Prop :=
  line ≠ [] ∧ ∀ verbose command words,
    readOpening line = .ok (.command verbose command words) → command = .format

theorem format_of_taskOf {choices : Choices} {arguments : List String}
    (h : taskOf m choices .format arguments = .ok task) :
    ∃ file fragment emoji, task = .format file fragment emoji := by
  unfold taskOf at h
  obtain ⟨-, -, h⟩ := exists_of_bind_ok h
  cases arguments with
  | nil => exact ⟨_, _, _, (Except.ok.inj h).symm⟩
  | cons file others =>
    obtain ⟨-, -, h⟩ := exists_of_bind_ok h
    obtain ⟨-, -, h⟩ := exists_of_bind_ok h
    exact ⟨_, _, _, (Except.ok.inj h).symm⟩

theorem format_of_readRequest (h : readRequest m .format words = .ok (.run task)) :
    ∃ file fragment emoji, task = .format file fragment emoji := by
  unfold readRequest at h
  split at h
  · cases h
  · dsimp only at h
    split at h
    · cases h
    · obtain ⟨task', htask, hrun⟩ := exists_of_map_ok h
      obtain rfl : task' = task := Request.run.inj hrun
      exact format_of_taskOf htask

/-! ## Section 2: Every end -/

/-- The program exits with status 0, or standard output is as it was. -/
def SilentUnlessExit (d : Desk) (stop : Stop Failure) (d' : Desk) : Prop :=
  stop = .exit 0 ∨ d'.output = d.output

theorem ensures_help (d : Desk) :
    d.Ensures (help 0) (fun _ _ => True) (SilentUnlessExit d) := by
  unfold help
  refine Desk.ensures_bind (M := fun _ _ => True) (Desk.ensures_change trivial) ?_
  intro _ d' _
  exact Desk.ensures_exit (.inl rfl)

theorem ensures_execute_of_formats (hd : d.diagnostics = .unset) (h : Formats line)
    (input : String) :
    d.Ensures (execute line input) (fun _ _ => True) (SilentUnlessExit d) := by
  obtain ⟨hne, hformat⟩ := h
  unfold execute
  refine Desk.ensures_bind (M := fun opening d' => readOpening line = .ok opening ∧ d = d') ?_ ?_
  · apply Desk.ensures_orFail
    · intro opening hopening
      exact ⟨hopening, rfl⟩
    · intro _ _
      exact .inr rfl
  intro opening d' hopened
  obtain ⟨hopening, rfl⟩ := hopened
  cases opening with
  | help =>
    -- Help is asked for by an option, since there are words.
    have hempty : line.isEmpty = false := by simp [hne]
    rw [hempty]
    exact ensures_help d
  | command verbose command words =>
    obtain rfl := hformat verbose command words hopening
    dsimp only
    refine Desk.ensures_bind ((ensures_configure d verbose hd).mono (fun _ _ h => h) ?_) ?_
    · intro stop d' hstop
      exact .inr hstop.1
    intro _ d' hconfigured
    obtain ⟨-, houtput, -⟩ := hconfigured
    refine Desk.ensures_bind (M := fun _ d'' => d' = d'') (Desk.ensures_asks rfl) ?_
    intro m' _ hsame
    subst hsame
    refine Desk.ensures_bind (M := fun request d'' =>
      readRequest m' .format words = .ok request ∧ d' = d'') ?_ ?_
    · apply Desk.ensures_orFail
      · intro request hrequest
        exact ⟨hrequest, rfl⟩
      · intro _ _
        exact .inr houtput
    intro request _ hread
    obtain ⟨hrequest, rfl⟩ := hread
    cases request with
    | help =>
      refine (ensures_help d').mono (fun _ _ _ => trivial) ?_
      intro stop d'' hsilent
      exact hsilent.imp id fun hkept => hkept.trans houtput
    | run task =>
      obtain ⟨file, fragment, emoji, rfl⟩ := format_of_readRequest hrequest
      refine (ensures_format d' input file fragment emoji).mono (fun _ _ _ => trivial) ?_
      intro stop d'' hstop
      exact .inr (hstop.1.2.trans houtput)

/-! ## Section 3: A formatter that is killed -/

/-- A machine whose formatter writes a bold letter and is killed. -/
def halfway : Machine :=
  .single ⟨[(Settings.executableVariable, "/deno")]⟩ ⟨boldBytes, [], .killed 9⟩

theorem requests_halfway : Requests halfway ["--verbose", "fmt"] (.format none false true) :=
  ⟨true, .format, [], rfl, rfl⟩

theorem formats_verbose : Formats ["--verbose", "fmt"] := by
  refine ⟨List.cons_ne_nil _ _, ?_⟩
  intro verbose command words hopening
  have hread : readOpening ["--verbose", "fmt"] = .ok (.command true .format []) := rfl
  rw [hread] at hopening
  cases hopening
  rfl

theorem not_isFormatted_halfway : ¬ ∃ formatted, IsFormatted halfway "x" none false formatted := by
  intro hfound
  obtain ⟨formatted, settings, source, after, hsettings, -, hformat⟩ := hfound
  obtain rfl : ({ Settings.default with executable := "/deno" } : Settings) = settings :=
    Except.ok.inj hsettings
  have hserves : halfway.Serves ⟨boldBytes, [], .killed 9⟩ := Machine.serves_single _ _
  have htext : Path.text ⟨.root, ["deno"]⟩ = "/deno" := by decide
  unfold formatterFor at hformat
  rw [if_neg (by decide), Toolchain.format, Toolchain.executable_of_serves rfl hserves] at hformat
  dsimp only at hformat
  rw [htext, Machine.stream, hserves.execute_eq (by decide)] at hformat
  dsimp only at hformat
  rw [if_neg (by decide)] at hformat
  cases hformat

theorem stop_halfway : (run halfway piped ["--verbose", "fmt"] "x").1.stop ≠ .exit 0 := by
  intro hstop
  exact not_isFormatted_halfway (of_run_exit requests_halfway hstop).2

/-! ## Section 4: Standard output -/

/-- Whatever the machine, the streams and the input: a command line that asks
    for formatting and does not exit with status 0 has written nothing to
    standard output. -/
theorem output_eq_empty_of_formats (m : Machine) (streams : Streams) (input : String)
    (h : Formats line) (hstop : (run m streams line input).1.stop ≠ .exit 0) :
    (run m streams line input).1.output = "" := by
  have hends : (run m streams line input).1.stop = .exit 0 ∨
      (run m streams line input).1.output = "" := by
    refine report_of_ensures (P := fun stop output => stop = .exit 0 ∨ output = "") ?_
    refine (ensures_execute_of_formats rfl h input).mono ?_ ?_
    · intro _ _ _
      exact .inl rfl
    · intro _ _ hsilent
      exact hsilent
  exact hends.resolve_left hstop

/-- The bold letter that was written before the kill comes nowhere, and the
    records that are shown do not mix with it. -/
theorem halfway_silent : Formats ["--verbose", "fmt"] ∧
    (run halfway piped ["--verbose", "fmt"] "x").1.stop ≠ .exit 0 ∧
    (run halfway piped ["--verbose", "fmt"] "x").1.output = "" :=
  ⟨formats_verbose, stop_halfway,
    output_eq_empty_of_formats halfway piped "x" formats_verbose stop_halfway⟩

end DenoBridge.CommandLine
