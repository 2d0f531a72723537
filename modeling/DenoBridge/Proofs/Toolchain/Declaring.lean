import DenoBridge.Proofs.Toolchain.Passes
import DenoBridge.Proofs.Toolchain.Probing

/-! # Declaring with and without the flag

    Whether the toolchain is asked for the unstable declarations is decided by
    the version that it reports (`exists_supported`).  A toolchain that reports
    the same version after a pass therefore tells how the pass ran it
    (`Synchronises.exists_supported`).  Records do not matter to the versions
    (`version_with_log`).
-/

namespace DenoBridge

/-! ## Section 1: Records -/

namespace Machine

theorem launch?_with_log (m : Machine) (log : List LogRecord) (arguments : List String)
    (input : Bytes) (failure : Errno) (files : List String) :
    ({ m with log := log } : Machine).launch? arguments input failure files =
      m.launch? arguments input failure files := by
  induction files generalizing failure with
  | nil => rfl
  | cons file more ih =>
    unfold launch?
    dsimp only
    split
    · rfl
    · exact ih _

theorem spawn_with_log (m : Machine) (log : List LogRecord) (name : String)
    (arguments : List String) (given : Feed) :
    ({ m with log := log } : Machine).spawn name arguments given =
      ((m.spawn name arguments given).1, { (m.spawn name arguments given).2 with log := log }) := by
  have hcandidates : ({ m with log := log } : Machine).candidates name = m.candidates name := rfl
  have hfeed : ({ m with log := log } : Machine).feed given = m.feed given := rfl
  unfold spawn
  rw [hfeed, hcandidates]
  cases m.feed given with
  | error e => rfl
  | ok input =>
    dsimp only
    rw [launch?_with_log]
    split
    · rfl
    · split <;> rfl

end Machine

namespace Toolchain

variable {s : Settings} {m m' : Machine} {arguments : List String} {child : ChildResult}
  {report : VersionReport}

theorem Delivers.with_log (h : Delivers s m arguments child m') (log : List LogRecord) :
    Delivers s { m with log := log } arguments child { m' with log := log } := by
  obtain ⟨path, program, hpath, hresolve, hspawn, hstatus⟩ := h
  refine ⟨path, program, hpath, hresolve, ?_, hstatus⟩
  rw [Machine.spawn_with_log, hspawn]

theorem PrintsPayload.with_log {payload : String} (h : PrintsPayload s m payload m')
    (log : List LogRecord) : PrintsPayload s { m with log := log } payload { m' with log := log } := by
  obtain ⟨child, hdelivers, hprints⟩ := h
  exact ⟨child, hdelivers.with_log log, hprints⟩

/-- The versions do not depend on the records that were written so far. -/
theorem version_with_log (s : Settings) (m : Machine) (log : List LogRecord) :
    (version s { m with log := log }).1 = (version s m).1 := by
  rcases version_cases s m with ⟨payload, m', hprints, hversion⟩ | ⟨hsilent, hversion⟩
  · rw [version_of_prints (hprints.with_log log), hversion, readPayload_eq, readPayload_eq]
  · rw [hversion]
    rcases version_cases s { m with log := log } with ⟨payload, m', hprints, -⟩ | ⟨-, hnone⟩
    · -- What is printed with these records is printed with the old ones.
      exact absurd ⟨payload, _, hprints.with_log m.log⟩ hsilent
    · exact hnone

/-! ## Section 2: The flag -/

/-- A child that was run with the arguments, to declare what a mode has, wrote
    the content. -/
def Declares (s : Settings) (unstable : Bool) (m : Machine) (arguments : List String)
    (content : Bytes) (m' : Machine) : Prop :=
  ∃ report asked child, version s m = (.ok (some report), asked) ∧
    typeArguments unstable (some report) = .ok arguments ∧
    Delivers s asked arguments child m' ∧ child.output = content

theorem declares_of_typeDeclarations {unstable : Bool} {content : Bytes}
    (h : typeDeclarations s unstable m = (.ok (some content), m')) :
    ∃ arguments, Declares s unstable m arguments content m' := by
  obtain ⟨report, asked, path, program, arguments, child, hversion, harguments, hpath, hresolve,
    hspawn, hstatus, hcontent⟩ := of_typeDeclarations h
  exact ⟨arguments, report, asked, child, hversion, harguments,
    ⟨path, program, hpath, hresolve, hspawn, hstatus⟩, hcontent⟩

/-- The flag that asks for the unstable declarations. -/
def unstableFlag : String := "--unstable"

/-- The flag is given to the toolchains that support it. -/
theorem exists_supported (h : typeArguments true (some report) = .ok arguments) :
    ∃ supported, supportsUnstable (some report) = .ok supported ∧
      (supported = true ↔ unstableFlag ∈ arguments) := by
  unfold typeArguments at h
  rw [if_pos rfl] at h
  obtain ⟨supported, hsupported, h⟩ := exists_of_bind_ok h
  refine ⟨supported, hsupported, ?_⟩
  obtain rfl := Except.ok.inj h
  cases supported with
  | false => decide
  | true => decide

end Toolchain

/-! ## Section 3: Passes -/

namespace Session

open Declarations Toolchain

variable {s : Session} {m : Machine} {outcome : Outcome} {arguments : List String}

/-- The toolchain gives the same versions after a pass as before it. -/
def IsSteady (s : Session) (m : Machine) : Prop :=
  (version s.settings (s.synchronize none m).2).1 = (version s.settings m).1

/-- The pass has brought the file of the session's mode in line with what a
    child wrote that was run with the arguments. -/
def Synchronises (s : Session) (m : Machine) (arguments : List String) (outcome : Outcome) :
    Prop :=
  ∃ content between, Declares s.settings s.settings.unstable m arguments content between ∧
    (refresh (FileSystem.access m.directory) (s.declarationFile m) content).run between.files =
      (.ok outcome, (s.synchronize none m).2.files)

theorem synchronises_of_outcome (h : (s.synchronize none m).1 = .ok outcome) :
    ∃ arguments, s.Synchronises m arguments outcome := by
  have hmode : s.synchronize none m = s.synchronize (some s.settings.unstable) m := rfl
  have hage := aged_typeDeclarations s.settings s.settings.unstable m
  rcases s.synchronize_cases s.settings.unstable m with ⟨content, asked, hanswer⟩ | ⟨-, failure, hpass⟩
  · rw [hanswer] at hage
    obtain ⟨arguments, hdeclares⟩ := declares_of_typeDeclarations hanswer
    refine ⟨arguments, content, asked, hdeclares, ?_⟩
    rcases hrun : (refresh (FileSystem.access asked.directory)
      (s.declarationFileFor m s.settings.unstable) content).run asked.files with ⟨fault | found, fs⟩
    · -- With a fault there is no outcome.
      rw [hmode, synchronize_fault hanswer hrun] at h
      cases h
    · obtain ⟨after, hpass, rfl, -⟩ := synchronize_present hanswer hrun
      rw [hmode, hpass] at h
      obtain rfl : found = outcome := Except.ok.inj h
      rw [hmode, hpass, ← hage.directory_eq]
      exact hrun
  · rw [hmode, hpass] at h
    cases h

/-- A file fault is about the file of the session's mode. -/
theorem file_of_synchronize {e : SyncError} (h : (s.synchronize none m).1 = .error (.file e)) :
    ∃ cause : Errno, e = ⟨(s.declarationFile m).text, cause.message⟩ := by
  have hmode : s.synchronize none m = s.synchronize (some s.settings.unstable) m := rfl
  rw [hmode] at h
  rcases hanswer : typeDeclarations s.settings s.settings.unstable m with ⟨excess | declared, asked⟩
  · rw [synchronize_excess hanswer] at h
    cases h
  · cases declared with
    | none =>
      rw [synchronize_absent hanswer] at h
      cases h
    | some content =>
      rcases hrun : (refresh (FileSystem.access asked.directory)
        (s.declarationFileFor m s.settings.unstable) content).run asked.files
        with ⟨fault | outcome, fs⟩
      · rw [synchronize_fault hanswer hrun] at h
        cases fault with
        | os cause =>
          refine ⟨cause.cause, ?_⟩
          exact (Failure.file.inj (Except.error.inj h)).symm
        | embeddedNul => cases h
      · obtain ⟨after, hpass, -, -⟩ := synchronize_present hanswer hrun
        rw [hpass] at h
        cases h

/-- The stable declarations stand in for the unstable ones: the session is for
    the unstable ones, and the pass ran the toolchain without the flag. -/
def HasStandIn (s : Session) (m : Machine) : Prop :=
  s.settings.unstable = true ∧
    ∃ arguments outcome, s.Synchronises m arguments outcome ∧ unstableFlag ∉ arguments

/-- A pass runs the toolchain once for its declarations. -/
theorem Synchronises.arguments_eq {arguments' : List String} {outcome' : Outcome}
    (h : s.Synchronises m arguments outcome) (h' : s.Synchronises m arguments' outcome') :
    arguments = arguments' := by
  obtain ⟨-, -, ⟨report, asked, -, hversion, harguments, -, -⟩, -⟩ := h
  obtain ⟨-, -, ⟨report', asked', -, hversion', harguments', -, -⟩, -⟩ := h'
  obtain ⟨hreport, -⟩ := Prod.mk.inj (hversion.symm.trans hversion')
  obtain rfl := Option.some.inj (Except.ok.inj hreport)
  exact Except.ok.inj (harguments.symm.trans harguments')

theorem Synchronises.hasStandIn_iff (h : s.Synchronises m arguments outcome) :
    s.HasStandIn m ↔ s.settings.unstable = true ∧ unstableFlag ∉ arguments := by
  constructor
  · intro hstandIn
    obtain ⟨hmode, arguments', outcome', h', hflag⟩ := hstandIn
    rw [h.arguments_eq h']
    exact ⟨hmode, hflag⟩
  · intro hboth
    exact ⟨hboth.1, arguments, outcome, h, hboth.2⟩

/-- Asked for its versions after the pass, a steady toolchain tells whether the
    pass ran it with the flag. -/
theorem Synchronises.exists_supported (h : s.Synchronises m arguments outcome)
    (hsteady : s.IsSteady m) : ∃ supported,
      (s.settings.unstable = true → ∃ report,
        (version s.settings (s.synchronize none m).2).1 = .ok (some report) ∧
          supportsUnstable (some report) = .ok supported) ∧
      ((s.settings.unstable && !supported) = true ↔ s.HasStandIn m) := by
  rw [h.hasStandIn_iff]
  by_cases hmode : s.settings.unstable = true
  · obtain ⟨content, between, ⟨report, asked, child, hversion, harguments, -, -⟩, -⟩ := h
    rw [hmode] at harguments
    obtain ⟨supported, hsupported, hflag⟩ := Toolchain.exists_supported harguments
    refine ⟨supported, ?_, ?_⟩
    · intro _
      refine ⟨report, ?_, hsupported⟩
      rw [hsteady, hversion]
    · simp [hmode, ← hflag]
  · refine ⟨true, fun hmode' => absurd hmode' hmode, ?_⟩
    simp [hmode]

end Session

end DenoBridge
