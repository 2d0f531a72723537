import DenoBridge.Proofs.Toolchain.AtRoot

/-! # Runs of passes

    A run is made of passes for either mode, of whatever is done to the
    declaration files from outside, and of toolchains that start to answer
    something else.  From a machine that is ready, a run leads to machines
    that are ready (`Ready.of_reaches`), and there every pass does exactly
    what it should (`every_pass_exact`).
-/

namespace DenoBridge.Session

open Declarations Toolchain
open Machine (Aged)

variable {s : Session} {m m₀ : Machine}

/-! ## Section 1: One pass -/

/-- What a pass for a mode does on a machine, told by the toolchain's answer
    and the machine that the answer leaves. -/
structure ExactPass (s : Session) (unstable : Bool) (m : Machine) : Prop where
  /-- Without declarations there is no outcome, and nothing is touched. -/
  absent : ∀ asked, typeDeclarations s.settings unstable m = (.ok none, asked) →
    s.synchronize (some unstable) m = (.error .unavailable, asked)
  /-- The same holds when the versions cannot be read at all. -/
  excess : ∀ e asked, typeDeclarations s.settings unstable m = (.error e, asked) →
    s.synchronize (some unstable) m = (.error (.excess e), asked)
  /-- With declarations there is an outcome, and the file is refreshed. -/
  present : ∀ content asked, typeDeclarations s.settings unstable m = (.ok (some content), asked) →
    IsRawOutput s.settings unstable m asked content ∧
      ∃ outcome after, s.synchronize (some unstable) m = (.ok outcome, after) ∧
        Refreshed m.directory (s.cacheRoot m) unstable content asked.files outcome after.files
  /-- Children that leave the files alone leave them to the pass as they
      were. -/
  quiet : (∀ launch fs, (m.child launch fs).2 = fs) →
    (typeDeclarations s.settings unstable m).2.files = m.files

/-- A machine on which passes can be run: the files are ready, and no child
    changes that. -/
structure Ready (s : Session) (m : Machine) : Prop where
  files : IsReady m.directory (s.cacheRoot m) m.files
  children : ∀ launch fs, IsReady m.directory (s.cacheRoot m) fs →
    IsReady m.directory (s.cacheRoot m) (m.child launch fs).2

theorem Ready.aged (h : s.Ready m) {m' : Machine} (hage : Aged m m') : s.Ready m' := by
  have hroot := s.cacheRoot_eq hage.environment_eq
  constructor
  · rw [hage.directory_eq, hroot]
    exact hage.files h.children h.files
  · rw [hage.directory_eq, hroot, hage.child_eq]
    exact h.children

/-- Other files that are ready too. -/
theorem Ready.with_files (h : s.Ready m) {fs : FileSystem}
    (hfiles : IsReady m.directory (s.cacheRoot m) fs) : s.Ready { m with files := fs } :=
  ⟨hfiles, h.children⟩

/-! ## Section 2: The machine after a pass -/

/-- On a ready machine a pass does exactly what it should. -/
theorem Ready.exactPass (h : s.Ready m) (unstable : Bool) : s.ExactPass unstable m := by
  have hage := aged_typeDeclarations s.settings unstable m
  constructor
  case absent => exact fun asked => synchronize_absent
  case excess => exact fun e asked => synchronize_excess
  case present =>
    intro content asked hanswer
    rw [hanswer] at hage
    -- The children that were asked left the files ready.
    have hfiles := hage.files h.children h.files
    obtain ⟨outcome, fs, hrun, hrefreshed⟩ :=
      refreshed_of_isReady (s.isNormal_cacheRoot m) hfiles unstable content
    rw [← hage.directory_eq] at hrun
    obtain ⟨after, hpass, rfl, -⟩ := synchronize_present hanswer hrun
    exact ⟨of_typeDeclarations hanswer, outcome, after, hpass, hrefreshed⟩
  case quiet =>
    intro hquiet
    exact hage.files (P := fun fs => fs = m.files) (fun launch fs hfs => by rw [hquiet, hfs]) rfl

/-- A pass leaves a ready machine ready. -/
theorem Ready.pass (h : s.Ready m) (unstable : Bool) :
    s.Ready (s.synchronize (some unstable) m).2 := by
  have hage := aged_typeDeclarations s.settings unstable m
  have hasked := h.aged hage
  rcases s.synchronize_cases unstable m with ⟨content, asked, hanswer⟩ | ⟨-, failure, hpass⟩
  · rw [hanswer] at hage hasked
    have hroot := s.isNormal_cacheRoot asked
    obtain ⟨outcome, fs, hrun, -⟩ := refreshed_of_isReady hroot hasked.files unstable content
    have hfiles := hasked.files.refresh hroot unstable content
    rw [hrun] at hfiles
    rw [s.cacheRoot_eq hage.environment_eq] at hrun
    obtain ⟨after, hpass, -, hafter⟩ := synchronize_present hanswer hrun
    rw [hpass]
    exact (hasked.with_files hfiles).aged hafter
  · rw [hpass]
    exact hasked

/-! ## Section 3: Runs -/

/-- The machines that a run can lead to. -/
inductive Reaches (s : Session) (m₀ : Machine) : Machine → Prop where
  | start : Reaches s m₀ m₀
  /-- A pass for a mode. -/
  | pass {m : Machine} (unstable : Bool) : Reaches s m₀ m →
      Reaches s m₀ (s.synchronize (some unstable) m).2
  /-- Something is done to the file of a mode from outside. -/
  | touch {m : Machine} (unstable : Bool) (touch : Touch) : Reaches s m₀ m →
      Reaches s m₀ { m with
        files := touch.apply m.directory (s.declarationFileFor m unstable) m.files }
  /-- Anything else happens to the files that leaves them ready. -/
  | outside {m : Machine} (fs : FileSystem) : IsReady m.directory (s.cacheRoot m) fs →
      Reaches s m₀ m → Reaches s m₀ { m with files := fs }
  /-- The toolchain changes, and with it all answers from here on. -/
  | answers {m : Machine} (child : Launch → FileSystem → ChildResult × FileSystem) :
      (∀ launch fs, IsReady m.directory (s.cacheRoot m) fs →
        IsReady m.directory (s.cacheRoot m) (child launch fs).2) →
      Reaches s m₀ m → Reaches s m₀ { m with child := child }

theorem Ready.of_reaches (h : s.Ready m₀) (hrun : s.Reaches m₀ m) : s.Ready m := by
  induction hrun with
  | start => exact h
  | pass unstable _ ih => exact ih.pass unstable
  | touch unstable touch _ ih =>
    exact ih.with_files (ih.files.touch (s.isNormal_cacheRoot _) unstable touch)
  | outside fs hfiles _ ih => exact ih.with_files hfiles
  | answers child hchild _ ih => exact ⟨ih.files, hchild⟩

/-- Every pass of every run from a ready machine is exact. -/
theorem every_pass_exact (h : s.Ready m₀) (hrun : s.Reaches m₀ m) (unstable : Bool) :
    s.ExactPass unstable m :=
  (h.of_reaches hrun).exactPass unstable

theorem IsAtRoot.refreshed {unstable : Bool} {outcome : Outcome} {after : Machine}
    (h : IsAtRoot m) (hexact : besideRoot.ExactPass unstable m)
    (hpass : besideRoot.synchronize (some unstable) m = (.ok outcome, after)) :
    Refreshed [] ⟨.root, []⟩ unstable printed.output m.files outcome after.files := by
  obtain ⟨-, outcome', after', hpass', hrefreshed⟩ := hexact.present _ _ (h.answer unstable)
  obtain ⟨houtcome, rfl⟩ := Prod.mk.inj (hpass'.symm.trans hpass)
  rwa [Except.ok.inj houtcome, h.directory, cacheRoot_besideRoot] at hrefreshed

theorem ready_serving : besideRoot.Ready serving := by
  refine ⟨?_, fun _ _ hfiles => hfiles⟩
  rw [cacheRoot_besideRoot]
  exact isReady_of_none isAtRoot_serving.tree fun unstable => by cases unstable <;> rfl

/-- A file is made, edited from outside and rewritten; made writable from outside,
    it is found unchanged and protected again. -/
theorem passes_between_touches_exact : besideRoot.Ready serving ∧ ∃ made rewritten closed,
    besideRoot.synchronize (some true) serving = (.ok .created, made) ∧
    Refreshed [] ⟨.root, []⟩ true printed.output serving.files .created made.files ∧
    besideRoot.Reaches serving (touched true (.edit [0x61]) made) ∧
    besideRoot.synchronize (some true) (touched true (.edit [0x61]) made) =
      (.ok .updated, rewritten) ∧
    Refreshed [] ⟨.root, []⟩ true printed.output (touched true (.edit [0x61]) made).files .updated
      rewritten.files ∧
    besideRoot.Reaches serving (touched true (.chmod 0o666) rewritten) ∧
    besideRoot.synchronize (some true) (touched true (.chmod 0o666) rewritten) =
      (.ok .unchanged, closed) ∧
    Refreshed [] ⟨.root, []⟩ true printed.output (touched true (.chmod 0o666) rewritten).files
      .unchanged closed.files ∧
    closed.files.get? ["lib.deno.unstable.d.ts"] = some (.file readOnlyMode printed.output) := by
  have hput (fs : FileSystem) (node : Node) :
      (fs.put [Cache.declarationName true] node).get? [Cache.declarationName true] = some node :=
    FileSystem.get?_put_self fs (by simp) node
  have hstart := isAtRoot_serving
  obtain ⟨made, hfirst, hfiles, hmade⟩ := hstart.pass_missing true rfl
  have hmadeRun : besideRoot.Reaches serving _ := Reaches.start.pass true
  rw [hfirst] at hmadeRun
  -- The edit leaves another content, so that the next pass writes.
  obtain ⟨heditedFiles, hedited⟩ := hmade.touch true (by rw [hfiles]; exact hput _ _)
    (show touchedNode _ _ (.edit [0x61]) = some _ from rfl)
  have heditedRun : besideRoot.Reaches serving (touched true (.edit [0x61]) made) :=
    hmadeRun.touch true (.edit [0x61])
  obtain ⟨rewritten, hsecond, hfiles, hrewritten⟩ :=
    hedited.pass_different true (by rw [heditedFiles]; exact hput _ _) (by decide)
  have hrewrittenRun := heditedRun.pass true
  rw [hsecond] at hrewrittenRun
  -- The content is the same from then on, and only the permissions are seen to.
  obtain ⟨hopenedFiles, hopened⟩ := hrewritten.touch true (by rw [hfiles]; exact hput _ _)
    (show touchedNode _ _ (.chmod 0o666) = some _ from rfl)
  have hopenedRun : besideRoot.Reaches serving (touched true (.chmod 0o666) rewritten) :=
    hrewrittenRun.touch true (.chmod 0o666)
  obtain ⟨closed, hthird, hfiles, -⟩ :=
    hopened.pass_writable true (by rw [hopenedFiles]; exact hput _ _) (by decide)
  have hexact {there : Machine} (hrun : besideRoot.Reaches serving there) :=
    every_pass_exact ready_serving hrun true
  refine ⟨ready_serving, made, rewritten, closed, hfirst, hstart.refreshed (hexact .start) hfirst,
    heditedRun, hsecond, hedited.refreshed (hexact heditedRun) hsecond, hopenedRun, hthird,
    hopened.refreshed (hexact hopenedRun) hthird, ?_⟩
  rw [hfiles]
  exact hput _ _

end DenoBridge.Session
