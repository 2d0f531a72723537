import DenoBridge.Proofs.Toolchain.Answers
import DenoBridge.Session

/-! # How passes end

    Without declarations a pass fails and does nothing more.  With declarations
    it is the work on the file, which ends in an outcome
    (`synchronize_present`) or in a fault (`synchronize_fault`).  Beyond the
    files it leaves the machine that the toolchain left, and a record of what
    was done (`aged_synchronize`).
-/

namespace DenoBridge.Session

open Declarations Toolchain
open Machine (Aged)

variable {s : Session} {m : Machine}

theorem cacheRoot_eq (s : Session) {m m' : Machine} (h : m'.environment = m.environment) :
    s.cacheRoot m' = s.cacheRoot m := by
  unfold cacheRoot
  rw [h]

theorem synchronize_absent {unstable : Bool} {asked : Machine}
    (h : typeDeclarations s.settings unstable m = (.ok none, asked)) :
    s.synchronize (some unstable) m = (.error .unavailable, asked) := by
  unfold synchronize Declarations.synchronize
  simp only [Option.getD_some]
  rw [h]

theorem synchronize_excess {unstable : Bool} {asked : Machine} {e : VersionReport.Excess}
    (h : typeDeclarations s.settings unstable m = (.error e, asked)) :
    s.synchronize (some unstable) m = (.error (.excess e), asked) := by
  unfold synchronize Declarations.synchronize
  simp only [Option.getD_some]
  rw [h]

/-- Either declarations are given, or the pass fails and does nothing more. -/
theorem synchronize_cases (s : Session) (unstable : Bool) (m : Machine) :
    (∃ content asked, typeDeclarations s.settings unstable m = (.ok (some content), asked)) ∨
      (∀ content, (typeDeclarations s.settings unstable m).1 ≠ .ok (some content)) ∧
        ∃ failure, s.synchronize (some unstable) m =
          (.error failure, (typeDeclarations s.settings unstable m).2) := by
  rcases hanswer : typeDeclarations s.settings unstable m with ⟨e | declared, asked⟩
  · exact .inr ⟨by simp, _, synchronize_excess hanswer⟩
  · cases declared with
    | none => exact .inr ⟨by simp, _, synchronize_absent hanswer⟩
    | some content => exact .inl ⟨content, asked, rfl⟩

/-- With an answer, the pass is the work on the file, and a record of it. -/
theorem synchronize_present {unstable : Bool} {asked : Machine} {content : Bytes}
    {outcome : Outcome} {fs : FileSystem}
    (h : typeDeclarations s.settings unstable m = (.ok (some content), asked))
    (hrun : (refresh (FileSystem.access asked.directory) (s.declarationFileFor m unstable)
      content).run asked.files = (.ok outcome, fs)) :
    ∃ after, s.synchronize (some unstable) m = (.ok outcome, after) ∧ after.files = fs ∧
      Aged { asked with files := fs } after := by
  unfold synchronize Declarations.synchronize
  simp only [Option.getD_some]
  rw [h]
  dsimp only
  rw [hrun]
  dsimp only
  split
  · exact ⟨_, rfl, rfl, .debug _ _ .refl⟩
  · exact ⟨_, rfl, rfl, .refl⟩

/-- With a fault on the way to the file there is no outcome. -/
theorem synchronize_fault {unstable : Bool} {asked : Machine} {content : Bytes}
    {fault : FileFault} {fs : FileSystem}
    (h : typeDeclarations s.settings unstable m = (.ok (some content), asked))
    (hrun : (refresh (FileSystem.access asked.directory) (s.declarationFileFor m unstable)
      content).run asked.files = (.error fault, fs)) :
    s.synchronize (some unstable) m =
      (.error (.ofFault (s.declarationFileFor m unstable) fault), { asked with files := fs }) := by
  unfold synchronize Declarations.synchronize
  simp only [Option.getD_some]
  rw [h]
  dsimp only
  rw [hrun]

/-- Beyond the files, a pass leaves what the toolchain left, and a record. -/
theorem aged_synchronize (s : Session) (unstable : Bool) (m : Machine) :
    Aged { (typeDeclarations s.settings unstable m).2 with
      files := (s.synchronize (some unstable) m).2.files }
        (s.synchronize (some unstable) m).2 := by
  rcases s.synchronize_cases unstable m with ⟨content, asked, hanswer⟩ | ⟨-, failure, hpass⟩
  · rw [hanswer]
    rcases hrun : (refresh (FileSystem.access asked.directory) (s.declarationFileFor m unstable)
      content).run asked.files with ⟨fault | outcome, fs⟩
    · rw [synchronize_fault hanswer hrun]
      exact .refl
    · obtain ⟨after, hpass, rfl, hage⟩ := synchronize_present hanswer hrun
      rw [hpass]
      exact hage
  · rw [hpass]
    exact .refl

end DenoBridge.Session
