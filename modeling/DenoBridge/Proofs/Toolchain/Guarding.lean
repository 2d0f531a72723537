import DenoBridge.Proofs.Files.Putting
import DenoBridge.Proofs.Toolchain.Recording
import DenoBridge.Proofs.Toolchain.Recovery

/-! # Files that are kept

    Wherever a pass starts from, an outcome means that the file at the end of
    its path holds the content and nobody may write it, unless a device stands
    there (`guarded_of_run`).  Such a file is kept (`IsKept`): a pass with the
    same content finds nothing to do (`IsKept.run`), and no call of a pass for
    the other mode touches it, however the call ends (`sturdy_isKept`).
-/

namespace DenoBridge.Declarations

open FileSystem
open Cache (declarationFile)

variable {fs fs' : FileSystem} {here place q : Place} {path root : Path} {unstable : Bool}
variable {mode : Nat} {content : Bytes} {outcome : Outcome} {node : Node}

/-! ## Section 1: What an outcome means -/

/-- If a regular file is found, it holds the content and nobody may write it. -/
def IsGuarded (here : Place) (path : Path) (content : Bytes) (fs : FileSystem) : Prop :=
  ∀ place mode bytes, fs.find here path.text = .ok (place, .file mode bytes) →
    bytes = content ∧ mode &&& writeBits = 0

theorem isGuarded_of_find (hfind : fs.find here path.text = .ok (place, node))
    (hnode : ∀ mode bytes, node = .file mode bytes → bytes = content ∧ mode &&& writeBits = 0) :
    IsGuarded here path content fs := by
  intro place' mode bytes hfound
  obtain ⟨-, hfile⟩ := Prod.mk.inj (Except.ok.inj (hfind.symm.trans hfound))
  exact hnode mode bytes hfile

/-- The two calls with which every change of a file ends. -/
theorem guarded_of_protect (h : fs.IsRooted here)
    (hrun : ((access here).write path content >>= fun _ =>
      (access here).chmod path readOnlyMode).run fs = (.ok (), fs')) :
    fs'.IsRooted here ∧ IsGuarded here path content fs' := by
  obtain ⟨_, between, hwrite, hchmod⟩ := exists_of_run_bind hrun
  obtain ⟨place, node, hput, hnode⟩ := h.putAt_of_write (of_run_change hwrite)
  have hbetween := hput.isRooted h
  obtain ⟨place', old, hfind, hput'⟩ := hbetween.putAt_of_chmod (of_run_change hchmod)
  -- The permissions are given to what was written.
  obtain ⟨rfl, rfl⟩ := Prod.mk.inj (Except.ok.inj (hput.find_eq.symm.trans hfind))
  refine ⟨hput'.isRooted hbetween, isGuarded_of_find hput'.find_eq ?_⟩
  intro mode bytes hfile
  rcases hnode with ⟨mode', rfl⟩ | ⟨mode', rfl⟩
  · cases hfile
  · cases hfile
    exact ⟨rfl, by decide⟩

theorem guarded_of_writeProtected (h : fs.IsRooted here)
    (hrun : (writeProtected (access here) path content).run fs = (.ok (), fs')) :
    fs'.IsRooted here ∧ IsGuarded here path content fs' := by
  unfold writeProtected at hrun
  obtain ⟨found, seen, hentry, hrun⟩ := exists_of_run_bind hrun
  obtain rfl := of_run_hasEntry hentry
  cases found with
  | false =>
    rw [if_neg (by simp)] at hrun
    exact guarded_of_protect h hrun
  | true =>
    rw [if_pos rfl] at hrun
    obtain ⟨_, opened, hopen, hrun⟩ := exists_of_run_bind hrun
    obtain ⟨_, _, -, hput⟩ := h.putAt_of_chmod (of_run_change hopen)
    exact guarded_of_protect (hput.isRooted h) hrun

/-- A pass that finds the content only sees to the permissions. -/
theorem guarded_of_same (h : fs.IsRooted here) (hread : fs.read here path.text = .ok content)
    (hmode : fs.mode here path.text = .ok mode)
    (hrun : (do
      if mode &&& writeBits ≠ 0 then (access here).chmod path readOnlyMode
      return .unchanged : FileWork Outcome).run fs = (.ok outcome, fs')) :
    fs'.IsRooted here ∧ IsGuarded here path content fs' := by
  by_cases hopen : mode &&& writeBits ≠ 0
  · rw [if_pos hopen] at hrun
    obtain ⟨_, closed, hchmod, hdone⟩ := exists_of_run_bind hrun
    obtain ⟨-, rfl⟩ := Prod.mk.inj hdone
    obtain ⟨place, old, hfind, hput⟩ := h.putAt_of_chmod (of_run_change hchmod)
    refine ⟨hput.isRooted h, isGuarded_of_find hput.find_eq ?_⟩
    intro mode' bytes hfile
    cases old with
    | file mode'' old =>
      cases hfile
      rw [read_of_find hfind] at hread
      exact ⟨Except.ok.inj hread, by decide⟩
    | _ => cases hfile
  · -- Nothing was done, and what was seen is still so.
    rw [if_neg hopen] at hrun
    obtain ⟨-, rfl⟩ := Prod.mk.inj hrun
    refine ⟨h, fun place mode' bytes hfind => ?_⟩
    rw [read_of_find hfind] at hread
    rw [mode_of_find hfind] at hmode
    obtain rfl := Except.ok.inj hmode
    exact ⟨Except.ok.inj hread, not_not.1 hopen⟩

/-- A pass with an outcome leaves the file as it should be, if it is one. -/
theorem guarded_of_run (hroot : root.IsNormal) (h : fs.IsRooted here)
    (hrun : (refresh (access here) (declarationFile root unstable) content).run fs =
      (.ok outcome, fs')) :
    fs'.IsRooted here ∧ IsGuarded here (declarationFile root unstable) content fs' := by
  unfold refresh at hrun
  obtain ⟨found, seen, hentry, hrun⟩ := exists_of_run_bind hrun
  obtain rfl := of_run_hasEntry hentry
  cases found with
  | false =>
    rw [if_pos (by simp)] at hrun
    obtain ⟨_, made, hmake, hrun⟩ := exists_of_run_bind hrun
    rw [Cache.parent_declarationFile] at hmake
    obtain ⟨-, above, -, hgrown⟩ := grown_of_ensureDirectories h.tree h.current hroot hmake
    have hmade : made.IsRooted here := ⟨hgrown.tree, hgrown.keeps.directory _ h.current⟩
    obtain ⟨_, written, hwrite, hdone⟩ := exists_of_run_bind hrun
    obtain ⟨-, rfl⟩ := Prod.mk.inj hdone
    exact guarded_of_writeProtected hmade hwrite
  | true =>
    rw [if_neg (by simp)] at hrun
    obtain ⟨old, _, hread, hcompared⟩ := exists_of_run_bind hrun
    obtain ⟨hold, rfl⟩ := of_run_read hread
    by_cases hne : old ≠ content
    · rw [if_pos hne] at hcompared
      obtain ⟨_, written, hwrite, hdone⟩ := exists_of_run_bind hcompared
      obtain ⟨-, rfl⟩ := Prod.mk.inj hdone
      exact guarded_of_writeProtected h hwrite
    · rw [if_neg hne] at hcompared
      obtain rfl := not_not.1 hne
      obtain ⟨mode, _, hlooked, hlast⟩ := exists_of_run_bind hcompared
      obtain ⟨hmode, rfl⟩ := of_run_mode hlooked
      exact guarded_of_same h hold hmode hlast

/-! ## Section 2: Kept files -/

/-- The files of the two modes are not the same file. -/
def AreApart (here : Place) (root : Path) (fs : FileSystem) : Prop :=
  ∀ unstable place node node',
    fs.find here (declarationFile root unstable).text = .ok (place, node) →
      fs.find here (declarationFile root !unstable).text ≠ .ok (place, node')

/-- The file of a mode stands at a place, with a content and under a mode in
    which nobody may write it, and it is not the file of the other mode. -/
structure IsKept (here : Place) (root : Path) (unstable : Bool) (place : Place) (mode : Nat)
    (content : Bytes) (fs : FileSystem) : Prop where
  rooted : fs.IsRooted here
  found : fs.find here (declarationFile root unstable).text = .ok (place, .file mode content)
  guarded : mode &&& writeBits = 0
  apart : AreApart here root fs

/-- What was done to the files left them a tree, and left the file of a mode
    as it was if it was kept. -/
structure Spares (here : Place) (root : Path) (unstable : Bool) (content : Bytes)
    (fs fs' : FileSystem) : Prop where
  rooted : fs.IsRooted here → fs'.IsRooted here
  kept : ∀ place mode, IsKept here root unstable place mode content fs →
    IsKept here root unstable place mode content fs'

/-- A pass with an outcome makes its file one that is kept. -/
theorem kept_of_run (hroot : root.IsNormal) (h : fs.IsRooted here)
    (hrun : (refresh (access here) (declarationFile root unstable) content).run fs =
      (.ok outcome, fs'))
    (hregular : fs'.IsRegular here (declarationFile root unstable))
    (hapart : AreApart here root fs') :
    ∃ place mode, IsKept here root unstable place mode content fs' := by
  obtain ⟨hrooted, hguarded⟩ := guarded_of_run hroot h hrun
  obtain ⟨place, mode, bytes, hfind⟩ := hregular
  obtain ⟨rfl, hmode⟩ := hguarded place mode bytes hfind
  exact ⟨place, mode, hrooted, hfind, hmode, hapart⟩

/-- A pass with the same content only looks. -/
theorem IsKept.run (h : IsKept here root unstable place mode content fs)
    (husable : isUnusable root = false) :
    (refresh (access here) (declarationFile root unstable) content).run fs = (.ok .unchanged, fs) ∧
      changes here (declarationFile root unstable) content fs = [] := by
  have husable' := (Cache.isUnusable_declarationFile root unstable).trans husable
  refine ⟨?_, changes_of_guarded husable' h.found h.guarded⟩
  rw [run_refresh_same husable' h.found, if_neg (not_not.2 h.guarded)]

/-- Another node at the end of the other path. -/
theorem IsKept.putAt (h : IsKept here root unstable place mode content fs)
    (hput : PutAt fs fs' here (declarationFile root !unstable).text q node) :
    IsKept here root unstable place mode content fs' := by
  have hne : place ≠ q := by
    rintro rfl
    obtain ⟨-, hnode⟩ := find_eq_ok.1 h.found
    exact h.apart unstable place _ _ h.found (find_eq_ok.2 ⟨hput.locate, hnode⟩)
  have hfound := hput.find_of_ne h.found hne
  refine ⟨hput.isRooted h.rooted, hfound, h.guarded, ?_⟩
  -- The other path still leads to its place, where the new node stands.
  refine apart_of_one unstable fun there old old' hold hother => ?_
  obtain ⟨rfl, -⟩ := Prod.mk.inj (Except.ok.inj (hfound.symm.trans hold))
  obtain ⟨rfl, -⟩ := Prod.mk.inj (Except.ok.inj (hput.find_eq.symm.trans hother))
  exact hne rfl

/-- No call of a pass for the other mode touches a file that is kept. -/
theorem sturdy_isKept (hroot : root.IsNormal) (husable : isUnusable root = false) :
    Sturdy (IsKept here root unstable place mode content) here
      (declarationFile root !unstable) := by
  constructor
  case makeDirectories =>
    intro fs count h
    -- The file stands in the directory of both, so that one is there.
    obtain ⟨hlong, above, hreach, hdir⟩ := reach_of_find h.rooted.tree h.rooted.current hroot h.found
    rw [Cache.parent_declarationFile,
      h.rooted.ensureDirectories_first ⟨hroot.proper, husable, hlong⟩ hreach hdir]
    exact h
  case write =>
    intro fs bytes h
    cases hwrite : fs.write here (declarationFile root !unstable).text bytes with
    | error e => exact h
    | ok fs' =>
      obtain ⟨q, node, hput, -⟩ := h.rooted.putAt_of_write hwrite
      exact h.putAt hput
  case chmod =>
    intro fs bits h
    cases hchmod : fs.chmod here (declarationFile root !unstable).text bits with
    | error e => exact h
    | ok fs' =>
      obtain ⟨q, old, -, hput⟩ := h.rooted.putAt_of_chmod hchmod
      exact h.putAt hput

end DenoBridge.Declarations
