import DenoBridge.Proofs.Files.Locating
import DenoBridge.Proofs.Results
import DenoBridge.Toolchain.Declarations

/-! # Work on files

    How work on a file system runs: a failure that is caught, and single
    calls.  Nothing can be called on a path that holds a NUL.
-/

namespace DenoBridge.FileSystem

variable {α : Type} {path : Path} {here : Place}

/-! ## Section 1: Failures that are caught -/

theorem run_tryCatch (work : FileWork α) (handle : FileFault → FileWork α) (fs : FileSystem) :
    (tryCatch work handle).run fs = match work.run fs with
      | (.ok a, fs) => (.ok a, fs)
      | (.error fault, fs) => (handle fault).run fs := by
  rcases hrun : ExceptT.run work fs with ⟨r, fs'⟩
  have hwork : work fs = (r, fs') := hrun
  cases r with
  | ok a =>
    simp only [tryCatch, tryCatchThe, MonadExceptOf.tryCatch, ExceptT.tryCatch, ExceptT.run,
      ExceptT.mk, bind, StateT.bind, hwork]
    rfl
  | error fault =>
    simp only [tryCatch, tryCatchThe, MonadExceptOf.tryCatch, ExceptT.tryCatch, ExceptT.run,
      ExceptT.mk, bind, StateT.bind, hwork]

/-! ## Section 2: Calls -/

theorem isUnusable_iff : isUnusable path = true ↔ ∃ name ∈ path.names, '\x00' ∈ name.toList := by
  rw [← Path.mem_text (by decide) (by decide), isUnusable, List.contains_iff_mem]

/-- No call can be made below a path on which none can be made. -/
theorem isUnusable_append {anchor : Anchor} {names : List String}
    (h : isUnusable ⟨anchor, names⟩ = true) (more : List String) :
    isUnusable ⟨anchor, names ++ more⟩ = true := by
  obtain ⟨name, hname, hnul⟩ := isUnusable_iff.1 h
  exact isUnusable_iff.2 ⟨name, List.mem_append_left more hname, hnul⟩

theorem run_look (h : isUnusable path = false) (call : FileSystem → Except Errno α)
    (fs : FileSystem) : (look path call).run fs = match call fs with
      | .ok a => (.ok a, fs)
      | .error e => (.error (.os ⟨e, path.text⟩), fs) := by
  unfold look
  simp only [h]
  show (match call fs with
    | .ok a => (pure a : FileWork α)
    | .error e => throw (FileFault.os ⟨e, path.text⟩)).run fs = _
  cases call fs <;> rfl

theorem run_change (h : isUnusable path = false) (call : FileSystem → Except Errno FileSystem)
    (fs : FileSystem) : (change path call).run fs = match call fs with
      | .ok fs => (.ok (), fs)
      | .error e => (.error (.os ⟨e, path.text⟩), fs) := by
  unfold change
  rw [run_bind, run_look h]
  cases call fs <;> rfl

theorem run_change_unusable (h : isUnusable path = true)
    (call : FileSystem → Except Errno FileSystem) (fs : FileSystem) :
    (change path call).run fs = (.error .embeddedNul, fs) := by
  unfold change look
  simp only [h]
  rfl

/-- A call that succeeds, as work. -/
theorem run_change_ok (h : isUnusable path = false) {call : FileSystem → Except Errno FileSystem}
    {fs fs' : FileSystem} (hcall : call fs = .ok fs') :
    (change path call).run fs = (.ok (), fs') := by
  rw [run_change h, hcall]

/-- Looking changes nothing. -/
theorem files_look (path : Path) (call : FileSystem → Except Errno α) (fs : FileSystem) :
    ((look path call).run fs).2 = fs := by
  by_cases hnul : isUnusable path = true
  · unfold look
    simp only [hnul]
    rfl
  · rw [run_look (Bool.not_eq_true _ ▸ hnul)]
    cases call fs <;> rfl

theorem files_hasEntry (here : Place) (path : Path) (fs : FileSystem) :
    (((access here).hasEntry path).run fs).2 = fs := by
  show ((if isUnusable path then (pure false : FileWork Bool)
    else look path fun fs => fs.hasEntry here path.text).run fs).2 = fs
  split
  · rfl
  · exact files_look path _ fs

theorem of_run_hasEntry {fs fs' : FileSystem} {found : Bool}
    (h : ((access here).hasEntry path).run fs = (.ok found, fs')) : fs' = fs :=
  (congrArg Prod.snd h).symm.trans (files_hasEntry here path fs)

/-- A change is made, or nothing is done. -/
theorem files_change (path : Path) (call : FileSystem → Except Errno FileSystem)
    (fs : FileSystem) : ((change path call).run fs).2 = fs ∨
      ((change path call).run fs).2 = (call fs).toOption.getD fs := by
  by_cases hnul : isUnusable path = true
  · rw [run_change_unusable hnul]
    exact .inl rfl
  · rw [run_change (Bool.not_eq_true _ ▸ hnul)]
    cases call fs with
    | ok fs' => exact .inr rfl
    | error e => exact .inl rfl

/-- What was seen was there. -/
theorem of_run_look {call : FileSystem → Except Errno α} {fs fs' : FileSystem} {a : α}
    (h : (look path call).run fs = (.ok a, fs')) : call fs = .ok a ∧ fs' = fs := by
  have hfiles := files_look path call fs
  rw [h] at hfiles
  refine ⟨?_, hfiles⟩
  by_cases hnul : isUnusable path = true
  · unfold look at h
    simp only [hnul] at h
    cases h
  · rw [run_look (Bool.not_eq_true _ ▸ hnul)] at h
    cases hcall : call fs with
    | error e =>
      rw [hcall] at h
      cases h
    | ok found =>
      rw [hcall] at h
      exact congrArg Except.ok (Except.ok.inj (Prod.mk.inj h).1)

theorem of_run_read {fs fs' : FileSystem} {content : Bytes}
    (h : ((access here).read path).run fs = (.ok content, fs')) :
    fs.read here path.text = .ok content ∧ fs' = fs :=
  of_run_look h

theorem of_run_mode {fs fs' : FileSystem} {mode : Nat}
    (h : ((access here).mode path).run fs = (.ok mode, fs')) :
    fs.mode here path.text = .ok mode ∧ fs' = fs :=
  of_run_look h

/-- A change that went well was made. -/
theorem of_run_change {call : FileSystem → Except Errno FileSystem} {fs fs' : FileSystem}
    (h : (change path call).run fs = (.ok (), fs')) : call fs = .ok fs' := by
  by_cases hnul : isUnusable path = true
  · rw [run_change_unusable hnul] at h
    cases h
  · rw [run_change (Bool.not_eq_true _ ▸ hnul)] at h
    cases hcall : call fs with
    | error e =>
      rw [hcall] at h
      cases h
    | ok found =>
      rw [hcall] at h
      exact congrArg Except.ok (Prod.mk.inj h).2

/-! ## Section 3: Making directories -/

/-- A failure does not matter where there is a directory already. -/
theorem run_unlessDirectory (fault : FileFault) (fs : FileSystem) :
    (do
      if (← get).isDirectory here path.text then return () else throw fault : FileWork Unit).run fs =
        if fs.isDirectory here path.text then (.ok (), fs) else (.error fault, fs) := by
  show (if fs.isDirectory here path.text then (pure () : FileWork Unit) else throw fault).run fs = _
  split <;> rfl

theorem run_ensureDirectory (h : isUnusable path = false) (fs : FileSystem) :
    (ensureDirectory here path).run fs = match fs.makeDirectory here path.text with
      | .ok fs => (.ok (), fs)
      | .error e =>
        if fs.isDirectory here path.text then (.ok (), fs)
        else (.error (.os ⟨e, path.text⟩), fs) := by
  unfold ensureDirectory
  rw [run_tryCatch, run_change h]
  cases fs.makeDirectory here path.text with
  | ok fs' => rfl
  | error e => exact run_unlessDirectory _ fs

/-- Making a directory with those above it, as one call and what follows its
    failure. -/
theorem run_ensureDirectories (h : isUnusable path = false) (fs : FileSystem) :
    (ensureDirectories here path).run fs = match fs.makeDirectory here path.text with
      | .ok fs => (.ok (), fs)
      | .error .noEntry =>
        if path.names = [] then (.error (.os ⟨.noEntry, path.text⟩), fs)
        else
          match (ensureDirectories here path.parent).run fs with
          | (.ok (), fs) => (ensureDirectory here path).run fs
          | (.error fault, fs) => (.error fault, fs)
      | .error e =>
        if fs.isDirectory here path.text then (.ok (), fs)
        else (.error (.os ⟨e, path.text⟩), fs) := by
  rw [ensureDirectories, run_tryCatch, run_change h]
  cases fs.makeDirectory here path.text with
  | ok fs' => rfl
  | error e =>
    cases e with
    | noEntry =>
      dsimp only
      split
      · rfl
      · rw [run_bind]
        obtain ⟨r, fs'⟩ := (ensureDirectories here path.parent).run fs
        cases r <;> rfl
    | _ => exact run_unlessDirectory _ fs

theorem usable_of_run_ensureDirectories {fs fs' : FileSystem}
    (h : (ensureDirectories here path).run fs = (.ok (), fs')) : isUnusable path = false := by
  by_contra hnul
  rw [Bool.not_eq_false] at hnul
  rw [ensureDirectories, run_tryCatch, run_change_unusable hnul] at h
  cases h

end DenoBridge.FileSystem
