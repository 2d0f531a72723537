import DenoBridge.Proofs.Toolchain.Guarding
import DenoBridge.Proofs.Toolchain.Probing

/-! # Passes that are repeated

    All that a pass does to the files is in the calls that it makes to change
    them (`files_synchronize`).  After one pass with an outcome, the file of
    the mode rests (`Rests`): no pass moves it, for whichever mode, as long as
    the toolchain declares the same for this one and nobody else touches the
    file (`Rests.of_goesOn`).  So every further pass for the mode finds it
    unchanged and makes no such call (`repeated_pass_unchanged`).  A device in
    place of the file is written to each time (`device_updated_again`), and a
    link to the null device keeps the toolchain from being asked again
    (`null_link_locks_out`).
-/

namespace DenoBridge.Session

open FileSystem Declarations Toolchain
open Machine (Aged)

variable {s : Session} {m m₀ m' after asked asked' : Machine} {unstable : Bool} {content : Bytes}
variable {place : Place} {mode : Nat} {outcome : Outcome} {fs : FileSystem}

/-! ## Section 1: The changes of a pass -/

/-- The calls that a pass for a mode makes to change files. -/
def changes (s : Session) (unstable : Bool) (m : Machine) : List Change :=
  match typeDeclarations s.settings unstable m with
  | (.ok (some content), asked) =>
    Declarations.changes asked.directory (s.declarationFileFor m unstable) content asked.files
  | _ => []

theorem files_of_answer
    (hanswer : typeDeclarations s.settings unstable m = (.ok (some content), asked)) :
    (s.synchronize (some unstable) m).2.files =
      (tried none asked.directory (s.declarationFileFor m unstable) content asked.files).2.files :=
  (synchronize_eq_tried hanswer (s.declarationFileFor m unstable)).2

theorem changes_of_answer
    (hanswer : typeDeclarations s.settings unstable m = (.ok (some content), asked)) :
    s.changes unstable m = Declarations.changes m.directory (s.declarationFileFor m unstable)
      content asked.files := by
  have hage := aged_typeDeclarations s.settings unstable m
  rw [hanswer] at hage
  unfold changes
  rw [hanswer, ← hage.directory_eq]

theorem changes_of_silence
    (hsilent : ∀ content, (typeDeclarations s.settings unstable m).1 ≠ .ok (some content)) :
    s.changes unstable m = [] := by
  unfold changes
  split
  · rename_i content asked hanswer
    rw [hanswer] at hsilent
    exact absurd rfl (hsilent content)
  · rfl

/-- What a pass leaves of the files is what its changes make of those that the
    toolchain left. -/
theorem files_synchronize (s : Session) (unstable : Bool) (m : Machine) :
    (s.synchronize (some unstable) m).2.files =
      replay m.directory (s.changes unstable m)
        (typeDeclarations s.settings unstable m).2.files := by
  rcases s.synchronize_cases unstable m with ⟨content, asked, hanswer⟩ | ⟨hsilent, failure, hpass⟩
  · have hage := aged_typeDeclarations s.settings unstable m
    rw [hanswer] at hage
    have hdirectory : asked.directory = m.directory := hage.directory_eq
    have hfiles := files_of_answer hanswer
    rw [changes_of_answer hanswer, hanswer]
    generalize s.declarationFileFor m unstable = path at hfiles ⊢
    obtain ⟨-, hrun⟩ := tried_none asked.directory path content asked.files
    obtain ⟨-, hreplay⟩ := replay_changes asked.directory path content asked.files
    rw [← hdirectory]
    exact hfiles.trans (hrun.trans hreplay.symm)
  · rw [hpass, changes_of_silence hsilent]
    rfl

/-! ## Section 2: Files that rest -/

/-- The file of a mode is kept, and no child touches it. -/
structure Rests (s : Session) (unstable : Bool) (place : Place) (mode : Nat) (content : Bytes)
    (m : Machine) : Prop where
  usable : isUnusable (s.cacheRoot m) = false
  files : IsKept m.directory (s.cacheRoot m) unstable place mode content m.files
  children : ∀ launch fs,
    Spares m.directory (s.cacheRoot m) unstable content fs (m.child launch fs).2

theorem Rests.with_files (h : s.Rests unstable place mode content m)
    (hfiles : IsKept m.directory (s.cacheRoot m) unstable place mode content fs) :
    s.Rests unstable place mode content { m with files := fs } :=
  ⟨h.usable, hfiles, h.children⟩

theorem Rests.aged (h : s.Rests unstable place mode content m) (hage : Aged m m') :
    s.Rests unstable place mode content m' := by
  have hroot := s.cacheRoot_eq hage.environment_eq
  constructor
  · rw [hroot]
    exact h.usable
  · rw [hage.directory_eq, hroot]
    exact hage.files (fun launch fs hfs => (h.children launch fs).kept place mode hfs) h.files
  · rw [hage.directory_eq, hroot, hage.child_eq]
    exact h.children

/-- Once the toolchain has answered, only the files count. -/
theorem Rests.of_files (h : s.Rests unstable place mode content m) (either : Bool)
    (hfiles : IsKept m.directory (s.cacheRoot m) unstable place mode content
      (s.synchronize (some either) m).2.files) :
    s.Rests unstable place mode content (s.synchronize (some either) m).2 := by
  have hage := aged_typeDeclarations s.settings either m
  have hasked := h.aged hage
  have hafter := s.aged_synchronize either m
  rw [← hage.directory_eq, ← s.cacheRoot_eq hage.environment_eq] at hfiles
  exact (hasked.with_files hfiles).aged hafter

/-- A pass for the mode that gets the same declarations has nothing to do. -/
theorem Rests.synchronize_eq (h : s.Rests unstable place mode content m)
    (hanswer : typeDeclarations s.settings unstable m = (.ok (some content), asked)) :
    s.synchronize (some unstable) m = (.ok .unchanged, asked) ∧ s.changes unstable m = [] := by
  have hage := aged_typeDeclarations s.settings unstable m
  rw [hanswer] at hage
  have hasked := h.aged hage
  obtain ⟨hrun, hchanges⟩ := hasked.files.run hasked.usable
  rw [s.cacheRoot_eq hage.environment_eq] at hrun hchanges
  constructor
  · unfold synchronize Declarations.synchronize
    simp only [Option.getD_some]
    rw [hanswer]
    dsimp only
    rw [show (refresh (access asked.directory) (s.declarationFileFor m unstable) content).run
      asked.files = _ from hrun]
    rfl
  · rw [hage.directory_eq] at hchanges
    rw [changes_of_answer hanswer]
    exact hchanges

/-- A pass for the mode, with the same declarations or none. -/
theorem Rests.again (h : s.Rests unstable place mode content m)
    (hsame : ∀ other asked, typeDeclarations s.settings unstable m = (.ok (some other), asked) →
      other = content) :
    s.Rests unstable place mode content (s.synchronize (some unstable) m).2 := by
  have hasked := h.aged (aged_typeDeclarations s.settings unstable m)
  rcases s.synchronize_cases unstable m with ⟨other, asked, hanswer⟩ | ⟨-, failure, hpass⟩
  · obtain rfl := hsame other asked hanswer
    rw [hanswer] at hasked
    rw [(h.synchronize_eq hanswer).1]
    exact hasked
  · rw [hpass]
    exact hasked

/-- What a pass for the other mode leaves, whatever is declared for it and
    however it ends. -/
theorem Rests.kept_other (h : s.Rests unstable place mode content m) :
    IsKept m.directory (s.cacheRoot m) unstable place mode content
      (s.synchronize (some !unstable) m).2.files := by
  have hage := aged_typeDeclarations s.settings (!unstable) m
  have hroot := s.cacheRoot_eq hage.environment_eq
  have hasked := (h.aged hage).files
  rw [hage.directory_eq, hroot] at hasked
  rcases s.synchronize_cases (!unstable) m with ⟨declared, asked, hanswer⟩ | ⟨-, failure, hpass⟩
  · rw [hanswer] at hage hasked
    have hdirectory : asked.directory = m.directory := hage.directory_eq
    have hfiles := files_of_answer hanswer
    generalize s.synchronize (some !unstable) m = pass at hfiles ⊢
    unfold declarationFileFor at hfiles
    rw [hfiles, hdirectory]
    exact (sturdy_isKept (s.isNormal_cacheRoot m) h.usable).tried none declared hasked
  · rw [hpass]
    exact hasked

/-! ## Section 3: Runs -/

/-- The machines to which it may come after a pass for a mode, as long as the
    toolchain declares the same for the mode and the file is left alone. -/
inductive GoesOn (s : Session) (unstable : Bool) (content : Bytes) (m₀ : Machine) :
    Machine → Prop where
  | start : GoesOn s unstable content m₀ m₀
  /-- A pass for the mode. -/
  | again {m : Machine} : (∀ other asked,
      typeDeclarations s.settings unstable m = (.ok (some other), asked) → other = content) →
      GoesOn s unstable content m₀ m →
      GoesOn s unstable content m₀ (s.synchronize (some unstable) m).2
  /-- A pass for the other mode. -/
  | other {m : Machine} : GoesOn s unstable content m₀ m →
      GoesOn s unstable content m₀ (s.synchronize (some !unstable) m).2
  /-- A pass for the other mode in which something goes wrong. -/
  | struck {m : Machine} (mishap : Mishap) (declared : Bytes) : GoesOn s unstable content m₀ m →
      GoesOn s unstable content m₀ { m with
        files := (tried (some mishap) m.directory (s.declarationFileFor m !unstable) declared
          m.files).2.files }
  /-- Anything else happens to the files. -/
  | outside {m : Machine} (fs : FileSystem) :
      Spares m.directory (s.cacheRoot m) unstable content m.files fs →
      GoesOn s unstable content m₀ m → GoesOn s unstable content m₀ { m with files := fs }
  /-- The toolchain changes. -/
  | answers {m : Machine} (child : Launch → FileSystem → ChildResult × FileSystem) :
      (∀ launch fs, Spares m.directory (s.cacheRoot m) unstable content fs (child launch fs).2) →
      GoesOn s unstable content m₀ m → GoesOn s unstable content m₀ { m with child := child }

/-- The file rests for as long as it goes on like this. -/
theorem Rests.of_goesOn (h : s.Rests unstable place mode content m₀)
    (hrun : s.GoesOn unstable content m₀ m) : s.Rests unstable place mode content m := by
  induction hrun with
  | start => exact h
  | again hsame _ ih => exact ih.again hsame
  | other _ ih => exact ih.of_files _ ih.kept_other
  | @struck m mishap declared _ ih =>
    have hroot := s.isNormal_cacheRoot m
    exact ih.with_files ((sturdy_isKept hroot ih.usable).tried (some mishap) declared ih.files)
  | outside fs hspares _ ih => exact ih.with_files (hspares.kept place mode ih.files)
  | answers child hchild _ ih => exact ⟨ih.usable, ih.files, hchild⟩

/-- After a pass with an outcome the file rests. -/
theorem rests_of_synchronize (hrooted : m.files.IsRooted m.directory)
    (hchildren : ∀ launch fs,
      Spares m.directory (s.cacheRoot m) unstable content fs (m.child launch fs).2)
    (hanswer : typeDeclarations s.settings unstable m = (.ok (some content), asked))
    (hfirst : s.synchronize (some unstable) m = (.ok outcome, after))
    (hregular : after.files.IsRegular after.directory (s.declarationFileFor after unstable))
    (hapart : AreApart after.directory (s.cacheRoot after) after.files) :
    ∃ place mode, s.Rests unstable place mode content after := by
  have hasked := aged_typeDeclarations s.settings unstable m
  rw [hanswer] at hasked
  have hsettled : asked.files.IsRooted asked.directory := by
    rw [hasked.directory_eq]
    exact hasked.files (fun launch fs hfs => (hchildren launch fs).rooted hfs) hrooted
  rcases hrun : (refresh (access asked.directory) (s.declarationFileFor m unstable)
    content).run asked.files with ⟨fault | found, fs⟩
  · -- A pass with a fault has no outcome.
    rw [synchronize_fault hanswer hrun] at hfirst
    cases hfirst
  · obtain ⟨after', hpass, rfl, hage⟩ := synchronize_present hanswer hrun
    obtain ⟨-, rfl⟩ := Prod.mk.inj (hfirst.symm.trans hpass)
    have hdirectory : after.directory = m.directory :=
      hage.directory_eq.trans hasked.directory_eq
    have hroot : s.cacheRoot after = s.cacheRoot m :=
      s.cacheRoot_eq (hage.environment_eq.trans hasked.environment_eq)
    have hchild : after.child = m.child := hage.child_eq.trans hasked.child_eq
    rw [hasked.directory_eq] at hrun hsettled
    unfold declarationFileFor at hrun hregular
    rw [hdirectory, hroot] at hregular hapart
    obtain ⟨place, mode, hkept⟩ :=
      kept_of_run (s.isNormal_cacheRoot m) hsettled hrun hregular hapart
    refine ⟨place, mode, ?_, ?_, ?_⟩
    · rw [hroot]
      exact usable_of_run hrun
    · rw [hdirectory, hroot]
      exact hkept
    · rw [hdirectory, hroot, hchild]
      exact hchildren

/-- After a pass that has an outcome and leaves a regular file, every further
    pass for the mode that gets the same declarations finds the file as it was
    left, says that it is unchanged, and makes no call that changes files.
    Passes for the other mode may come in between, however they end, and so
    may anything else that leaves the file alone. -/
theorem repeated_pass_unchanged (hrooted : m.files.IsRooted m.directory)
    (hchildren : ∀ launch fs,
      Spares m.directory (s.cacheRoot m) unstable content fs (m.child launch fs).2)
    (hanswer : typeDeclarations s.settings unstable m = (.ok (some content), asked))
    (hfirst : s.synchronize (some unstable) m = (.ok outcome, after))
    (hregular : after.files.IsRegular after.directory (s.declarationFileFor after unstable))
    (hapart : AreApart after.directory (s.cacheRoot after) after.files)
    (hrun : s.GoesOn unstable content after m')
    (hagain : typeDeclarations s.settings unstable m' = (.ok (some content), asked')) :
    s.synchronize (some unstable) m' = (.ok .unchanged, asked') ∧
      s.changes unstable m' = [] ∧
      m'.files.find m'.directory (s.declarationFileFor m' unstable).text =
        after.files.find after.directory (s.declarationFileFor after unstable).text := by
  -- What the first pass leaves is kept from then on, and a kept file gives
  -- later passes nothing to do.
  obtain ⟨place, mode, hrests⟩ :=
    rests_of_synchronize hrooted hchildren hanswer hfirst hregular hapart
  have hthere := hrests.of_goesOn hrun
  obtain ⟨hpass, hchanges⟩ := hthere.synchronize_eq hagain
  exact ⟨hpass, hchanges, hthere.files.found.trans hrests.files.found.symm⟩

/-! ## Section 4: A pass for the other mode in between -/

/-- A pass, one for the other mode, and a pass that finds the file unchanged. -/
theorem unchanged_after_other_pass : ∃ after between,
    besideRoot.synchronize (some false) serving = (.ok .created, after) ∧
      besideRoot.synchronize (some true) after = (.ok .created, between) ∧
      besideRoot.synchronize (some false) between = (.ok .unchanged, between) ∧
      besideRoot.changes false between = [] := by
  have hstart := isAtRoot_serving
  obtain ⟨after, hfirst, hfiles, hafter⟩ := hstart.pass_missing false rfl
  have hother : after.files.get? [Cache.declarationName true] = none := by
    rw [hfiles]
    rfl
  obtain ⟨between, hbetween, -, hthere⟩ := hafter.pass_missing true hother
  have hregular : after.files.IsRegular after.directory
      (besideRoot.declarationFileFor after false) := by
    have hnode : after.files.get? [Cache.declarationName false] =
        some (.file readOnlyMode printed.output) := by
      rw [hfiles]
      rfl
    rw [declarationFileFor_besideRoot]
    exact ⟨_, _, _, find_in_root after.directory hnode (by simp)⟩
  have hapart : AreApart after.directory (besideRoot.cacheRoot after) after.files := by
    have hloc := locate_in_root after.files after.directory true (by simp [hother])
    rw [cacheRoot_besideRoot]
    refine apart_of_one false fun place node node' _ habsurd => ?_
    cases (find_of_none hloc hother).symm.trans habsurd
  have hrun : besideRoot.GoesOn false printed.output after between := by
    have hstep : besideRoot.GoesOn false printed.output after
        (besideRoot.synchronize (some true) after).2 := .other .start
    rw [hbetween] at hstep
    exact hstep
  obtain ⟨hpass, hchanges, -⟩ := repeated_pass_unchanged hstart.isRooted
    (fun launch fs => ⟨fun h => h, fun _ _ h => h⟩) (hstart.answer false) hfirst hregular hapart
    hrun (hthere.answer false)
  exact ⟨after, between, hfirst, hbetween, hpass, hchanges⟩

/-! ## Section 5: Devices -/

theorem read_of_device {here : Place} {text : String}
    (hfind : fs.find here text = .ok (place, .sink mode)) (hread : mode &&& ownerReadBit ≠ 0) :
    fs.read here text = .ok [] := by
  unfold FileSystem.read
  rw [hfind]
  dsimp only
  rw [if_neg hread]

theorem chmod_of_device {here : Place} {text : String}
    (hfind : fs.find here text = .ok (place, .sink mode)) (bits : Nat) :
    fs.chmod here text bits = .ok (fs.put place (.sink bits)) := by
  unfold chmod
  rw [hfind]
  rfl

/-- What is written to a device is gone, and the device stays as it was opened. -/
theorem write_of_device {here : Place} {text : String}
    (hfind : fs.find here text = .ok (place, .sink mode)) (hwrite : mode &&& ownerWriteBit ≠ 0)
    (content : Bytes) : fs.write here text content = .ok (fs.put place (.sink mode)) := by
  obtain ⟨hloc, hnode⟩ := find_eq_ok.1 hfind
  have hwritten : written (some (.sink mode)) content = .ok (.sink mode) := if_neg hwrite
  unfold write
  rw [hloc]
  simp only [bind, Except.bind, hnode, hwritten]
  rfl

theorem run_writeProtected_device {here : Place} {path : Path} (husable : isUnusable path = false)
    (hfind : fs.find here path.text = .ok (place, .sink mode)) (content : Bytes) :
    (writeProtected (access here) path content).run fs =
      (.ok (), fs.put place (.sink readOnlyMode)) := by
  -- The device is made writable first, so that it takes what is written.
  have hopened := find_put_self hfind (Node.isLeaf_sink mode) (Node.isLeaf_sink writableMode)
  have hwrite := write_of_device hopened (by decide) content
  rw [put_put] at hwrite
  unfold writeProtected
  rw [run_bind, run_hasEntry husable (hasEntry_of_find hfind)]
  dsimp only
  rw [if_pos rfl, run_bind, run_chmod husable (chmod_of_device hfind writableMode)]
  dsimp only
  rw [run_bind, run_write husable hwrite]
  dsimp only
  rw [run_chmod husable (chmod_of_device hopened readOnlyMode), put_put]

/-- A device reads as empty, so there is always something to write to it. -/
theorem run_refresh_device {here : Place} {path : Path} (husable : isUnusable path = false)
    (hfind : fs.find here path.text = .ok (place, .sink mode)) (hread : mode &&& ownerReadBit ≠ 0)
    (hne : content ≠ []) :
    (refresh (access here) path content).run fs =
      (.ok .updated, fs.put place (.sink readOnlyMode)) := by
  unfold refresh
  rw [run_bind, run_hasEntry husable (hasEntry_of_find hfind)]
  dsimp only
  rw [if_neg (by simp), run_bind, run_read husable (read_of_device hfind hread)]
  dsimp only
  rw [if_pos hne.symm, run_bind, run_writeProtected_device husable hfind]
  rfl

/-- A device stands in the place of a file at the root. -/
theorem IsAtRoot.pass_device (h : IsAtRoot m) (unstable : Bool)
    (hdevice : m.files.get? [Cache.declarationName unstable] = some (.sink mode))
    (hread : mode &&& ownerReadBit ≠ 0) :
    ∃ after, besideRoot.synchronize (some unstable) m = (.ok .updated, after) ∧
      after.files = m.files.put [Cache.declarationName unstable] (.sink readOnlyMode) ∧
      IsAtRoot after := by
  have hfind := find_in_root m.directory hdevice (by simp)
  refine h.pass unstable (h.tree.put_leaf hdevice (Node.isLeaf_sink mode)) ?_
  refine run_refresh_device ?_ hfind hread printed_ne_nil
  rw [Cache.isUnusable_declarationFile]
  decide

/-- The toolchain, and something else in the place of its declaration file. -/
def servingWith (node : Node) : Machine :=
  { serving with files := serving.files.put ["lib.deno.d.ts"] node }

theorem isAtRoot_servingWith (node : Node) : IsAtRoot (servingWith node) :=
  isAtRoot_serving.put false (isAtRoot_serving.tree.put_new rfl rfl node)

/-- A device in the place of the file is written to by every pass, although
    nothing else happens to it. -/
theorem device_updated_again : ∃ after again,
    besideRoot.synchronize (some false) (servingWith (.sink nullMode)) = (.ok .updated, after) ∧
      typeDeclarations besideRoot.settings false after = (.ok (some printed.output), after) ∧
      besideRoot.synchronize (some false) after = (.ok .updated, again) := by
  have hstart := isAtRoot_servingWith (.sink nullMode)
  obtain ⟨after, hfirst, hfiles, hafter⟩ := hstart.pass_device false rfl (by decide)
  have hstill : after.files.get? [Cache.declarationName false] = some (.sink readOnlyMode) := by
    rw [hfiles]
    rfl
  obtain ⟨again, hagain, -⟩ := hafter.pass_device false hstill (by decide)
  exact ⟨after, again, hfirst, hafter.answer false, hagain⟩

/-- Where the null device cannot be opened, nothing is declared. -/
theorem synchronize_of_feed_error {e : OsError} (h : m.feed .null = .error e) (unstable : Bool) :
    (s.synchronize (some unstable) m).1 = .error .unavailable := by
  have hundelivered : ¬ ∃ child m', Delivers s.settings m ["eval", versionScript] child m' := by
    rintro ⟨child, m', path, program, -, -, hspawn, -⟩
    unfold Machine.spawn at hspawn
    rw [h] at hspawn
    cases hspawn
  have hanswer : (typeDeclarations s.settings unstable m).1 = .ok none := by
    have hask : (Question.typeDeclarations unstable).ask s.settings m = .ok none :=
      Question.ask_of_undelivered rfl hundelivered
    exact hask
  rcases hasked : typeDeclarations s.settings unstable m with ⟨answer, asked⟩
  rw [hasked] at hanswer
  obtain rfl : answer = .ok none := hanswer
  rw [synchronize_absent hasked]

theorem find_null_link (here : Place) :
    (servingWith (.link "/dev/null")).files.find here
        (Cache.declarationFile ⟨.root, []⟩ false).text = .ok (nullPlace, .sink nullMode) := by
  have hwalk : (servingWith (.link "/dev/null")).files.walk true linkLimit [] ["lib.deno.d.ts"] =
      .ok nullPlace := by
    rw [linkLimit, walk_link ⟨by decide, by decide, by decide⟩ rfl (by simp)]
    exact walk_nullDevice rfl rfl (Node.isLeaf_sink nullMode) 39
  have htext : (Cache.declarationFile ⟨.root, []⟩ false).text = "/lib.deno.d.ts" := by decide
  rw [htext]
  exact find_eq_ok.2 ⟨hwalk, rfl⟩

/-- Through a link in the place of the file the null device is written to and
    protected.  No child can be given it after that, so that the toolchain has
    no answer any more. -/
theorem null_link_locks_out : ∃ after,
    besideRoot.synchronize (some false) (servingWith (.link "/dev/null")) = (.ok .updated, after) ∧
      after.files.get? nullPlace = some (.sink readOnlyMode) ∧
      (besideRoot.synchronize (some false) after).1 = .error .unavailable := by
  have hstart := isAtRoot_servingWith (.link "/dev/null")
  have husable : isUnusable (Cache.declarationFile ⟨.root, []⟩ false) = false := by
    rw [Cache.isUnusable_declarationFile]
    decide
  have hrun := run_refresh_device husable
    (find_null_link (servingWith (.link "/dev/null")).directory) (by decide) printed_ne_nil
  rw [← declarationFileFor_besideRoot (servingWith (.link "/dev/null"))] at hrun
  obtain ⟨after, hpass, hfiles, -⟩ := synchronize_present (hstart.answer false) hrun
  have hdev : after.files.get? ["dev"] = some .directory := by
    rw [hfiles]
    rfl
  have hnull : after.files.get? nullPlace = some (.sink readOnlyMode) := by
    rw [hfiles]
    rfl
  have hlocked := Machine.feed_null_of_readOnly hdev hnull (by decide)
  exact ⟨after, hpass, hnull, synchronize_of_feed_error hlocked false⟩

end DenoBridge.Session
