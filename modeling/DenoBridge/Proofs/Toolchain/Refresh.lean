import DenoBridge.Proofs.Files.Entries

/-! # One pass over a declaration file

    What a pass makes of a file that is absent or regular.  Each case is told
    by the file system that is left: a missing file is created, one with
    another content is rewritten, one that only lacks protection is protected,
    and everything else is left alone.
-/

namespace DenoBridge.Declarations

open FileSystem

variable {fs fs' : FileSystem} {here place : Place} {path root : Path}
variable {mode : Nat} {old content : Bytes}

/-! ## Section 1: Single calls -/

theorem run_hasEntry_eq (husable : isUnusable path = false) (fs : FileSystem) :
    ((access here).hasEntry path).run fs = match fs.hasEntry here path.text with
      | .ok found => (.ok found, fs)
      | .error e => (.error (.os ⟨e, path.text⟩), fs) := by
  show (if isUnusable path then (pure false : FileWork Bool)
    else look path fun fs => fs.hasEntry here path.text).run fs = _
  rw [if_neg (by simp [husable]), run_look husable]
  cases fs.hasEntry here path.text <;> rfl

theorem run_hasEntry (husable : isUnusable path = false) {found : Bool}
    (h : fs.hasEntry here path.text = .ok found) :
    ((access here).hasEntry path).run fs = (.ok found, fs) := by
  rw [run_hasEntry_eq husable, h]

/-- Nothing is seen where no call can be made. -/
theorem run_hasEntry_unusable (hnul : isUnusable path = true) (fs : FileSystem) :
    ((access here).hasEntry path).run fs = (.ok false, fs) := by
  show (if isUnusable path then (pure false : FileWork Bool)
    else look path fun fs => fs.hasEntry here path.text).run fs = _
  rw [if_pos hnul]
  rfl

theorem run_read (husable : isUnusable path = false) (h : fs.read here path.text = .ok content) :
    ((access here).read path).run fs = (.ok content, fs) := by
  show (look path fun fs => fs.read here path.text).run fs = _
  rw [run_look husable, h]

theorem run_mode (husable : isUnusable path = false) (h : fs.mode here path.text = .ok mode) :
    ((access here).mode path).run fs = (.ok mode, fs) := by
  show (look path fun fs => fs.mode here path.text).run fs = _
  rw [run_look husable, h]

theorem run_chmod (husable : isUnusable path = false) {bits : Nat}
    (h : fs.chmod here path.text bits = .ok fs') :
    ((access here).chmod path bits).run fs = (.ok (), fs') :=
  run_change_ok husable h

theorem run_write (husable : isUnusable path = false) {bytes : Bytes}
    (h : fs.write here path.text bytes = .ok fs') :
    ((access here).write path bytes).run fs = (.ok (), fs') :=
  run_change_ok husable h

/-! ## Section 2: Writing -/

theorem run_writeProtected_regular (husable : isUnusable path = false)
    (hfind : fs.find here path.text = .ok (place, .file mode old)) (content : Bytes) :
    (writeProtected (access here) path content).run fs =
      (.ok (), fs.put place (.file readOnlyMode content)) := by
  -- The three calls leave the file writable, written and protected in turn.
  have hwritable := find_put_self hfind (Node.isLeaf_file mode old)
    (Node.isLeaf_file writableMode old)
  have hwritten := find_put_self hfind (Node.isLeaf_file mode old)
    (Node.isLeaf_file writableMode content)
  unfold writeProtected
  rw [run_bind, run_hasEntry husable (hasEntry_of_find hfind)]
  dsimp only
  rw [if_pos rfl, run_bind, run_chmod husable (chmod_of_find hfind writableMode)]
  dsimp only
  rw [run_bind, run_write husable (write_of_find hwritable content), put_put]
  dsimp only
  rw [run_chmod husable (chmod_of_find hwritten readOnlyMode), put_put]

theorem run_writeProtected_new (husable : isUnusable path = false)
    (hloc : fs.locate here path.text true = .ok place) (hnone : fs.get? place = none)
    (content : Bytes) : (writeProtected (access here) path content).run fs =
      (.ok (), fs.put place (.file readOnlyMode content)) := by
  have hwritten := find_put_new hloc hnone (Node.isLeaf_file newFileMode content)
  unfold writeProtected
  rw [run_bind, run_hasEntry husable (hasEntry_of_noEntry (find_of_none hloc hnone))]
  dsimp only
  rw [if_neg (by simp), run_bind, run_write husable (write_of_none hloc hnone content)]
  dsimp only
  rw [run_chmod husable (chmod_of_find hwritten readOnlyMode), put_put]

/-! ## Section 3: The cases of a pass -/

theorem run_refresh_different (husable : isUnusable path = false)
    (hfind : fs.find here path.text = .ok (place, .file mode old)) (hne : old ≠ content) :
    (refresh (access here) path content).run fs =
      (.ok .updated, fs.put place (.file readOnlyMode content)) := by
  unfold refresh
  rw [run_bind, run_hasEntry husable (hasEntry_of_find hfind)]
  dsimp only
  rw [if_neg (by simp), run_bind, run_read husable (read_of_find hfind)]
  dsimp only
  rw [if_pos hne, run_bind, run_writeProtected_regular husable hfind]
  rfl

theorem run_refresh_same (husable : isUnusable path = false)
    (hfind : fs.find here path.text = .ok (place, .file mode content)) :
    (refresh (access here) path content).run fs =
      (.ok .unchanged,
        if mode &&& writeBits ≠ 0 then fs.put place (.file readOnlyMode content) else fs) := by
  unfold refresh
  rw [run_bind, run_hasEntry husable (hasEntry_of_find hfind)]
  dsimp only
  rw [if_neg (by simp), run_bind, run_read husable (read_of_find hfind)]
  dsimp only
  rw [if_neg (by simp), run_bind, run_mode husable (mode_of_find hfind)]
  dsimp only
  by_cases hwritable : mode &&& writeBits ≠ 0
  · rw [if_pos hwritable, if_pos hwritable, run_bind,
      run_chmod husable (chmod_of_find hfind readOnlyMode)]
    rfl
  · rw [if_neg hwritable, if_neg hwritable]
    rfl

theorem run_refresh_missing (husable : isUnusable path = false)
    (hentry : fs.hasEntry here path.text = .ok false)
    (hmake : (ensureDirectories here path.parent).run fs = (.ok (), fs'))
    (hloc : fs'.locate here path.text true = .ok place) (hnone : fs'.get? place = none) :
    (refresh (access here) path content).run fs =
      (.ok .created, fs'.put place (.file readOnlyMode content)) := by
  unfold refresh
  rw [run_bind, run_hasEntry husable hentry]
  dsimp only
  rw [if_pos (by simp), run_bind]
  rw [show ((access here).makeDirectories path.parent).run fs = (.ok (), fs') from hmake]
  dsimp only
  rw [run_bind, run_writeProtected_new husable hloc hnone]
  rfl

end DenoBridge.Declarations
