import DenoBridge.Proofs.Toolchain.Mishaps
import DenoBridge.Proofs.Toolchain.Passes

/-! # Recovery from a mishap

    At every moment of a pass, mishap or not, the file is missing or regular,
    and nothing was touched but the file and missing directories above it
    (`Underway`).  Each call keeps this, however it ends (`sturdy_underway`).
    From any such moment a pass that has an outcome leaves the file as it
    should be (`held_of_run`), and a pass has an outcome if one would have had
    it at the start (`recovers_from_mishap`).
-/

namespace DenoBridge.Declarations

open FileSystem
open Cache (declarationFile declarationName)

variable {start fs fs' : FileSystem} {here place : Place} {root : Path} {unstable : Bool}
variable {content : Bytes} {count : Nat} {outcome : Outcome}

/-! ## Section 1: Passes with an outcome -/

/-- The file is regular, holds the content, and nobody may write it. -/
def IsHeld (here : Place) (root : Path) (unstable : Bool) (content : Bytes) (fs : FileSystem) :
    Prop :=
  ∃ place mode, fs.find here (declarationFile root unstable).text =
    .ok (place, .file mode content) ∧ mode &&& writeBits = 0

/-- No call of a pass would fail: the file is regular, or it is seen to be
    missing and its directory is there or can be made. -/
structure IsPassable (here : Place) (root : Path) (unstable : Bool) (fs : FileSystem) : Prop where
  usable : isUnusable root = false
  entry : fs.IsRegular here (declarationFile root unstable) ∨
    fs.hasEntry here (declarationFile root unstable).text = .ok false ∧
      ∃ made, (ensureDirectories here root).run fs = (.ok (), made)

/-- The file is missing or regular in a tree, seen from a directory of it. -/
structure IsSettled (here : Place) (root : Path) (unstable : Bool) (fs : FileSystem) : Prop where
  tree : fs.IsTree
  current : fs.get? here = some .directory
  entry : fs.IsMissing here (declarationFile root unstable) ∨
    fs.IsRegular here (declarationFile root unstable)

theorem held_of_regular (husable : isUnusable root = false)
    (hregular : fs.IsRegular here (declarationFile root unstable)) (content : Bytes) :
    ∃ outcome fs', (refresh (access here) (declarationFile root unstable) content).run fs =
      (.ok outcome, fs') ∧ IsHeld here root unstable content fs' := by
  have husable' := (Cache.isUnusable_declarationFile root unstable).trans husable
  obtain ⟨place, mode, old, hfind⟩ := hregular
  have hput := find_put_self hfind (Node.isLeaf_file mode old)
    (Node.isLeaf_file readOnlyMode content)
  by_cases heq : old = content
  · subst heq
    refine ⟨_, _, run_refresh_same husable' hfind, ?_⟩
    split
    · exact ⟨place, readOnlyMode, hput, by decide⟩
    · rename_i hprotected
      exact ⟨place, mode, hfind, not_not.1 hprotected⟩
  · exact ⟨_, _, run_refresh_different husable' hfind heq, place, readOnlyMode, hput, by decide⟩

theorem held_of_missing (hroot : root.IsNormal) (h : IsSettled here root unstable fs)
    (husable : isUnusable root = false)
    (hmissing : fs.IsMissing here (declarationFile root unstable))
    (hentry : fs.hasEntry here (declarationFile root unstable).text = .ok false)
    {made : FileSystem} (hmake : (ensureDirectories here root).run fs = (.ok (), made))
    (content : Bytes) :
    ∃ outcome fs', (refresh (access here) (declarationFile root unstable) content).run fs =
      (.ok outcome, fs') ∧ IsHeld here root unstable content fs' := by
  have hpath := Cache.isProper_declarationFile hroot.proper unstable
  have hlong := not_isTooLong_of_hasEntry hpath hentry
  obtain ⟨-, above, hreach, hgrown⟩ :=
    grown_of_ensureDirectories h.tree h.current hroot hmake
  obtain ⟨hnone, -⟩ := get?_of_isMissing hroot h.tree hlong hmissing hreach hgrown
  have hloc := locate_new hroot hlong hreach hgrown.directory hnone true
  have hput := find_put_new hloc hnone (Node.isLeaf_file readOnlyMode content)
  have husable' := (Cache.isUnusable_declarationFile root unstable).trans husable
  refine ⟨_, _, run_refresh_missing husable' hentry ?_ hloc hnone, _, _, hput, by decide⟩
  rw [Cache.parent_declarationFile]
  exact hmake

/-- Where a pass can be brought to its end, it leaves the file as it should
    be. -/
theorem IsPassable.held (hroot : root.IsNormal) (h : IsPassable here root unstable fs)
    (hsettled : IsSettled here root unstable fs) (content : Bytes) :
    ∃ outcome fs', (refresh (access here) (declarationFile root unstable) content).run fs =
      (.ok outcome, fs') ∧ IsHeld here root unstable content fs' := by
  rcases hsettled.entry with hmissing | hregular
  · rcases h.entry with hregular | ⟨hentry, made, hmake⟩
    · exact held_of_regular h.usable hregular content
    · exact held_of_missing hroot hsettled h.usable hmissing hentry hmake content
  · exact held_of_regular h.usable hregular content

/-- A path that no call can be made on is never passed. -/
theorem usable_of_run (hrun : (refresh (access here) (declarationFile root unstable) content).run fs
    = (.ok outcome, fs')) : isUnusable root = false := by
  rw [← Bool.not_eq_true]
  intro hnul
  have hnulFile := (Cache.isUnusable_declarationFile root unstable).trans hnul
  -- Nothing is seen, and the directory cannot be made.
  have hmade : ((access here).makeDirectories root).run fs = (.error .embeddedNul, fs) := by
    show (ensureDirectories here root).run fs = _
    rw [ensureDirectories, run_tryCatch, run_change_unusable hnul]
    rfl
  unfold refresh at hrun
  rw [run_bind, run_hasEntry_unusable hnulFile] at hrun
  dsimp only at hrun
  rw [if_pos (by simp), run_bind, Cache.parent_declarationFile, hmade] at hrun
  cases hrun

/-- Where a pass had an outcome, no call of it could have failed. -/
theorem isPassable_of_run (hroot : root.IsNormal) (h : IsSettled here root unstable fs)
    (hrun : (refresh (access here) (declarationFile root unstable) content).run fs =
      (.ok outcome, fs')) : IsPassable here root unstable fs := by
  have hpath := Cache.isProper_declarationFile hroot.proper unstable
  have husable := usable_of_run hrun
  have husable' := (Cache.isUnusable_declarationFile root unstable).trans husable
  refine ⟨husable, ?_⟩
  rcases h.entry with hmissing | hregular
  · obtain ⟨e, hfind⟩ := hmissing.find_error hpath
    have hentry : fs.hasEntry here (declarationFile root unstable).text =
        if meansAbsent e then .ok false else .error e := by
      unfold hasEntry
      rw [hfind]
    unfold refresh at hrun
    rw [run_bind] at hrun
    split at hentry
    · rw [run_hasEntry husable' hentry] at hrun
      dsimp only at hrun
      rw [if_pos (by simp), run_bind, Cache.parent_declarationFile] at hrun
      refine .inr ⟨hentry, ?_⟩
      rcases hmake : (ensureDirectories here root).run fs with ⟨fault | -, made⟩
      · rw [show ((access here).makeDirectories root).run fs = _ from hmake] at hrun
        cases hrun
      · exact ⟨made, rfl⟩
    · rw [run_hasEntry_eq husable', hentry] at hrun
      cases hrun
  · exact .inl hregular

/-- A pass that has an outcome leaves the file as it should be. -/
theorem held_of_run (hroot : root.IsNormal) (h : IsSettled here root unstable fs)
    (hrun : (refresh (access here) (declarationFile root unstable) content).run fs =
      (.ok outcome, fs')) : IsHeld here root unstable content fs' := by
  obtain ⟨_, _, hagain, hheld⟩ := (isPassable_of_run hroot h hrun).held hroot h content
  rw [hrun] at hagain
  obtain ⟨-, rfl⟩ := Prod.mk.inj hagain
  exact hheld

/-! ## Section 2: Every moment of a pass -/

/-- A new directory that the way to the file leads to or through. -/
def IsNewAbove (here : Place) (root : Path) (start fs : FileSystem) (q : Place) : Prop :=
  start.get? q = none ∧ fs.get? q = some .directory ∧
    ∃ count above, fs.reach true here (root.first count) = .ok above ∧ q <+: above

/-- Nothing was touched but the file, and missing directories above it were
    made. -/
def IsFramed (here : Place) (root : Path) (unstable : Bool) (start fs : FileSystem) : Prop :=
  ∀ q, fs.get? q = start.get? q ∨ IsNewAbove here root start fs q ∨
    ∃ node, fs.find here (declarationFile root unstable).text = .ok (q, node)

/-- What a file system is like at any moment of a pass from a start. -/
structure Underway (here : Place) (root : Path) (unstable : Bool) (start fs : FileSystem) :
    Prop where
  settled : IsSettled here root unstable fs
  framed : IsFramed here root unstable start fs
  passable : IsPassable here root unstable start → IsPassable here root unstable fs

theorem Underway.refl (h : IsSettled here root unstable start) :
    Underway here root unstable start start :=
  ⟨h, fun _ => .inl rfl, id⟩

theorem IsNewAbove.keeps {q : Place} (h : IsNewAbove here root start fs q) (hkeeps : fs.Keeps fs') :
    IsNewAbove here root start fs' q := by
  obtain ⟨hnone, hdir, count, above, hreach, hpre⟩ := h
  exact ⟨hnone, hkeeps.directory q hdir, count, above, hkeeps.walk hreach, hpre⟩

/-- The file is put in its place, whatever was there of it before. -/
theorem Underway.put (h : Underway here root unstable start fs) (hplace : place ≠ [])
    {node : Node} (htree : (fs.put place node).IsTree) (hkeeps : fs.Keeps (fs.put place node))
    (hregular : (fs.put place node).IsRegular here (declarationFile root unstable))
    (hput : (fs.put place node).find here (declarationFile root unstable).text = .ok (place, node))
    (hold : ∀ q old, fs.find here (declarationFile root unstable).text = .ok (q, old) →
      q = place) : Underway here root unstable start (fs.put place node) := by
  refine ⟨⟨htree, hkeeps.directory _ h.settled.current, .inr hregular⟩, ?_, ?_⟩
  · intro q
    by_cases hq : q = place
    · subst hq
      exact .inr (.inr ⟨node, hput⟩)
    · rcases h.framed q with hsame | hnew | ⟨old, hfound⟩
      · exact .inl ((get?_put_of_ne fs hplace node hq).trans hsame)
      · exact .inr (.inl (hnew.keeps hkeeps))
      · exact absurd (hold q old hfound) hq
  · exact fun hstart => ⟨(h.passable hstart).usable, .inl hregular⟩

/-- Another content or mode of the file. -/
theorem Underway.replace (h : Underway here root unstable start fs) {mode : Nat} {old : Bytes}
    (hfind : fs.find here (declarationFile root unstable).text = .ok (place, .file mode old))
    (mode' : Nat) (content : Bytes) :
    Underway here root unstable start (fs.put place (.file mode' content)) := by
  obtain ⟨-, hnode⟩ := find_eq_ok.1 hfind
  have hleaf := Node.isLeaf_file mode old
  have hput := find_put_self hfind hleaf (Node.isLeaf_file mode' content)
  have hplace := ne_root_of_leaf hnode hleaf
  refine h.put hplace (h.settled.tree.put_leaf hnode hleaf) ?_ ⟨_, _, _, hput⟩ hput ?_
  · refine Keeps.put hplace ?_ (by simp)
    intro there hthere
    obtain rfl := Option.some.inj (hnode.symm.trans hthere)
    exact hleaf
  · intro q there hfound
    exact (Prod.mk.inj (Except.ok.inj (hfound.symm.trans hfind))).1

/-- A file where none was found. -/
theorem Underway.create (hroot : root.IsNormal) (h : Underway here root unstable start fs)
    (hmissing : fs.IsMissing here (declarationFile root unstable))
    (hloc : fs.locate here (declarationFile root unstable).text true = .ok place) (mode : Nat)
    (content : Bytes) : fs.get? place = none ∧
      Underway here root unstable start (fs.put place (.file mode content)) := by
  have hpath := Cache.isProper_declarationFile hroot.proper unstable
  have hname := Cache.isPlain_declarationName unstable
  obtain ⟨hstop, hnone⟩ := hmissing.of_locate hpath hloc
  have hplace := ne_root_of_none hnone
  have hput := find_put_new hloc hnone (Node.isLeaf_file mode content)
  -- The file stands in the directory that the walk to it went through.
  obtain ⟨hreach, -⟩ := reach_of_locate hpath hstop
  have hdir : fs.get? place.dropLast = some .directory := by
    rw [Cache.declarationFile_eq] at hreach
    obtain ⟨-, above, habove, hdir⟩ :=
      h.settled.tree.reach_parent h.settled.current hname.ne_dot hname.ne_dotDot hreach
    obtain rfl := Except.ok.inj ((reach_child hname habove hdir).symm.trans hreach)
    rw [List.dropLast_concat]
    exact hdir
  refine ⟨hnone, h.put hplace (h.settled.tree.put_new hnone hdir _) ?_ ⟨_, _, _, hput⟩ hput ?_⟩
  · exact Keeps.put hplace (by simp [hnone]) (by simp)
  · exact fun q old hfound => absurd hfound (hmissing.find_ne hpath _)

/-- Directories on the way to a file leave it missing or regular. -/
theorem IsSettled.begun (hroot : root.IsNormal) (h : IsSettled here root unstable fs)
    (hbegun : Begun here root fs fs' count place) : IsSettled here root unstable fs' := by
  have hpath := Cache.isProper_declarationFile hroot.proper unstable
  have hname := Cache.isPlain_declarationName unstable
  refine ⟨hbegun.grown.tree, hbegun.grown.keeps.directory _ h.current, h.entry.imp ?_ ?_⟩
  · intro _ found hloc
    obtain ⟨hreach, -⟩ := reach_of_locate hpath hloc
    rw [Cache.declarationFile_eq] at hreach
    exact hbegun.get?_child h.tree h.current hroot hname.ne_dot hname.ne_dotDot hreach
  · rintro ⟨q, mode, content, hfind⟩
    exact ⟨q, mode, content, hbegun.grown.find_eq hfind⟩

theorem IsFramed.begun (h : IsFramed here root unstable start fs)
    (hbegun : Begun here root fs fs' count place) : IsFramed here root unstable start fs' := by
  intro q
  rcases h q with hsame | hnew | ⟨node, hfind⟩
  · rcases hbegun.grown.frame q with hkept | ⟨hnone, hdir, hpre⟩
    · exact .inl (hkept.trans hsame)
    · exact .inr (.inl ⟨hsame.symm.trans hnone, hdir, count, place, hbegun.reach, hpre⟩)
  · exact .inr (.inl (hnew.keeps hbegun.grown.keeps))
  · exact .inr (.inr ⟨node, hbegun.grown.find_eq hfind⟩)

/-- What is left to make can be made, and the file is seen to be missing as
    before. -/
theorem IsPassable.begun (hroot : root.IsNormal) (hsettled : IsSettled here root unstable fs)
    (h : IsPassable here root unstable fs) (hbegun : Begun here root fs fs' count place) :
    IsPassable here root unstable fs' := by
  have hpath := Cache.isProper_declarationFile hroot.proper unstable
  have hname := Cache.isPlain_declarationName unstable
  obtain ⟨htree, hcurrent, -⟩ := hsettled
  refine ⟨h.usable, ?_⟩
  rcases h.entry with ⟨q, mode, content, hfind⟩ | ⟨hseen, made, hmake⟩
  · exact .inl ⟨q, mode, content, hbegun.grown.find_eq hfind⟩
  · have hlong := not_isTooLong_of_hasEntry hpath hseen
    rw [Cache.declarationFile_eq] at hlong hpath
    have habsent := hbegun.isAbsent_child htree hpath hlong hname
      (hbegun.isPlain htree hcurrent hroot hmake)
    refine .inr ⟨hasEntry_of_noEntry ?_, hbegun.makeable htree hcurrent hroot hmake⟩
    rw [Cache.declarationFile_eq]
    exact habsent.find_eq hpath

/-- Directories on the way to the file. -/
theorem Underway.begun (hroot : root.IsNormal) (h : Underway here root unstable start fs)
    (hbegun : Begun here root fs fs' count place) : Underway here root unstable start fs' where
  settled := h.settled.begun hroot hbegun
  framed := h.framed.begun hbegun
  passable := fun hstart => (h.passable hstart).begun hroot h.settled hbegun

/-- Whatever comes of a call, what holds at every moment of a pass holds
    after it. -/
theorem sturdy_underway (hroot : root.IsNormal) :
    Sturdy (Underway here root unstable start) here (declarationFile root unstable) := by
  have hpath := Cache.isProper_declarationFile hroot.proper unstable
  constructor
  case makeDirectories =>
    intro fs count h
    rw [Cache.parent_declarationFile]
    rcases hrun : (ensureDirectories here (root.first count)).run fs with ⟨result, fs'⟩
    rcases begun_of_ensureDirectories h.settled.tree h.settled.current
      (Path.isNormal_first hroot count) hrun with rfl | ⟨count', place, hbegun⟩
    · exact h
    · exact h.begun hroot hbegun.of_first
  case write =>
    intro fs content h
    rcases h.settled.entry with hmissing | ⟨place, mode, old, hfind⟩
    · cases hloc : fs.locate here (declarationFile root unstable).text true with
      | error e =>
        have hwrite : fs.write here (declarationFile root unstable).text content = .error e := by
          unfold FileSystem.write
          rw [hloc]
          rfl
        rw [hwrite]
        exact h
      | ok place =>
        obtain ⟨hnone, hcreated⟩ := h.create hroot hmissing hloc newFileMode content
        rw [write_of_none hloc hnone]
        exact hcreated
    · rw [write_of_find hfind]
      exact h.replace hfind mode content
  case chmod =>
    intro fs bits h
    rcases h.settled.entry with hmissing | ⟨place, mode, old, hfind⟩
    · obtain ⟨e, hfind⟩ := hmissing.find_error hpath
      have hchmod : fs.chmod here (declarationFile root unstable).text bits = .error e := by
        unfold FileSystem.chmod
        rw [hfind]
        rfl
      rw [hchmod]
      exact h
    · rw [chmod_of_find hfind]
      exact h.replace hfind bits old

/-! ## Section 3: After a mishap -/

/-- What is known of a pass in which a mishap may strike, and of the passes
    after it. -/
structure Recovers (mishap : Mishap) (here : Place) (root : Path) (unstable : Bool)
    (content : Bytes) (fs : FileSystem) : Prop where
  /-- When the mishap's call is reached and refused, the pass fails with the
      path of the file and the wording of the refusal. -/
  refused : ∀ reason, mishap.reason = some reason →
    mishap.call < (tried none here (declarationFile root unstable) content fs).2.calls →
      (tried (some mishap) here (declarationFile root unstable) content fs).1 =
        .failure (.file ⟨(declarationFile root unstable).text, reason⟩)
  /-- When the pass is cut off before the mishap's call, there is no more to
      it. -/
  cutOff : mishap.reason = none →
    mishap.call < (tried none here (declarationFile root unstable) content fs).2.calls →
      (tried (some mishap) here (declarationFile root unstable) content fs).1 = .cutOff
  /-- When the mishap's call is not reached, nothing is different. -/
  spared : (tried none here (declarationFile root unstable) content fs).2.calls ≤ mishap.call →
    tried (some mishap) here (declarationFile root unstable) content fs =
      tried none here (declarationFile root unstable) content fs
  /-- Nothing was touched but the file and missing directories above it. -/
  framed : IsFramed here root unstable fs
    (tried (some mishap) here (declarationFile root unstable) content fs).2.files
  /-- Any pass from there that has an outcome leaves the file as it should be. -/
  held : ∀ content' outcome fs',
    (refresh (access here) (declarationFile root unstable) content').run
      (tried (some mishap) here (declarationFile root unstable) content fs).2.files =
        (.ok outcome, fs') → IsHeld here root unstable content' fs'
  /-- Any pass from there has an outcome if the first one would have had it. -/
  mended : (∃ outcome fs', (refresh (access here) (declarationFile root unstable) content).run fs =
      (.ok outcome, fs')) →
    ∀ content', ∃ outcome fs',
      (refresh (access here) (declarationFile root unstable) content').run
        (tried (some mishap) here (declarationFile root unstable) content fs).2.files =
          (.ok outcome, fs')

/-- A pass recovers from whatever mishap struck the one before. -/
theorem recovers_from_mishap (hroot : root.IsNormal) (h : IsSettled here root unstable fs)
    (content : Bytes) (mishap : Mishap) : Recovers mishap here root unstable content fs := by
  -- Wherever the mishap stops the pass, that is a moment of it.
  have hleft : Underway here root unstable fs
      (tried (some mishap) here (declarationFile root unstable) content fs).2.files :=
    (sturdy_underway hroot).tried (some mishap) content (.refl h)
  constructor
  case refused =>
    intro reason hreason hreached
    rw [tried_struck hreached, Mishap.stop, hreason]
    rfl
  case cutOff =>
    intro hreason hreached
    rw [tried_struck hreached, Mishap.stop, hreason]
    rfl
  case spared => exact tried_spared
  case framed => exact hleft.framed
  case held => exact fun content' outcome fs' hrun => held_of_run hroot hleft.settled hrun
  case mended =>
    rintro ⟨outcome, fs', hrun⟩ content'
    have hpassable := hleft.passable (isPassable_of_run hroot h hrun)
    obtain ⟨outcome', after, hagain, -⟩ := hpassable.held hroot hleft.settled content'
    exact ⟨outcome', after, hagain⟩

/-- A pass that makes the file makes five calls. -/
theorem calls_created {path : Path} {made : FileSystem} (husable : isUnusable path = false)
    (hentry : fs.hasEntry here path.text = .ok false)
    (hmake : (ensureDirectories here path.parent).run fs = (.ok (), made))
    (hloc : made.locate here path.text true = .ok place) (hnone : made.get? place = none)
    (content : Bytes) : (tried none here path content fs).2.calls = 5 := by
  have hstill := hasEntry_of_noEntry (find_of_none hloc hnone)
  have hwritten := find_put_new hloc hnone (Node.isLeaf_file newFileMode content)
  have hlook : ((accessUnder none here).hasEntry path).run ⟨0, fs⟩ = (.ok false, ⟨1, fs⟩) :=
    run_attempt_ok (run_hasEntry husable hentry) (fun _ fs => fs) 0
  have hmade : ((accessUnder none here).makeDirectories path.parent).run ⟨1, fs⟩ =
      (.ok (), ⟨2, made⟩) :=
    run_attempt_ok hmake (Mishap.directories here path.parent) 1
  have hagain : ((accessUnder none here).hasEntry path).run ⟨2, made⟩ = (.ok false, ⟨3, made⟩) :=
    run_attempt_ok (run_hasEntry husable hstill) (fun _ fs => fs) 2
  have hwrite : ((accessUnder none here).write path content).run ⟨3, made⟩ =
      (.ok (), ⟨4, made.put place (.file newFileMode content)⟩) :=
    run_attempt_ok (run_write husable (write_of_none hloc hnone content))
      (Mishap.content here path content) 3
  have hprotect : ((accessUnder none here).chmod path readOnlyMode).run
      ⟨4, made.put place (.file newFileMode content)⟩ = (.ok (), ⟨5, _⟩) :=
    run_attempt_ok (run_chmod husable (chmod_of_find hwritten readOnlyMode)) (fun _ fs => fs) 4
  unfold tried refresh writeProtected
  rw [run_bind, hlook]
  dsimp only
  rw [if_pos (by simp), run_bind, hmade]
  dsimp only
  rw [run_bind, run_bind, hagain]
  dsimp only
  rw [if_neg (by simp), run_bind, hwrite]
  dsimp only
  rw [hprotect]
  rfl

/-- The disk is full after one byte, in the call that writes a new file. -/
def fullDisk : Mishap :=
  ⟨3, some "No space left on device", 0, some 1⟩

/-- A pass recovers from a disk that was full. -/
theorem recovers_from_fullDisk :
    IsSettled [] ⟨.root, []⟩ false ⟨[]⟩ ∧
      fullDisk.call <
        (tried none [] (declarationFile ⟨.root, []⟩ false) [0x61, 0x62] ⟨[]⟩).2.calls ∧
      Recovers fullDisk [] ⟨.root, []⟩ false [0x61, 0x62] ⟨[]⟩ := by
  have hroot := Session.isNormal_root
  obtain ⟨htree, hcurrent, husable, -⟩ := Session.isReady_empty
  have hreach : FileSystem.reach ⟨[]⟩ true [] ⟨.root, []⟩ = .ok [] := walk_nil
  have hmake := ensureDirectories_of_directory htree hcurrent hroot.proper husable (by decide)
    hreach rfl
  have hloc (follow : Bool) : FileSystem.locate ⟨[]⟩ []
      (declarationFile ⟨.root, []⟩ false).text follow = .ok ["lib.deno.d.ts"] :=
    locate_new hroot (by decide) hreach rfl rfl follow
  have hsettled : IsSettled [] ⟨.root, []⟩ false ⟨[]⟩ := by
    refine ⟨htree, hcurrent, .inl fun place hfound => ?_⟩
    obtain rfl := Except.ok.inj ((hloc false).symm.trans hfound)
    rfl
  refine ⟨hsettled, ?_, recovers_from_mishap hroot hsettled [0x61, 0x62] fullDisk⟩
  rw [calls_created ((Cache.isUnusable_declarationFile _ false).trans husable)
    (hasEntry_of_noEntry (find_of_none (hloc true) rfl)) ?_ (hloc true) rfl]
  · decide
  · rw [Cache.parent_declarationFile]
    exact hmake

end DenoBridge.Declarations
