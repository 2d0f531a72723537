import DenoBridge.Proofs.Files.Removal
import DenoBridge.Proofs.Files.Spelling
import DenoBridge.Proofs.Toolchain.Targets

/-! # Staying ready

    Passes keep a file system ready, and so does everything that may be done
    to the declaration files from outside: they can be written, given other
    permissions and deleted (`IsReady.refresh`, `IsReady.touch`).
-/

namespace DenoBridge.Declarations

open FileSystem
open Cache (declarationFile declarationName)

variable {fs fs' made : FileSystem} {here place above : Place} {root : Path} {unstable : Bool}
variable {content : Bytes} {mode : Nat}

/-! ## Section 1: The directory of the files -/

/-- Where a regular file is found, its directory is there. -/
theorem reach_of_find (htree : fs.IsTree) (hcurrent : fs.get? here = some .directory)
    (hroot : root.IsNormal) {found : Place × Node}
    (hfind : fs.find here (declarationFile root unstable).text = .ok found) :
    ¬ IsTooLong root ∧ ∃ above, fs.reach true here root = .ok above ∧
      fs.get? above = some .directory := by
  have hpath := Cache.isProper_declarationFile hroot.proper unstable
  have hname := Cache.isPlain_declarationName unstable
  obtain ⟨hloc, -⟩ := find_eq_ok.1 hfind
  obtain ⟨hreach, hlong⟩ := reach_of_locate hpath hloc
  rw [Cache.declarationFile_eq] at hreach hlong
  refine ⟨fun htoo => hlong (isTooLong_append htoo _), ?_⟩
  exact (htree.reach_parent hcurrent hname.ne_dot hname.ne_dotDot hreach).2

theorem makeable_of_find (htree : fs.IsTree) (hcurrent : fs.get? here = some .directory)
    (hroot : root.IsNormal) (husable : isUnusable root = false) {found : Place × Node}
    (hfind : fs.find here (declarationFile root unstable).text = .ok found) :
    ∃ fs', (ensureDirectories here root).run fs = (.ok (), fs') := by
  obtain ⟨hlong, above, hreach, hdir⟩ := reach_of_find htree hcurrent hroot hfind
  exact ⟨fs, ensureDirectories_of_directory htree hcurrent hroot.proper husable hlong hreach hdir⟩

/-- There are two modes. -/
theorem either_mode {P : Bool → Prop} (unstable : Bool) (h : P unstable) (hother : P !unstable)
    (either : Bool) : P either := by
  by_cases heither : either = unstable
  · rw [heither]
    exact h
  · rw [Bool.eq_not_of_ne heither]
    exact hother

/-- It is enough to know of one file that the other is not the same. -/
theorem apart_of_one (unstable : Bool) (h : ∀ place node node',
      fs.find here (declarationFile root unstable).text = .ok (place, node) →
        fs.find here (declarationFile root !unstable).text ≠ .ok (place, node')) :
    ∀ either place node node',
      fs.find here (declarationFile root either).text = .ok (place, node) →
        fs.find here (declarationFile root !either).text ≠ .ok (place, node') := by
  refine either_mode unstable ?_ ?_
  · exact h
  · intro place node node' hfind hother
    rw [Bool.not_not] at hother
    exact h place node' node hother hfind

/-! ## Section 2: Another file in its place -/

theorem IsReady.put_file (hroot : root.IsNormal) (h : IsReady here root fs)
    (hfind : fs.find here (declarationFile root unstable).text = .ok (place, .file mode content))
    (mode' : Nat) (content' : Bytes) : IsReady here root (fs.put place (.file mode' content')) := by
  obtain ⟨-, hnode⟩ := find_eq_ok.1 hfind
  have hold := Node.isLeaf_file mode content
  have hnew := Node.isLeaf_file mode' content'
  have hkeeps : fs.Keeps (fs.put place (.file mode' content')) :=
    Keeps.put (ne_root_of_leaf hnode hold) (by
      intro old hthere
      obtain rfl := Option.some.inj (hnode.symm.trans hthere)
      exact hold) (by simp)
  have hself := find_put_self hfind hold hnew
  have hother := find_put_other hnode hold hnew
    (fun node => h.apart unstable place _ node hfind)
  have htree : (fs.put place (.file mode' content')).IsTree := h.tree.put_leaf hnode hold
  have hcurrent := hkeeps.directory _ h.current
  refine ⟨htree, hcurrent, h.usable, ?_, ?_, ?_⟩
  · refine either_mode unstable (.inr ⟨_, _, _, hself⟩) ?_
    rcases h.entry (!unstable) with habsent | ⟨q, bits, bytes, hregular⟩
    · exact .inl (isAbsent_put hnode hold hnew habsent)
    · exact .inr ⟨q, bits, bytes, hother.trans hregular⟩
  · exact fun _ _ => makeable_of_find htree hcurrent hroot h.usable hself
  · refine apart_of_one unstable fun q node node' hfound hsame => ?_
    obtain ⟨rfl, -⟩ := Prod.mk.inj (Except.ok.inj (hself.symm.trans hfound))
    rw [hother] at hsame
    exact h.apart unstable place _ _ hfind hsame

/-! ## Section 3: A new file -/

theorem IsReady.create (hroot : root.IsNormal) (h : IsReady here root fs)
    (habsent : fs.IsAbsent here (declarationFile root unstable))
    (hreach : made.reach true here root = .ok above) (hgrown : Grown fs made above) (mode : Nat)
    (content : Bytes) :
    IsReady here root (made.put (above ++ [declarationName unstable]) (.file mode content)) := by
  have hpath := Cache.isProper_declarationFile hroot.proper unstable
  obtain ⟨hnone, hold⟩ := get?_of_isAbsent hroot h.tree habsent hreach hgrown
  have hnew := Node.isLeaf_file mode content
  have hself := find_put_new (locate_new hroot (habsent.not_isTooLong hpath) hreach
    hgrown.directory hnone true) hnone hnew
  have hcurrent := (keeps_create hgrown hnone mode content).directory _ h.current
  have htree : (made.put (above ++ [declarationName unstable]) (.file mode content)).IsTree := by
    refine hgrown.tree.put_new hnone ?_ _
    rw [List.dropLast_concat]
    exact hgrown.directory
  -- What is found of the other file was found before, at another place.
  have hother : ∀ found, fs.find here (declarationFile root !unstable).text = .ok found →
      (made.put (above ++ [declarationName unstable]) (.file mode content)).find here
        (declarationFile root !unstable).text = .ok found :=
    fun found hfound => find_create hgrown hnone hold mode content hfound
  refine ⟨htree, hcurrent, h.usable, ?_, ?_, ?_⟩
  · refine either_mode unstable (.inr ⟨_, _, _, hself⟩) ?_
    rcases h.entry (!unstable) with hmissing | ⟨q, bits, bytes, hregular⟩
    · exact .inl (isAbsent_create hroot h.tree hmissing hreach hgrown mode hnone content)
    · exact .inr ⟨q, bits, bytes, hother _ hregular⟩
  · exact fun _ _ => makeable_of_find htree hcurrent hroot h.usable hself
  · refine apart_of_one unstable fun q node node' hfound hsame => ?_
    obtain ⟨rfl, -⟩ := Prod.mk.inj (Except.ok.inj (hself.symm.trans hfound))
    rcases h.entry (!unstable) with hmissing | ⟨q, bits, bytes, hregular⟩
    · have hgone := isAbsent_create hroot h.tree hmissing hreach hgrown mode hnone content
      rw [hgone.find_eq (Cache.isProper_declarationFile hroot.proper _)] at hsame
      cases hsame
    · -- The other file would have stood where nothing was.
      obtain ⟨rfl, -⟩ := Prod.mk.inj (Except.ok.inj ((hother _ hregular).symm.trans hsame))
      obtain ⟨-, hthere⟩ := find_eq_ok.1 hregular
      rw [hold] at hthere
      cases hthere

/-- A pass leaves a ready file system ready. -/
theorem IsReady.refresh (hroot : root.IsNormal) (h : IsReady here root fs) (unstable : Bool)
    (content : Bytes) : IsReady here root
      ((Declarations.refresh (access here) (declarationFile root unstable) content).run fs).2 := by
  have husable := (Cache.isUnusable_declarationFile root unstable).trans h.usable
  rcases h.entry unstable with habsent | ⟨place, mode, old, hfind⟩
  · obtain ⟨made, above, -, hreach, hgrown, hrun⟩ := run_refresh_absent hroot h habsent content
    rw [hrun]
    exact h.create hroot habsent hreach hgrown readOnlyMode content
  · by_cases heq : old = content
    · subst heq
      rw [run_refresh_same husable hfind]
      dsimp only
      split
      · exact h.put_file hroot hfind readOnlyMode old
      · exact h
    · rw [run_refresh_different husable hfind heq]
      exact h.put_file hroot hfind readOnlyMode content

/-! ## Section 4: From outside -/

/-- What may be done to a file from outside.  A call that fails leaves it as
    it is. -/
inductive Touch where
  | edit (content : Bytes)
  | chmod (mode : Nat)
  | delete

/-- The file system after something was done to the file at a path. -/
def Touch.apply (touch : Touch) (here : Place) (path : Path) (fs : FileSystem) : FileSystem :=
  match touch with
  | .edit content => (fs.write here path.text content).toOption.getD fs
  | .chmod mode => (fs.chmod here path.text mode).toOption.getD fs
  | .delete => (fs.remove? here path.text).getD fs

theorem IsReady.edit (hroot : root.IsNormal) (h : IsReady here root fs) (unstable : Bool)
    (content : Bytes) :
    IsReady here root (Touch.apply (.edit content) here (declarationFile root unstable) fs) := by
  have hpath := Cache.isProper_declarationFile hroot.proper unstable
  have hname := Cache.isPlain_declarationName unstable
  show IsReady here root
    ((fs.write here (declarationFile root unstable).text content).toOption.getD fs)
  rcases h.entry unstable with habsent | ⟨place, mode, old, hfind⟩
  · cases hloc : fs.locate here (declarationFile root unstable).text true with
    | error e =>
      have hwrite : fs.write here (declarationFile root unstable).text content = .error e := by
        unfold write
        rw [hloc]
        rfl
      rw [hwrite]
      exact h
    | ok place =>
      -- Writing goes as far as the directory, which is there already.
      obtain ⟨hreach, hlong⟩ := reach_of_locate hpath hloc
      rw [Cache.declarationFile_eq] at hreach
      obtain ⟨-, above, habove, hdir⟩ :=
        h.tree.reach_parent h.current hname.ne_dot hname.ne_dotDot hreach
      have hgrown : Grown fs fs above := .refl h.tree hdir
      obtain ⟨hnone, -⟩ := get?_of_isAbsent hroot h.tree habsent habove hgrown
      have hnew := locate_new hroot hlong habove hdir hnone true
      rw [write_of_none hnew hnone content]
      exact h.create hroot habsent habove hgrown newFileMode content
  · rw [write_of_find hfind content]
    exact h.put_file hroot hfind mode content

theorem IsReady.chmod (hroot : root.IsNormal) (h : IsReady here root fs) (unstable : Bool)
    (mode : Nat) :
    IsReady here root (Touch.apply (.chmod mode) here (declarationFile root unstable) fs) := by
  have hpath := Cache.isProper_declarationFile hroot.proper unstable
  show IsReady here root
    ((fs.chmod here (declarationFile root unstable).text mode).toOption.getD fs)
  rcases h.entry unstable with habsent | ⟨place, bits, content, hfind⟩
  · have hchmod : fs.chmod here (declarationFile root unstable).text mode = .error .noEntry := by
      unfold FileSystem.chmod
      rw [habsent.find_eq hpath]
      rfl
    rw [hchmod]
    exact h
  · rw [chmod_of_find hfind mode]
    exact h.put_file hroot hfind mode content

/-! ## Section 5: Deleting -/

/-- How a regular file at `place` stands at its path: in the directory `above`
    there is the file itself, or a link that leads to it. -/
structure EntryOf (here : Place) (root : Path) (unstable : Bool) (fs : FileSystem)
    (place above entry : Place) (node : Node) : Prop where
  eq_child : entry = above ++ [declarationName unstable]
  reach : fs.reach true here root = .ok above
  directory : fs.get? above = some .directory
  locate : fs.locate here (declarationFile root unstable).text false = .ok entry
  there : fs.get? entry = some node
  ne_directory : node ≠ .directory
  file : (∀ target, node ≠ .link target) → place = entry
  link : ∀ target, node = .link target → fs.Targets entry target place

theorem exists_entryOf (hroot : root.IsNormal) (h : IsReady here root fs)
    (hfind : fs.find here (declarationFile root unstable).text = .ok (place, .file mode content)) :
    ∃ above entry node, EntryOf here root unstable fs place above entry node := by
  have hpath := Cache.isProper_declarationFile hroot.proper unstable
  have hname := Cache.isPlain_declarationName unstable
  obtain ⟨hloc, hnode⟩ := find_eq_ok.1 hfind
  obtain ⟨hreach, hlong⟩ := reach_of_locate hpath hloc
  obtain ⟨-, above, habove, hdir⟩ := reach_of_find h.tree h.current hroot hfind
  have hentry := reach_child hname habove hdir
  -- The walk to the file comes to the directory, and takes one step from there.
  obtain ⟨left, hgo⟩ := walk_append habove hdir
  have hlast : fs.walk true left above [declarationName unstable] = .ok place := by
    rw [← hgo true _ (by simp), ← hreach, Cache.declarationFile_eq]
    rfl
  rw [walk_plain hname] at hlast
  rw [← Cache.declarationFile_eq] at hentry
  refine ⟨above, above ++ [declarationName unstable], ?_⟩
  cases hthere : fs.get? (above ++ [declarationName unstable]) with
  | none =>
    rw [hthere] at hlast
    obtain rfl := Except.ok.inj hlast
    rw [hthere] at hnode
    cases hnode
  | some node =>
    refine ⟨node, rfl, habove, hdir, locate_of_reach hpath hlong hentry, hthere, ?_, ?_, ?_⟩
    · rintro rfl
      simp only [hthere, walk_nil] at hlast
      obtain rfl := Except.ok.inj hlast
      rw [hthere] at hnode
      cases hnode
    · intro hnolink
      rw [hthere] at hlast
      cases node with
      | directory =>
        simp only [walk_nil] at hlast
        exact (Except.ok.inj hlast).symm
      | link target => exact absurd rfl (hnolink target)
      | file => exact (Except.ok.inj hlast).symm
      | tool => exact (Except.ok.inj hlast).symm
      | sink => exact (Except.ok.inj hlast).symm
    · rintro target rfl
      simp only [hthere] at hlast
      rw [if_neg (by simp)] at hlast
      cases left with
      | zero => cases hlast
      | succ left =>
        refine ⟨left, _, ?_, hnode, Node.isLeaf_file mode content⟩
        rw [List.dropLast_concat]
        simpa using hlast

section

variable {entry : Place} {node : Node}

/-- Only the entry is gone. -/
theorem EntryOf.get?_removed (he : EntryOf here root unstable fs place above entry node)
    (htree : fs.IsTree) (q : Place) :
    (fs.removeTree entry).get? q = if q = entry then none else fs.get? q :=
  htree.get?_removeTree he.there he.ne_directory q

theorem EntryOf.get?_kept (he : EntryOf here root unstable fs place above entry node)
    (htree : fs.IsTree) {q : Place} (hq : q ≠ entry) :
    (fs.removeTree entry).get? q = fs.get? q := by
  rw [he.get?_removed htree, if_neg hq]

/-- Walks to anything but the file do not come through its entry. -/
theorem EntryOf.reach_kept (he : EntryOf here root unstable fs place above entry node)
    (h : IsReady here root fs) {path : Path} {q : Place}
    (hreach : fs.reach true here path = .ok q) (hentry : q ≠ entry) (hq : q ≠ place) :
    (fs.removeTree entry).reach true here path = .ok q :=
  walk_removeTree h.tree (get?_start h.current path) he.there he.ne_directory hentry
    (fun target htarget => ⟨place, hq.symm, he.link target htarget⟩) hreach

theorem EntryOf.directory_kept (he : EntryOf here root unstable fs place above entry node)
    (h : IsReady here root fs) (hplace : fs.get? place ≠ some .directory) :
    (fs.removeTree entry).reach true here root = .ok above ∧
      (fs.removeTree entry).get? above = some .directory := by
  have hentry : above ≠ entry := by simp [he.eq_child]
  have hfile : above ≠ place := by
    rintro rfl
    exact hplace he.directory
  exact ⟨he.reach_kept h he.reach hentry hfile,
    (he.get?_kept h.tree hentry).trans he.directory⟩

/-- What is absent in the directory stays so, and the entry becomes so. -/
theorem EntryOf.isAbsent_removed (he : EntryOf here root unstable fs place above entry node)
    (hroot : root.IsNormal) (h : IsReady here root fs) (hplace : fs.get? place ≠ some .directory)
    {either : Bool} (hlong : ¬ IsTooLong (declarationFile root either))
    (hnone : (fs.removeTree entry).get? (above ++ [declarationName either]) = none) :
    (fs.removeTree entry).IsAbsent here (declarationFile root either) := by
  obtain ⟨hreach, hdir⟩ := he.directory_kept h hplace
  exact .inr ⟨_, locate_new hroot hlong hreach hdir hnone false, hnone⟩

/-- The other file is as it was. -/
theorem EntryOf.other_kept (he : EntryOf here root unstable fs place above entry node)
    (hroot : root.IsNormal) (h : IsReady here root fs)
    (hfind : fs.find here (declarationFile root unstable).text = .ok (place, .file mode content))
    (hplace : fs.get? place ≠ some .directory) :
    (fs.removeTree entry).IsAbsent here (declarationFile root !unstable) ∨
      (fs.removeTree entry).IsRegular here (declarationFile root !unstable) := by
  have hpath := Cache.isProper_declarationFile hroot.proper (!unstable)
  rcases h.entry (!unstable) with hmissing | ⟨q, bits, bytes, hregular⟩
  · obtain ⟨hnone, -⟩ := get?_of_isAbsent hroot h.tree hmissing he.reach (.refl h.tree he.directory)
    refine .inl (he.isAbsent_removed hroot h hplace (hmissing.not_isTooLong hpath) ?_)
    rw [he.get?_removed h.tree, hnone]
    split <;> rfl
  · obtain ⟨hloc, hnode⟩ := find_eq_ok.1 hregular
    obtain ⟨hreach, hlong⟩ := reach_of_locate hpath hloc
    have hq : q ≠ place := by
      rintro rfl
      exact h.apart unstable q _ _ hfind hregular
    -- A file that stands at the entry is the file of the mode.
    have hentry : q ≠ entry := by
      rintro rfl
      obtain rfl := Option.some.inj (he.there.symm.trans hnode)
      exact hq (he.file (by simp)).symm
    have hloc := locate_of_reach hpath hlong (he.reach_kept h hreach hentry hq)
    exact .inr ⟨q, bits, bytes, find_eq_ok.2 ⟨hloc, (he.get?_kept h.tree hentry).trans hnode⟩⟩

theorem IsReady.remove (hroot : root.IsNormal) (h : IsReady here root fs)
    (hfind : fs.find here (declarationFile root unstable).text = .ok (place, .file mode content))
    (he : EntryOf here root unstable fs place above entry node) :
    IsReady here root (fs.removeTree entry) := by
  have hpath := Cache.isProper_declarationFile hroot.proper unstable
  obtain ⟨hloc, hplace⟩ := find_eq_ok.1 hfind
  obtain ⟨-, hlong⟩ := reach_of_locate hpath hloc
  obtain ⟨hrootLong, -⟩ := reach_of_find h.tree h.current hroot hfind
  have hnodir : fs.get? place ≠ some .directory := by simp [hplace]
  obtain ⟨hreach, hdir⟩ := he.directory_kept h hnodir
  have htree := h.tree.removeTree he.there he.ne_directory
  have hcurrent : (fs.removeTree entry).get? here = some .directory := by
    refine (he.get?_kept h.tree ?_).trans h.current
    rintro rfl
    exact he.ne_directory (Option.some.inj (he.there.symm.trans h.current))
  have habsent : (fs.removeTree entry).IsAbsent here (declarationFile root unstable) := by
    refine he.isAbsent_removed hroot h hnodir hlong ?_
    rw [← he.eq_child, he.get?_removed h.tree, if_pos rfl]
  refine ⟨htree, hcurrent, h.usable, ?_, ?_, ?_⟩
  · exact either_mode unstable (.inl habsent) (he.other_kept hroot h hfind hnodir)
  · intro _ _
    exact ⟨_, ensureDirectories_of_directory htree hcurrent hroot.proper h.usable hrootLong hreach
      hdir⟩
  · refine apart_of_one unstable fun q there there' hfound => ?_
    rw [habsent.find_eq hpath] at hfound
    cases hfound

end

theorem IsReady.delete (hroot : root.IsNormal) (h : IsReady here root fs) (unstable : Bool) :
    IsReady here root (Touch.apply .delete here (declarationFile root unstable) fs) := by
  have hpath := Cache.isProper_declarationFile hroot.proper unstable
  show IsReady here root ((fs.remove? here (declarationFile root unstable).text).getD fs)
  unfold remove?
  rcases h.entry unstable with habsent | ⟨place, mode, content, hfind⟩
  · rcases habsent with hmissing | ⟨place, hloc, hnone⟩
    · rw [hmissing]
      exact h
    · rw [hloc]
      dsimp only
      rw [hnone]
      exact h
  · obtain ⟨above, entry, node, he⟩ := exists_entryOf hroot h hfind
    rw [he.locate]
    dsimp only
    rw [he.there]
    exact h.remove hroot hfind he

/-- Whatever is done to either file, the file system stays ready. -/
theorem IsReady.touch (hroot : root.IsNormal) (h : IsReady here root fs) (unstable : Bool)
    (touch : Touch) : IsReady here root (touch.apply here (declarationFile root unstable) fs) := by
  cases touch with
  | edit content => exact h.edit hroot unstable content
  | chmod mode => exact h.chmod hroot unstable mode
  | delete => exact h.delete hroot unstable

end DenoBridge.Declarations
