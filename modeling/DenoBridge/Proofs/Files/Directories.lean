import DenoBridge.Proofs.Files.Work
import DenoBridge.Proofs.Path.Normal

/-! # Making directories

    When a directory has been made with all that lead to it, it is there, and
    nothing else changed but that directories stand above it where nothing
    stood before (`grown_of_ensureDirectories`).  A directory that is there
    already is left alone (`ensureDirectories_of_directory`).
-/

namespace DenoBridge.FileSystem

variable {fs fs' : FileSystem} {here place : Place} {path : Path} {name : String}

/-! ## Section 1: Single calls -/

theorem isDirectory_text (h : path.IsProper) : fs.isDirectory here path.text = true ↔
    ¬ IsTooLong path ∧ ∃ place, fs.reach true here path = .ok place ∧
      fs.get? place = some .directory := by
  unfold isDirectory find
  rw [locate_text h]
  by_cases hlong : IsTooLong path
  · simp [hlong]
  · rw [if_neg hlong]
    cases hreach : fs.reach true here path with
    | error e => simp
    | ok place =>
      cases hnode : fs.get? place with
      | none => simp [hnode]
      | some node => cases node <;> simp [hnode, hlong]

theorem of_makeDirectory (h : path.IsProper) (hmake : fs.makeDirectory here path.text = .ok fs') :
    ¬ IsTooLong path ∧ ∃ place, fs.reach false here path = .ok place ∧ fs.get? place = none ∧
      fs' = fs.put place .directory := by
  unfold makeDirectory at hmake
  cases hloc : fs.locate here path.text false with
  | error e =>
    rw [hloc] at hmake
    cases hmake
  | ok place =>
    rw [hloc] at hmake
    obtain ⟨hreach, hlong⟩ := reach_of_locate h hloc
    cases hnode : fs.get? place with
    | some node =>
      simp only [bind, Except.bind, hnode] at hmake
      cases hmake
    | none =>
      simp only [bind, Except.bind, hnode] at hmake
      exact ⟨hlong, place, hreach, hnode, (Except.ok.inj hmake).symm⟩

theorem makeDirectory_of_reach (h : path.IsProper) (hlong : ¬ IsTooLong path)
    (hreach : fs.reach false here path = .ok place) (hnone : fs.get? place = none) :
    fs.makeDirectory here path.text = .ok (fs.put place .directory) := by
  unfold makeDirectory
  rw [locate_of_reach h hlong hreach]
  simp only [bind, Except.bind, hnone]

/-- Only a walk that ends early says that there is no entry. -/
theorem of_makeDirectory_noEntry (h : path.IsProper)
    (hmake : fs.makeDirectory here path.text = .error .noEntry) :
    ¬ IsTooLong path ∧ fs.reach false here path = .error .noEntry := by
  unfold makeDirectory at hmake
  rw [locate_text h] at hmake
  by_cases hlong : IsTooLong path
  · rw [if_pos hlong] at hmake
    cases hmake
  · rw [if_neg hlong] at hmake
    refine ⟨hlong, ?_⟩
    cases hreach : fs.reach false here path with
    | error e =>
      rw [hreach] at hmake
      obtain rfl : e = .noEntry := Except.error.inj hmake
      rfl
    | ok place =>
      rw [hreach] at hmake
      simp only [bind, Except.bind] at hmake
      split at hmake
      · cases hmake
      · cases hmake

/-! ## Section 2: Grown systems -/

/-- The second system has a directory at a place where the first may have had
    nothing, and directories above it; all else is the same. -/
structure Grown (fs fs' : FileSystem) (place : Place) : Prop where
  tree : fs'.IsTree
  directory : fs'.get? place = some .directory
  new : fs' = fs ∨ fs.get? place = none
  frame : ∀ q, fs'.get? q = fs.get? q ∨
    fs.get? q = none ∧ fs'.get? q = some .directory ∧ q <+: place

theorem Grown.refl (htree : fs.IsTree) (hplace : fs.get? place = some .directory) :
    Grown fs fs place :=
  ⟨htree, hplace, .inl rfl, fun _ => .inl rfl⟩

theorem Grown.keeps (h : Grown fs fs' place) : fs.Keeps fs' := by
  constructor
  · intro q hq
    rcases h.frame q with hsame | ⟨hnone, -, -⟩
    · rw [hsame, hq]
    · rw [hq] at hnone
      cases hnone
  · intro q target
    rcases h.frame q with hsame | ⟨hnone, hdir, -⟩
    · rw [hsame]
    · rw [hnone, hdir]
      simp

/-- Below the new directories there is nothing new. -/
theorem Grown.get?_child (h : Grown fs fs' place) (htree : fs.IsTree) (name : String) :
    fs'.get? (place ++ [name]) = fs.get? (place ++ [name]) ∧
      (fs.get? place ≠ some .directory → fs.get? (place ++ [name]) = none) := by
  refine ⟨?_, fun hdir => htree.get?_child hdir name⟩
  rcases h.frame (place ++ [name]) with hsame | ⟨-, -, hpre⟩
  · exact hsame
  · have hle := hpre.length_le
    rw [List.length_append, List.length_singleton] at hle
    omega

/-- One directory more below a grown system. -/
theorem Grown.put_child (h : Grown fs fs' place) (htree : fs.IsTree) (hnone : fs.get? place = none)
    (name : String) : Grown fs (fs'.put (place ++ [name]) .directory) (place ++ [name]) := by
  have hne : place ++ [name] ≠ [] := by simp
  have hold : fs.get? (place ++ [name]) = none := by
    refine (h.get?_child htree name).2 ?_
    rw [hnone]
    simp
  have hchild : fs'.get? (place ++ [name]) = none := (h.get?_child htree name).1.trans hold
  refine ⟨h.tree.put_new hchild ?_ _, get?_put_self fs' hne _, .inr hold, fun q => ?_⟩
  · rw [List.dropLast_concat]
    exact h.directory
  · by_cases hq : q = place ++ [name]
    · subst hq
      exact .inr ⟨hold, get?_put_self fs' hne _, List.prefix_rfl⟩
    · rw [get?_put_of_ne fs' hne _ hq]
      rcases h.frame q with hsame | ⟨hqnone, hdir, hpre⟩
      · exact .inl hsame
      · exact .inr ⟨hqnone, hdir, hpre.trans (List.prefix_append _ _)⟩

/-! ## Section 3: Making a directory with those above it -/

theorem isNormal_parent (h : path.IsNormal) : path.parent.IsNormal :=
  ⟨fun _ hname => h.proper _ (List.dropLast_subset _ hname), h.climbs.dropLast⟩

/-- The last name of a normal path that does not only climb. -/
theorem last_ne_dotDot (htree : fs.IsTree) (hhere : fs.get? here = some .directory)
    (hpath : path.IsNormal) {names : List String} (hnames : path.names = names ++ [name])
    (hwalk : ∀ place, fs.reach false here path = .ok place →
      fs.get? place ≠ some .directory) : name ≠ "." ∧ name ≠ ".." := by
  refine ⟨(hpath.proper name (by simp [hnames])).ne_dot, ?_⟩
  rintro rfl
  obtain ⟨-, hall⟩ := hpath.climbs.all_up (by simp [hnames])
  obtain ⟨place, hplace, hdir⟩ := htree.walk_up (get?_start hhere path) hall
  exact hwalk place hplace hdir

theorem eq_parent_append (h : path.names ≠ []) :
    path = ⟨path.parent.anchor, path.parent.names ++ [path.names.getLast h]⟩ := by
  obtain ⟨anchor, names⟩ := path
  simp [Path.parent, List.dropLast_append_getLast]

/-- A directory that could be made itself stands in a directory. -/
theorem grown_of_put (htree : fs.IsTree) (hhere : fs.get? here = some .directory)
    (hpath : path.IsNormal) (hreach : fs.reach false here path = .ok place)
    (hnone : fs.get? place = none) :
    (fs.put place .directory).reach true here path = .ok place ∧
      Grown fs (fs.put place .directory) place := by
  have hplace := ne_root_of_none hnone
  have hnolink : ∀ target, fs.get? place ≠ some (.link target) := by simp [hnone]
  have hkeeps : fs.Keeps (fs.put place .directory) :=
    Keeps.put hplace (by simp [hnone]) (by simp)
  refine ⟨hkeeps.walk (walk_follow hreach hnolink), ?_⟩
  -- A path of nothing but dots leads to a directory, so there is a last name.
  have hnames : path.names ≠ [] := by
    intro hempty
    unfold reach at hreach
    rw [hempty, walk_nil] at hreach
    obtain rfl := Except.ok.inj hreach
    rw [get?_start hhere path] at hnone
    cases hnone
  have hsplit := eq_parent_append hnames
  have hlast := last_ne_dotDot htree hhere hpath (congrArg Path.names hsplit) (by
    intro found hfound
    obtain rfl := Except.ok.inj (hreach.symm.trans hfound)
    simp [hnone])
  rw [hsplit] at hreach
  obtain ⟨hplain, above, habove, hdir⟩ := htree.reach_parent hhere hlast.1 hlast.2 hreach
  have hhere' := reach_child hplain habove hdir
  obtain rfl := Except.ok.inj (hreach.symm.trans hhere')
  refine ⟨htree.put_new hnone ?_ _, get?_put_self fs hplace _, .inr hnone, fun q => ?_⟩
  · rw [List.dropLast_concat]
    exact hdir
  · rw [get?_put fs hplace]
    split
    · rename_i hq
      subst hq
      exact .inr ⟨hnone, rfl, List.prefix_rfl⟩
    · exact .inl rfl

theorem grown_of_isDirectory (htree : fs.IsTree) (h : path.IsProper)
    (hdir : fs.isDirectory here path.text = true) :
    ¬ IsTooLong path ∧ ∃ place, fs.reach true here path = .ok place ∧ Grown fs fs place := by
  obtain ⟨hlong, place, hreach, hplace⟩ := (isDirectory_text h).1 hdir
  exact ⟨hlong, place, hreach, .refl htree hplace⟩

/-- The last directory of a path, when the one above it had to be made. -/
theorem grown_of_ensureDirectory {made : FileSystem} (htree : fs.IsTree)
    (hhere : fs.get? here = some .directory) (hpath : path.IsNormal) (hnames : path.names ≠ [])
    (hmissing : fs.reach false here path = .error .noEntry)
    (habove : made.reach true here path.parent = .ok place) (hgrown : Grown fs made place)
    (h : (ensureDirectory here path).run made = (.ok (), fs')) (husable : isUnusable path = false) :
    ∃ place, fs'.reach true here path = .ok place ∧ Grown fs fs' place := by
  have hsplit := eq_parent_append hnames
  generalize path.names.getLast hnames = last at hsplit
  obtain ⟨hdot, hup⟩ := last_ne_dotDot htree hhere hpath (congrArg Path.names hsplit) (by
    intro found hfound
    rw [hmissing] at hfound
    cases hfound)
  have hmadeHere := hgrown.keeps.directory _ hhere
  -- Whichever way the last call went well, the path was walked to its end.
  have hwalked : ¬ IsTooLong path ∧ ∃ follow place, made.reach follow here path = .ok place := by
    rw [run_ensureDirectory husable] at h
    cases hmake : made.makeDirectory here path.text with
    | ok next =>
      obtain ⟨hlong, found, hfound, -⟩ := of_makeDirectory hpath.proper hmake
      exact ⟨hlong, false, found, hfound⟩
    | error e =>
      rw [hmake] at h
      dsimp only at h
      split at h
      · rename_i hdir
        obtain ⟨hlong, found, hfound, -⟩ := (isDirectory_text hpath.proper).1 hdir
        exact ⟨hlong, true, found, hfound⟩
      · cases h
  obtain ⟨hlong, follow, found, hfound⟩ := hwalked
  rw [hsplit] at hfound
  obtain ⟨hplain, -⟩ := hgrown.tree.reach_parent hmadeHere hdot hup hfound
  have hreach := reach_child hplain habove hgrown.directory
  rw [← hsplit] at hreach
  -- Had nothing been made, the path would still be missing.
  rcases hgrown.new with rfl | hnone
  · rw [hmissing] at hreach
    cases hreach
  · have hchild := hgrown.put_child htree hnone last
    have hempty : made.get? (place ++ [last]) = none := by
      have hdir : fs.get? place ≠ some .directory := by simp [hnone]
      obtain ⟨hsame, hold⟩ := hgrown.get?_child htree last
      exact hsame.trans (hold hdir)
    rw [run_ensureDirectory husable,
      makeDirectory_of_reach hpath.proper hlong hreach hempty] at h
    obtain rfl : made.put (place ++ [last]) .directory = fs' := congrArg Prod.snd h
    have hkeeps : made.Keeps (made.put (place ++ [last]) .directory) :=
      Keeps.put (by simp) (by simp [hempty]) (by simp)
    exact ⟨_, hkeeps.walk (walk_follow hreach (by simp [hempty])), hchild⟩

theorem grown_of_ensureDirectories (htree : fs.IsTree) (hhere : fs.get? here = some .directory)
    (hpath : path.IsNormal) (h : (ensureDirectories here path).run fs = (.ok (), fs')) :
    ¬ IsTooLong path ∧ ∃ place, fs'.reach true here path = .ok place ∧ Grown fs fs' place := by
  -- Each round goes to the directory above, which has one name less.
  induction hlength : path.names.length using Nat.strongRecOn generalizing path fs' with
  | _ n ih =>
    have husable := usable_of_run_ensureDirectories h
    rw [run_ensureDirectories husable] at h
    cases hmake : fs.makeDirectory here path.text with
    | ok made =>
      rw [hmake] at h
      obtain rfl : made = fs' := congrArg Prod.snd h
      obtain ⟨hlong, place, hreach, hnone, rfl⟩ := of_makeDirectory hpath.proper hmake
      exact ⟨hlong, place, grown_of_put htree hhere hpath hreach hnone⟩
    | error e =>
      rw [hmake] at h
      have hthere (h : (if fs.isDirectory here path.text then (.ok (), fs)
          else (.error (FileFault.os ⟨e, path.text⟩), fs)) = (Except.ok (), fs')) :
          ¬ IsTooLong path ∧ ∃ place, fs'.reach true here path = .ok place ∧
            Grown fs fs' place := by
        split at h
        · rename_i hdir
          obtain rfl : fs = fs' := congrArg Prod.snd h
          exact grown_of_isDirectory htree hpath.proper hdir
        · cases h
      cases e with
      | noEntry =>
        obtain ⟨hlong, hmissing⟩ := of_makeDirectory_noEntry hpath.proper hmake
        dsimp only at h
        split at h
        · cases h
        · rename_i hnames
          have hless : path.parent.names.length < n := by
            rw [← hlength, Path.parent, List.length_dropLast]
            have := List.length_pos_iff.2 hnames
            omega
          cases hparent : (ensureDirectories here path.parent).run fs with
          | mk r made =>
            rw [hparent] at h
            cases r with
            | error fault => cases h
            | ok =>
              obtain ⟨-, place, habove, hgrown⟩ :=
                ih _ hless (isNormal_parent hpath) hparent rfl
              exact ⟨hlong, grown_of_ensureDirectory htree hhere hpath hnames hmissing habove
                hgrown h husable⟩
      | _ => exact hthere h

/-- What is a directory already is left as it is. -/
theorem ensureDirectories_of_directory (htree : fs.IsTree) (hhere : fs.get? here = some .directory)
    (hpath : path.IsProper) (husable : isUnusable path = false) (hlong : ¬ IsTooLong path)
    (hreach : fs.reach true here path = .ok place) (hplace : fs.get? place = some .directory) :
    (ensureDirectories here path).run fs = (.ok (), fs) := by
  have hdots : ∀ q node, fs.get? q = some node → ∃ above, fs.get? q.dropLast = some above := by
    intro q node hnode
    by_cases hq : q = []
    · exact ⟨.directory, by rw [hq]; rfl⟩
    · exact ⟨_, htree.get?_dropLast hnode hq⟩
  obtain ⟨found, hfound, node, hnode⟩ :=
    walk_nofollow hreach ⟨_, get?_start hhere path⟩ hdots ⟨_, hplace⟩
  have hmake : fs.makeDirectory here path.text = .error .exists := by
    unfold makeDirectory
    rw [locate_of_reach hpath hlong hfound]
    simp only [bind, Except.bind, hnode]
  have hdir := (isDirectory_text hpath).2 ⟨hlong, place, hreach, hplace⟩
  rw [run_ensureDirectories husable, hmake]
  simp only [hdir, if_true]

end DenoBridge.FileSystem
