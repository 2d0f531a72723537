import DenoBridge.Proofs.Files.Directories
import DenoBridge.Proofs.Files.Spelling

/-! # Directories made in part

    Making a directory with all that lead to it may fail on the way.  Whatever
    comes of it, the directories were made down to some place at which nothing
    stood, or nothing was done (`begun_of_ensureDirectories`).  Below such a
    place there is nothing yet, so that a path through it is still missing
    (`Begun.get?_child`) and what is left of it can be made
    (`Begun.makeable`).
-/

namespace DenoBridge.Path

variable {path : Path} {front back : List String}

/-! ## Section 1: The first names of a path -/

/-- The path of the first names of a path. -/
def first (path : Path) (count : Nat) : Path :=
  ⟨path.anchor, path.names.take count⟩

theorem first_length (path : Path) : path.first path.names.length = path := by
  rw [first, List.take_length]

theorem first_first (path : Path) (count count' : Nat) :
    (path.first count).first count' = path.first (min count' count) := by
  simp only [first, List.take_take]

theorem parent_eq_first (path : Path) : path.parent = path.first (path.names.length - 1) := by
  rw [parent, first, List.dropLast_eq_take]

theorem Climbs.take {anchor : Anchor} {names : List String} (h : Climbs anchor names)
    (count : Nat) : Climbs anchor (names.take count) := by
  induction h generalizing count with
  | ordinary hnames => exact .ordinary fun hmem => hnames (List.mem_of_mem_take hmem)
  | up hrel _ ih =>
    cases count with
    | zero => exact .ordinary (by simp)
    | succ count => exact .up hrel (ih count)

theorem isNormal_first (h : path.IsNormal) (count : Nat) : (path.first count).IsNormal :=
  ⟨fun name hname => h.proper name (List.mem_of_mem_take hname), h.climbs.take count⟩

/-- Whatever stands before a `..` is one too. -/
theorem Climbs.all_up_before {anchor : Anchor} (h : Climbs anchor (front ++ back))
    (hback : ".." ∈ back) : ∀ name ∈ front, name = ".." := by
  induction front with
  | nil => simp
  | cons first front ih =>
    cases h with
    | ordinary hnames => exact absurd (by simp [hback]) hnames
    | up _ h =>
      intro name hname
      rcases List.mem_cons.1 hname with rfl | hname
      · rfl
      · exact ih h name hname

end DenoBridge.Path

namespace DenoBridge.FileSystem

variable {fs fs' made : FileSystem} {here place : Place} {path : Path} {name : String}
variable {rest : List String} {follow : Bool} {links count : Nat}

/-! ## Section 2: Whatever comes of it -/

/-- Directories were made down to a place at which nothing stood before; the
    first names of a path lead there. -/
structure Begun (here : Place) (path : Path) (fs fs' : FileSystem) (count : Nat) (place : Place) :
    Prop where
  reach : fs'.reach true here (path.first count) = .ok place
  grown : Grown fs fs' place
  new : fs.get? place = none

theorem Begun.of_first {limit : Nat} (h : Begun here (path.first limit) fs fs' count place) :
    Begun here path fs fs' (min count limit) place := by
  refine ⟨?_, h.grown, h.new⟩
  rw [← Path.first_first]
  exact h.reach

theorem begun_of_ok (htree : fs.IsTree) (hhere : fs.get? here = some .directory)
    (hpath : path.IsNormal) (h : (ensureDirectories here path).run fs = (.ok (), fs')) :
    fs' = fs ∨ ∃ count place, Begun here path fs fs' count place := by
  obtain ⟨-, place, hreach, hgrown⟩ := grown_of_ensureDirectories htree hhere hpath h
  rcases hgrown.new with hsame | hnone
  · exact .inl hsame
  · refine .inr ⟨path.names.length, place, ?_, hgrown, hnone⟩
    rw [Path.first_length]
    exact hreach

/-- A failure leaves what making the directories above leaves, or what was
    there. -/
theorem left_of_failure {fault : FileFault}
    (h : (ensureDirectories here path).run fs = (.error fault, fs')) :
    fs' = fs ∨ path.names ≠ [] ∧ fs' = ((ensureDirectories here path.parent).run fs).2 := by
  by_cases hnul : isUnusable path = true
  · rw [ensureDirectories, run_tryCatch, run_change_unusable hnul] at h
    exact .inl (congrArg Prod.snd h).symm
  · have husable := Bool.not_eq_true _ ▸ hnul
    rw [run_ensureDirectories husable] at h
    cases hmake : fs.makeDirectory here path.text with
    | ok made =>
      rw [hmake] at h
      cases h
    | error e =>
      rw [hmake] at h
      cases e with
      | noEntry =>
        dsimp only at h
        split at h
        · exact .inl (congrArg Prod.snd h).symm
        · rename_i hnames
          refine .inr ⟨hnames, ?_⟩
          split at h
          · rename_i above hparent
            -- The last directory fails, and that leaves what is there.
            rw [hparent]
            rw [run_ensureDirectory husable] at h
            split at h
            · cases h
            · split at h
              · cases h
              · exact (congrArg Prod.snd h).symm
          · rename_i above hparent
            rw [hparent]
            exact (congrArg Prod.snd h).symm
      | _ =>
        dsimp only at h
        split at h
        · cases h
        · exact .inl (congrArg Prod.snd h).symm

/-- Whatever comes of making directories, they were made down to some place,
    or nothing was done. -/
theorem begun_of_ensureDirectories (htree : fs.IsTree) (hhere : fs.get? here = some .directory)
    (hpath : path.IsNormal) {result : Except FileFault Unit}
    (h : (ensureDirectories here path).run fs = (result, fs')) :
    fs' = fs ∨ ∃ count place, Begun here path fs fs' count place := by
  -- Each failure leads to the directory above, whose path has one name less.
  induction hlength : path.names.length using Nat.strongRecOn generalizing path result fs' with
  | _ n ih =>
    cases result with
    | ok => exact begun_of_ok htree hhere hpath h
    | error fault =>
      rcases left_of_failure h with hsame | ⟨hnames, hleft⟩
      · exact .inl hsame
      · have hless : path.parent.names.length < n := by
          rw [← hlength, Path.parent, List.length_dropLast]
          have := List.length_pos_iff.2 hnames
          omega
        have hparent : (ensureDirectories here path.parent).run fs =
            (((ensureDirectories here path.parent).run fs).1, fs') :=
          Prod.ext rfl hleft.symm
        rcases ih _ hless (isNormal_parent hpath) hparent rfl with hsame | ⟨count, place, hbegun⟩
        · exact .inl hsame
        · rw [Path.parent_eq_first] at hbegun
          exact .inr ⟨_, place, hbegun.of_first⟩

/-! ## Section 3: Below the new directories -/

/-- Nothing stands below the place. -/
def IsBare (fs : FileSystem) (place : Place) : Prop :=
  ∀ name, fs.get? (place ++ [name]) = none

theorem Begun.isBare (h : Begun here path fs fs' count place) (htree : fs.IsTree) :
    fs'.IsBare place := by
  intro name
  obtain ⟨hsame, hold⟩ := h.grown.get?_child htree name
  exact hsame.trans (hold (by simp [h.new]))

/-- A walk that goes on from a bare place ends one name below it. -/
theorem eq_child_of_walk (hbare : fs.IsBare place) (hdot : name ≠ ".") (hup : name ≠ "..")
    {found : Place} (hwalk : fs.walk follow links place (name :: rest) = .ok found) :
    found = place ++ [name] := by
  have hplain := isPlain_of_walk hdot hup hwalk
  rw [walk_plain hplain, hbare name] at hwalk
  dsimp only at hwalk
  split at hwalk
  · exact (Except.ok.inj hwalk).symm
  · cases hwalk

/-- The names that are left to make are ordinary ones. -/
theorem Begun.ordinary (h : Begun here path fs fs' count place) (htree : fs.IsTree)
    (hhere : fs.get? here = some .directory) (hpath : path.IsNormal) :
    ∀ name ∈ path.names.drop count, name ≠ "." ∧ name ≠ ".." := by
  intro name hname
  refine ⟨(hpath.proper name (List.mem_of_mem_drop hname)).ne_dot, ?_⟩
  rintro rfl
  -- Before a `..` there is nothing but climbing, which leads to old directories.
  have hclimbs := hpath.climbs
  rw [← List.take_append_drop count path.names] at hclimbs
  obtain ⟨old, hreach, hdir⟩ : ∃ old, fs.reach true here (path.first count) = .ok old ∧
      fs.get? old = some .directory :=
    htree.walk_up (get?_start hhere path) (hclimbs.all_up_before hname)
  obtain rfl := Except.ok.inj ((h.grown.keeps.walk hreach).symm.trans h.reach)
  rw [h.new] at hdir
  cases hdir

/-- The walk to a child goes through the new directories. -/
theorem Begun.reach_child (h : Begun here path fs fs' count place) (name : String) :
    ∃ left, ∀ follow, fs'.reach follow here ⟨path.anchor, path.names ++ [name]⟩ =
      fs'.walk follow left place (path.names.drop count ++ [name]) := by
  obtain ⟨left, hgo⟩ := walk_append h.reach h.grown.directory
  have hsplit : path.names ++ [name] =
      (path.first count).names ++ (path.names.drop count ++ [name]) := by
    rw [← List.append_assoc, Path.first, List.take_append_drop]
  refine ⟨left, fun follow => ?_⟩
  unfold FileSystem.reach
  rw [hsplit]
  exact hgo follow _ (by simp)

/-- A child of the path is missing still. -/
theorem Begun.get?_child (h : Begun here path fs fs' count place) (htree : fs.IsTree)
    (hhere : fs.get? here = some .directory) (hpath : path.IsNormal) (hdot : name ≠ ".")
    (hup : name ≠ "..") {found : Place}
    (hreach : fs'.reach follow here ⟨path.anchor, path.names ++ [name]⟩ = .ok found) :
    fs'.get? found = none := by
  obtain ⟨left, hgo⟩ := h.reach_child name
  have hbare := h.isBare htree
  have hordinary := h.ordinary htree hhere hpath
  rw [hgo] at hreach
  cases hrest : path.names.drop count with
  | nil =>
    rw [hrest] at hreach
    rw [eq_child_of_walk hbare hdot hup hreach, hbare name]
  | cons next more =>
    rw [hrest] at hreach hordinary
    obtain ⟨hnextDot, hnextUp⟩ := hordinary next List.mem_cons_self
    rw [eq_child_of_walk hbare hnextDot hnextUp hreach, hbare next]

/-- With names that are short enough, the walk to the child says that it is
    missing. -/
theorem Begun.isAbsent_child (h : Begun here path fs fs' count place) (htree : fs.IsTree)
    (hchild : Path.IsProper ⟨path.anchor, path.names ++ [name]⟩)
    (hlong : ¬ IsTooLong ⟨path.anchor, path.names ++ [name]⟩) (hname : IsPlain name)
    (hplain : ∀ name ∈ path.names.drop count, IsPlain name) :
    fs'.IsAbsent here ⟨path.anchor, path.names ++ [name]⟩ := by
  obtain ⟨left, hgo⟩ := h.reach_child name
  have hbare := h.isBare htree
  unfold IsAbsent
  rw [locate_text hchild, if_neg hlong, hgo]
  cases hrest : path.names.drop count with
  | nil => exact .inr ⟨_, walk_last hname (.inl rfl), hbare name⟩
  | cons next more =>
    rw [hrest] at hplain
    exact .inl (walk_none (hplain next List.mem_cons_self) (hbare next) (by simp))

/-- A new directory in a directory. -/
theorem put_directory_child (hplain : IsPlain name) (htree : fs.IsTree)
    (hreach : fs.reach true here path = .ok place) (hdir : fs.get? place = some .directory)
    (hnone : fs.get? (place ++ [name]) = none) :
    (fs.put (place ++ [name]) .directory).IsTree ∧
      (fs.put (place ++ [name]) .directory).reach true here
        ⟨path.anchor, path.names ++ [name]⟩ = .ok (place ++ [name]) ∧
      (fs.put (place ++ [name]) .directory).get? (place ++ [name]) = some .directory ∧
      (fs.put (place ++ [name]) .directory).IsBare (place ++ [name]) := by
  have hne : place ++ [name] ≠ [] := by simp
  have hkeeps : fs.Keeps (fs.put (place ++ [name]) .directory) :=
    Keeps.put hne (by simp [hnone]) (by simp)
  refine ⟨htree.put_new hnone ?_ _, hkeeps.walk ?_, get?_put_self fs hne _, fun next => ?_⟩
  · rw [List.dropLast_concat]
    exact hdir
  · exact reach_child_follow hplain hreach hdir (by simp [hnone])
  · rw [get?_put_of_ne fs hne _ (by simp)]
    exact htree.get?_child (by simp [hnone]) next

/-- A path on which calls can be made. -/
structure IsCallable (path : Path) : Prop where
  proper : path.IsProper
  usable : isUnusable path = false
  short : ¬ IsTooLong path

theorem IsCallable.of_append {anchor : Anchor} {names more : List String}
    (h : IsCallable ⟨anchor, names ++ more⟩) : IsCallable ⟨anchor, names⟩ := by
  refine ⟨fun name hname => h.proper name (List.mem_append_left more hname), ?_, ?_⟩
  · rw [← Bool.not_eq_true]
    intro hnul
    have husable := h.usable
    rw [isUnusable_append hnul more] at husable
    cases husable
  · exact fun hlong => h.short (isTooLong_append hlong more)

section

variable {anchor : Anchor} {names front : List String} {last : String} {above : FileSystem}

/-- What making directories leaves below a bare place: the last of them, with
    nothing in it. -/
structure MadeBelow (here : Place) (anchor : Anchor) (names rest : List String) (place : Place)
    (fs made : FileSystem) : Prop where
  run : (ensureDirectories here ⟨anchor, names ++ rest⟩).run fs = (.ok (), made)
  tree : made.IsTree
  reach : made.reach true here ⟨anchor, names ++ rest⟩ = .ok (place ++ rest)
  directory : made.get? (place ++ rest) = some .directory
  isBare : made.IsBare (place ++ rest)

/-- At the bare place itself there is nothing to make. -/
theorem madeBelow_nil (htree : fs.IsTree) (hhere : fs.get? here = some .directory)
    (hcall : IsCallable ⟨anchor, names⟩) (hreach : fs.reach true here ⟨anchor, names⟩ = .ok place)
    (hdir : fs.get? place = some .directory) (hbare : fs.IsBare place) :
    MadeBelow here anchor names [] place fs fs := by
  refine ⟨?_, htree, ?_, ?_, ?_⟩
  · rw [List.append_nil]
    exact ensureDirectories_of_directory htree hhere hcall.proper hcall.usable hcall.short hreach
      hdir
  · simpa using hreach
  · simpa using hdir
  · simpa using hbare

/-- Nothing is found below a place where nothing stands. -/
theorem makeDirectory_below (h : MadeBelow here anchor names [] place fs fs)
    (hcall : IsCallable ⟨anchor, names ++ (front ++ [last])⟩) (hfront : front ≠ [])
    (hplain : ∀ name ∈ front, IsPlain name) :
    fs.makeDirectory here (Path.text ⟨anchor, names ++ (front ++ [last])⟩) = .error .noEntry := by
  obtain ⟨next, more, rfl⟩ := List.exists_cons_of_ne_nil hfront
  have hreach := h.reach
  have hdir := h.directory
  have hbare := h.isBare
  rw [List.append_nil] at hdir hbare
  rw [List.append_nil, List.append_nil] at hreach
  obtain ⟨left, hgo⟩ := walk_append hreach hdir
  have hmissing : fs.reach false here ⟨anchor, names ++ (next :: more ++ [last])⟩ =
      .error .noEntry := by
    unfold FileSystem.reach
    refine (hgo false _ (by simp)).trans ?_
    exact walk_none (hplain next List.mem_cons_self) (hbare next) (by simp)
  unfold makeDirectory
  rw [locate_text hcall.proper, if_neg hcall.short, hmissing]
  rfl

/-- The last directory is made in a system that has the one above it. -/
theorem MadeBelow.run_concat (h : MadeBelow here anchor names [] place fs fs)
    (habove : MadeBelow here anchor names front place fs above)
    (hcall : IsCallable ⟨anchor, names ++ (front ++ [last])⟩)
    (hplain : ∀ name ∈ front ++ [last], IsPlain name) :
    (ensureDirectories here ⟨anchor, names ++ (front ++ [last])⟩).run fs =
      (.ok (), above.put (place ++ front ++ [last]) .directory) := by
  have hlast := hplain last (by simp)
  have hmake : above.makeDirectory here (Path.text ⟨anchor, names ++ (front ++ [last])⟩) =
      .ok (above.put (place ++ front ++ [last]) .directory) := by
    have hchild := reach_child hlast habove.reach habove.directory
    dsimp only at hchild
    rw [List.append_assoc] at hchild
    exact makeDirectory_of_reach hcall.proper hcall.short hchild (habove.isBare last)
  rw [run_ensureDirectories hcall.usable]
  by_cases hfront : front = []
  · subst hfront
    -- The directory above is there from the beginning.
    obtain ⟨-, rfl⟩ := Prod.mk.inj (h.run.symm.trans habove.run)
    rw [hmake]
  · have hparent : Path.parent ⟨anchor, names ++ (front ++ [last])⟩ = ⟨anchor, names ++ front⟩ := by
      rw [Path.parent, ← List.append_assoc, List.dropLast_concat]
    rw [makeDirectory_below h hcall hfront fun name hname => hplain name (by simp [hname])]
    dsimp only
    rw [if_neg (by simp), hparent, habove.run]
    dsimp only
    rw [run_ensureDirectory hcall.usable, hmake]

/-- Below a bare place everything can be made. -/
theorem exists_madeBelow (h : MadeBelow here anchor names [] place fs fs)
    (hcall : IsCallable ⟨anchor, names ++ rest⟩) (hplain : ∀ name ∈ rest, IsPlain name) :
    ∃ made, MadeBelow here anchor names rest place fs made := by
  induction rest using List.reverseRecOn with
  | nil => exact ⟨fs, h⟩
  | append_singleton front last ih =>
    have hfront : IsCallable ⟨anchor, names ++ front⟩ := by
      rw [← List.append_assoc] at hcall
      exact hcall.of_append
    obtain ⟨above, habove⟩ := ih hfront fun name hname => hplain name (by simp [hname])
    obtain ⟨htree, hreach, hdir, hbare⟩ := put_directory_child (hplain last (by simp)) habove.tree
      habove.reach habove.directory (habove.isBare last)
    refine ⟨_, h.run_concat habove hcall hplain, htree, ?_, ?_, ?_⟩
    · rw [← List.append_assoc, ← List.append_assoc]
      exact hreach
    · rw [← List.append_assoc]
      exact hdir
    · rw [← List.append_assoc]
      exact hbare

end

/-- The ordinary names on a way that can be gone are short enough. -/
theorem isPlain_of_reach {anchor : Anchor} {names : List String} (htree : fs.IsTree)
    (hhere : fs.get? here = some .directory)
    (hrest : ∀ name ∈ rest, name ≠ "." ∧ name ≠ "..")
    (hreach : fs.reach true here ⟨anchor, names ++ rest⟩ = .ok place) :
    ∀ name ∈ rest, IsPlain name := by
  induction rest using List.reverseRecOn generalizing place with
  | nil => simp
  | append_singleton front last ih =>
    obtain ⟨hdot, hup⟩ := hrest last (by simp)
    let parent : Path := ⟨anchor, names ++ front⟩
    have hchild : fs.reach true here ⟨parent.anchor, parent.names ++ [last]⟩ = .ok place := by
      rw [← List.append_assoc] at hreach
      exact hreach
    obtain ⟨hlast, above, habove, -⟩ := htree.reach_parent hhere hdot hup hchild
    intro name hname
    rcases List.mem_append.1 hname with hname | hname
    · exact ih (fun other hother => hrest other (List.mem_append_left _ hother)) habove name hname
    · obtain rfl : name = last := by simpa using hname
      exact hlast

/-- What is left to make of a path that can be made has names that are short
    enough. -/
theorem Begun.isPlain (h : Begun here path fs fs' count place) (htree : fs.IsTree)
    (hhere : fs.get? here = some .directory) (hpath : path.IsNormal)
    (hmake : (ensureDirectories here path).run fs = (.ok (), made)) :
    ∀ name ∈ path.names.drop count, IsPlain name := by
  obtain ⟨-, top, htop, hgrown⟩ := grown_of_ensureDirectories htree hhere hpath hmake
  have hwhole : made.reach true here ⟨path.anchor, path.names.take count ++
      path.names.drop count⟩ = .ok top := by
    rw [List.take_append_drop]
    exact htop
  exact isPlain_of_reach hgrown.tree (hgrown.keeps.directory _ hhere)
    (h.ordinary htree hhere hpath) hwhole

/-- What could be made before can be made once a part of it was made. -/
theorem Begun.makeable (h : Begun here path fs fs' count place) (htree : fs.IsTree)
    (hhere : fs.get? here = some .directory) (hpath : path.IsNormal)
    (hmake : (ensureDirectories here path).run fs = (.ok (), made)) :
    ∃ made', (ensureDirectories here path).run fs' = (.ok (), made') := by
  have hwhole : path = ⟨path.anchor, path.names.take count ++ path.names.drop count⟩ := by
    rw [List.take_append_drop]
  have hplain := h.isPlain htree hhere hpath hmake
  obtain ⟨hlong, -⟩ := grown_of_ensureDirectories htree hhere hpath hmake
  have hcall : IsCallable path := ⟨hpath.proper, usable_of_run_ensureDirectories hmake, hlong⟩
  rw [hwhole] at hcall
  -- The names that are left lead from the last new directory into nothing.
  have hstart := madeBelow_nil h.grown.tree (h.grown.keeps.directory _ hhere) hcall.of_append
    h.reach h.grown.directory (h.isBare htree)
  obtain ⟨made', hmade⟩ := exists_madeBelow hstart hcall hplain
  rw [hwhole]
  exact ⟨made', hmade.run⟩

end DenoBridge.FileSystem
