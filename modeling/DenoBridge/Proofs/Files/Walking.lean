import DenoBridge.Proofs.Files.Nodes

/-! # Walks

    What a walk meets name by name, and what follows for whole walks: a walk
    that succeeds does so in every system with the same directories and links
    (`Keeps.walk`), two systems of the same shape are walked alike
    (`SameShape.walk_eq`), and a walk over more names goes on where the walk
    over the first of them ended (`walk_append`).
-/

namespace DenoBridge.FileSystem

variable {fs fs' : FileSystem} {follow : Bool} {links : Nat} {here place : Place}
variable {name : String} {names rest : List String}

/-! ## Section 1: One name -/

/-- A name that is looked up in a directory. -/
structure IsPlain (name : String) : Prop where
  ne_dot : name ≠ "."
  ne_dotDot : name ≠ ".."
  short : ¬ name.utf8ByteSize > nameLimit

@[simp]
theorem walk_nil : fs.walk follow links here [] = .ok here := by
  rw [walk]

theorem walk_dot : fs.walk follow links here ("." :: rest) = fs.walk follow links here rest := by
  rw [walk, if_pos rfl]

theorem walk_dotDot :
    fs.walk follow links here (".." :: rest) = fs.walk follow links here.dropLast rest := by
  rw [walk, if_neg (by decide), if_pos rfl]

theorem walk_long (hdot : name ≠ ".") (hup : name ≠ "..") (hlong : name.utf8ByteSize > nameLimit) :
    fs.walk follow links here (name :: rest) = .error .nameTooLong := by
  rw [walk, if_neg hdot, if_neg hup, if_pos hlong]

theorem walk_plain (h : IsPlain name) : fs.walk follow links here (name :: rest) =
    match fs.get? (here ++ [name]) with
    | none => if rest = [] then .ok (here ++ [name]) else .error .noEntry
    | some .directory => fs.walk follow links (here ++ [name]) rest
    | some (.link target) =>
      if rest = [] ∧ !follow then .ok (here ++ [name])
      else
        match links with
        | 0 => .error .tooManyLinks
        | links + 1 =>
          fs.walk follow links (if target.toList.head? = some '/' then [] else here)
            (namesIn target ++ rest)
    | some _ => if rest = [] then .ok (here ++ [name]) else .error .notDirectory := by
  rewrite [walk, if_neg h.ne_dot, if_neg h.ne_dotDot, if_neg h.short]
  rfl

theorem walk_none (h : IsPlain name) (hnone : fs.get? (here ++ [name]) = none) (hrest : rest ≠ []) :
    fs.walk follow links here (name :: rest) = .error .noEntry := by
  rw [walk_plain h, hnone]
  simp [hrest]

theorem walk_directory (h : IsPlain name) (hdir : fs.get? (here ++ [name]) = some .directory) :
    fs.walk follow links here (name :: rest) = fs.walk follow links (here ++ [name]) rest := by
  rw [walk_plain h, hdir]

theorem walk_link (h : IsPlain name) {target : String}
    (hlink : fs.get? (here ++ [name]) = some (.link target)) (hgo : ¬ (rest = [] ∧ !follow)) :
    fs.walk follow (links + 1) here (name :: rest) =
      fs.walk follow links (if target.toList.head? = some '/' then [] else here)
        (namesIn target ++ rest) := by
  rw [walk_plain h, hlink]
  simp only [hgo, if_false]

theorem walk_link_zero (h : IsPlain name) {target : String}
    (hlink : fs.get? (here ++ [name]) = some (.link target)) (hgo : ¬ (rest = [] ∧ !follow)) :
    fs.walk follow 0 here (name :: rest) = .error .tooManyLinks := by
  rw [walk_plain h, hlink]
  simp only [hgo, if_false]

/-- The target of a link is walked from a directory. -/
theorem get?_target (hhere : fs.get? here = some .directory) (target : String) :
    fs.get? (if target.toList.head? = some '/' then [] else here) = some .directory := by
  split
  · exact get?_root fs
  · exact hhere

theorem walk_leaf (h : IsPlain name) {node : Node} (hnode : fs.get? (here ++ [name]) = some node)
    (hleaf : node.IsLeaf) (hrest : rest ≠ []) :
    fs.walk follow links here (name :: rest) = .error .notDirectory := by
  rw [walk_plain h, hnode]
  cases node with
  | directory => exact absurd rfl hleaf.ne_directory
  | link target => exact absurd rfl (hleaf.ne_link target)
  | file => simp [hrest]
  | tool => simp [hrest]
  | sink => simp [hrest]

/-- The last name is reached whatever stands there, unless a link is to be
    followed. -/
theorem walk_last (h : IsPlain name)
    (hlink : follow = false ∨ ∀ target, fs.get? (here ++ [name]) ≠ some (.link target)) :
    fs.walk follow links here [name] = .ok (here ++ [name]) := by
  rw [walk_plain h]
  split
  · rw [if_pos rfl]
  · exact walk_nil
  · rename_i target htarget
    rcases hlink with rfl | hlink
    · simp
    · exact absurd htarget (hlink target)
  · rw [if_pos rfl]

/-! ## Section 2: Other systems -/

/-- What stands where a walk finds its last name is of no account, as long as
    it is no link. -/
theorem Keeps.walk (h : fs.Keeps fs') (hwalk : fs.walk follow links here names = .ok place) :
    fs'.walk follow links here names = .ok place := by
  have hlast {here : Place} {name : String} (hplain : IsPlain name)
      (hnolink : ∀ target, fs.get? (here ++ [name]) ≠ some (.link target)) (links : Nat) :
      fs'.walk follow links here [name] = .ok (here ++ [name]) :=
    walk_last hplain (.inr fun target htarget => hnolink target ((h.link_iff _ target).1 htarget))
  fun_induction fs.walk follow links here names with
  | case1 => simpa using hwalk
  | case2 links here rest ih =>
    rw [walk_dot]
    exact ih hwalk
  | case3 links here rest _ ih =>
    rw [walk_dotDot]
    exact ih hwalk
  | case4 => cases hwalk
  | case5 links here name hdot hup hshort next hnone =>
    -- The other system may have something here, but no link.
    obtain rfl := Except.ok.inj hwalk
    exact hlast ⟨hdot, hup, hshort⟩ (by simp [next] at hnone; simp [hnone]) links
  | case6 => cases hwalk
  | case7 links here name rest hdot hup hshort next hdir ih =>
    rw [walk_directory ⟨hdot, hup, hshort⟩ (h.directory _ hdir)]
    exact ih hwalk
  | case8 links here name rest hdot hup hshort next target hlink hstop =>
    obtain rfl := Except.ok.inj hwalk
    obtain ⟨rfl, hfollow⟩ := hstop
    exact walk_last ⟨hdot, hup, hshort⟩ (.inl (by simpa using hfollow))
  | case9 => cases hwalk
  | case10 here name rest hdot hup hshort next target hlink hgo links start ih =>
    rw [walk_link ⟨hdot, hup, hshort⟩ ((h.link_iff _ target).2 hlink) hgo]
    exact ih hwalk
  | case11 links here name hdot hup hshort next node hdir hnolink hnode =>
    obtain rfl := Except.ok.inj hwalk
    refine hlast ⟨hdot, hup, hshort⟩ (fun target htarget => ?_) links
    exact hnolink target (Option.some.inj (hnode.symm.trans htarget))
  | case12 => cases hwalk

theorem SameShape.walk_eq (h : fs.SameShape fs') :
    fs'.walk follow links here names = fs.walk follow links here names := by
  fun_induction fs.walk follow links here names with
  | case1 => exact walk_nil
  | case2 links here rest ih => rw [walk_dot, ih]
  | case3 links here rest _ ih => rw [walk_dotDot, ih]
  | case4 links here name rest hdot hup hlong => exact walk_long hdot hup hlong
  | case5 links here name hdot hup hshort next hq =>
    exact walk_last ⟨hdot, hup, hshort⟩ (.inr (by simp [next] at hq; simp [h.none hq]))
  | case6 links here name rest hdot hup hshort next hq hrest =>
    exact walk_none ⟨hdot, hup, hshort⟩ (h.none hq) hrest
  | case7 links here name rest hdot hup hshort next hq ih =>
    rw [walk_directory ⟨hdot, hup, hshort⟩ (h.directory hq)]
    exact ih
  | case8 links here name rest hdot hup hshort next target hq hstop =>
    obtain ⟨rfl, hfollow⟩ := hstop
    exact walk_last ⟨hdot, hup, hshort⟩ (.inl (by simpa using hfollow))
  | case9 here name rest hdot hup hshort next target hq hgo =>
    exact walk_link_zero ⟨hdot, hup, hshort⟩ (h.link hq) hgo
  | case10 here name rest hdot hup hshort next target hq hgo links start ih =>
    rw [walk_link ⟨hdot, hup, hshort⟩ (h.link hq) hgo]
    exact ih
  | case11 links here name hdot hup hshort next node hdir hnolink hq =>
    obtain ⟨node', hnode', hnodeLeaf⟩ := h.leaf hq ⟨hdir, hnolink⟩
    refine walk_last ⟨hdot, hup, hshort⟩ (.inr fun target htarget => ?_)
    exact hnodeLeaf.ne_link target (Option.some.inj (hnode'.symm.trans htarget))
  | case12 links here name rest hdot hup hshort next node hdir hnolink hq hrest =>
    obtain ⟨node', hnode', hnodeLeaf⟩ := h.leaf hq ⟨hdir, hnolink⟩
    exact walk_leaf ⟨hdot, hup, hshort⟩ hnode' hnodeLeaf hrest

/-! ## Section 3: More names -/

/-- Beyond a directory a walk goes on as from the directory itself, with some
    number of links left to follow. -/
theorem walk_append (hwalk : fs.walk true links here names = .ok place)
    (hplace : fs.get? place = some .directory) :
    ∃ left, ∀ (follow : Bool) (rest : List String), rest ≠ [] →
      fs.walk follow links here (names ++ rest) = fs.walk follow left place rest := by
  fun_induction fs.walk true links here names with
  | case1 links here =>
    obtain rfl := Except.ok.inj hwalk
    exact ⟨links, fun follow rest _ => rfl⟩
  | case2 links here rest ih =>
    obtain ⟨left, hgo⟩ := ih hwalk
    refine ⟨left, fun follow more hmore => ?_⟩
    rw [List.cons_append, walk_dot, hgo follow more hmore]
  | case3 links here rest _ ih =>
    obtain ⟨left, hgo⟩ := ih hwalk
    refine ⟨left, fun follow more hmore => ?_⟩
    rw [List.cons_append, walk_dotDot, hgo follow more hmore]
  | case4 => cases hwalk
  | case5 links here name _ _ _ next hnone =>
    obtain rfl := Except.ok.inj hwalk
    rw [hnone] at hplace
    cases hplace
  | case6 => cases hwalk
  | case7 links here name rest hdot hup hshort next hdir ih =>
    obtain ⟨left, hgo⟩ := ih hwalk
    refine ⟨left, fun follow more hmore => ?_⟩
    rw [List.cons_append, walk_directory ⟨hdot, hup, hshort⟩ hdir, hgo follow more hmore]
  | case8 links here name rest _ _ _ next target _ hstop => simp at hstop
  | case9 => cases hwalk
  | case10 here name rest hdot hup hshort next target hlink hgoes links start ih =>
    -- Names that follow make the link one to be followed in any case.
    obtain ⟨left, hgo⟩ := ih hwalk
    refine ⟨left, fun follow more hmore => ?_⟩
    rw [List.cons_append, walk_link ⟨hdot, hup, hshort⟩ hlink (by simp [hmore]),
      ← hgo follow more hmore, List.append_assoc]
    rfl
  | case11 links here name _ _ _ next node hdir _ hnode =>
    obtain rfl := Except.ok.inj hwalk
    exact absurd (Option.some.inj (hnode.symm.trans hplace)) hdir
  | case12 => cases hwalk

/-- No walk gets beyond a name that is too long. -/
theorem isPlain_of_walk (hdot : name ≠ ".") (hup : name ≠ "..")
    (hwalk : fs.walk follow links here (name :: rest) = .ok place) : IsPlain name := by
  refine ⟨hdot, hup, fun hlong => ?_⟩
  rw [walk_long hdot hup hlong] at hwalk
  cases hwalk

/-- A walk that goes on went through a directory: in a tree it stays among
    directories up to there. -/
theorem IsTree.walk_split (htree : fs.IsTree) (hhere : fs.get? here = some .directory)
    (hrest : rest ≠ []) (hwalk : fs.walk follow links here (names ++ rest) = .ok place) :
    ∃ above left, fs.walk true links here names = .ok above ∧
      fs.get? above = some .directory ∧ fs.walk follow left above rest = .ok place := by
  -- The induction is on the walk to the directory.  It cannot end before the
  -- directory, since what a longer walk goes through is no leaf and not missing.
  fun_induction fs.walk true links here names with
  | case1 links here => exact ⟨here, links, rfl, hhere, hwalk⟩
  | case2 links here front ih =>
    rw [List.cons_append, walk_dot] at hwalk
    exact ih hhere hwalk
  | case3 links here front _ ih =>
    rw [List.cons_append, walk_dotDot] at hwalk
    exact ih (htree.directory_dropLast hhere) hwalk
  | case4 links here first front hdot hup hlong =>
    rw [List.cons_append, walk_long hdot hup hlong] at hwalk
    cases hwalk
  | case5 links here first hdot hup hshort next hnone =>
    rw [List.cons_append, walk_none ⟨hdot, hup, hshort⟩ hnone (by simpa using hrest)] at hwalk
    cases hwalk
  | case6 links here first front hdot hup hshort next hnone =>
    rw [List.cons_append, walk_none ⟨hdot, hup, hshort⟩ hnone (by simp [hrest])] at hwalk
    cases hwalk
  | case7 links here first front hdot hup hshort next hdir ih =>
    rw [List.cons_append, walk_directory ⟨hdot, hup, hshort⟩ hdir] at hwalk
    exact ih hdir hwalk
  | case8 links here first front _ _ _ next target _ hstop => simp at hstop
  | case9 here first front hdot hup hshort next target hlink =>
    rw [List.cons_append, walk_link_zero ⟨hdot, hup, hshort⟩ hlink (by simp [hrest])] at hwalk
    cases hwalk
  | case10 here first front hdot hup hshort next target hlink _ links start ih =>
    rw [List.cons_append, walk_link ⟨hdot, hup, hshort⟩ hlink (by simp [hrest]),
      ← List.append_assoc] at hwalk
    exact ih (get?_target hhere target) hwalk
  | case11 links here first hdot hup hshort next node hdir hnolink hnode =>
    rw [List.cons_append, walk_leaf ⟨hdot, hup, hshort⟩ hnode ⟨hdir, hnolink⟩ (by simpa using hrest)]
      at hwalk
    cases hwalk
  | case12 links here first front hdot hup hshort next node hdir hnolink hnode =>
    rw [List.cons_append, walk_leaf ⟨hdot, hup, hshort⟩ hnode ⟨hdir, hnolink⟩ (by simp [hrest])]
      at hwalk
    cases hwalk

/-- A walk that follows all links ends in a directory of the tree, at a place
    that holds no link. -/
theorem IsTree.walk_end (htree : fs.IsTree) (hhere : fs.get? here = some .directory)
    (hwalk : fs.walk true links here names = .ok place) :
    fs.get? place.dropLast = some .directory ∧
      ∀ target, fs.get? place ≠ some (.link target) := by
  fun_induction fs.walk true links here names with
  | case1 links here =>
    obtain rfl := Except.ok.inj hwalk
    refine ⟨htree.directory_dropLast hhere, fun target => ?_⟩
    rw [hhere]
    simp
  | case2 links here rest ih => exact ih hhere hwalk
  | case3 links here rest _ ih => exact ih (htree.directory_dropLast hhere) hwalk
  | case4 => cases hwalk
  | case5 links here name _ _ _ next hnone =>
    obtain rfl := Except.ok.inj hwalk
    refine ⟨?_, fun target => ?_⟩
    · rw [List.dropLast_concat]
      exact hhere
    · rw [hnone]
      simp
  | case6 => cases hwalk
  | case7 links here name rest _ _ _ next hdir ih => exact ih hdir hwalk
  | case8 links here name rest _ _ _ next target _ hstop => simp at hstop
  | case9 => cases hwalk
  | case10 here name rest _ _ _ next target _ _ links start ih =>
    exact ih (get?_target hhere target) hwalk
  | case11 links here name _ _ _ next node _ hnolink hnode =>
    obtain rfl := Except.ok.inj hwalk
    refine ⟨?_, fun target htarget => ?_⟩
    · rw [List.dropLast_concat]
      exact hhere
    · exact hnolink target (Option.some.inj (hnode.symm.trans htarget))
  | case12 => cases hwalk

/-! ## Section 4: Upwards, and without following -/

theorem IsTree.walk_up (htree : fs.IsTree) (hhere : fs.get? here = some .directory)
    (hup : ∀ name ∈ names, name = "..") :
    ∃ place, fs.walk follow links here names = .ok place ∧ fs.get? place = some .directory := by
  induction names generalizing here with
  | nil => exact ⟨here, walk_nil, hhere⟩
  | cons first rest ih =>
    obtain rfl : first = ".." := hup first (by simp)
    rw [walk_dotDot]
    exact ih (htree.directory_dropLast hhere) fun name hname => hup name (by simp [hname])

/-- Whether a link at the end is to be followed matters only when there is
    one. -/
theorem walk_follow (hwalk : fs.walk false links here names = .ok place)
    (hnolink : ∀ target, fs.get? place ≠ some (.link target)) :
    fs.walk true links here names = .ok place := by
  fun_induction fs.walk false links here names with
  | case1 => simpa using hwalk
  | case2 links here rest ih =>
    rw [walk_dot]
    exact ih hwalk
  | case3 links here rest _ ih =>
    rw [walk_dotDot]
    exact ih hwalk
  | case4 => cases hwalk
  | case5 links here name hdot hup hshort next hnone =>
    obtain rfl := Except.ok.inj hwalk
    exact walk_last ⟨hdot, hup, hshort⟩ (.inr hnolink)
  | case6 => cases hwalk
  | case7 links here name rest hdot hup hshort next hdir ih =>
    rw [walk_directory ⟨hdot, hup, hshort⟩ hdir]
    exact ih hwalk
  | case8 links here name rest _ _ _ next target hlink _ =>
    obtain rfl := Except.ok.inj hwalk
    exact absurd hlink (hnolink target)
  | case9 => cases hwalk
  | case10 here name rest hdot hup hshort next target hlink hgo links start ih =>
    rw [walk_link ⟨hdot, hup, hshort⟩ hlink (by simp)]
    exact ih hwalk
  | case11 links here name hdot hup hshort next node _ _ _ =>
    obtain rfl := Except.ok.inj hwalk
    exact walk_last ⟨hdot, hup, hshort⟩ (.inr hnolink)
  | case12 => cases hwalk

/-- What fails without following a link at the end fails with following it. -/
theorem walk_follow_error {e : Errno}
    (hwalk : fs.walk false links here names = .error e) :
    fs.walk true links here names = .error e := by
  fun_induction fs.walk false links here names with
  | case1 => cases hwalk
  | case2 links here rest ih =>
    rw [walk_dot]
    exact ih hwalk
  | case3 links here rest _ ih =>
    rw [walk_dotDot]
    exact ih hwalk
  | case4 links here name rest hdot hup hlong =>
    rw [walk_long hdot hup hlong]
    exact hwalk
  | case5 => cases hwalk
  | case6 links here name rest hdot hup hshort next hnone hrest =>
    rw [walk_none ⟨hdot, hup, hshort⟩ hnone hrest]
    exact hwalk
  | case7 links here name rest hdot hup hshort next hdir ih =>
    rw [walk_directory ⟨hdot, hup, hshort⟩ hdir]
    exact ih hwalk
  | case8 => cases hwalk
  | case9 here name rest hdot hup hshort next target hlink hgo =>
    rw [walk_link_zero ⟨hdot, hup, hshort⟩ hlink (by simp)]
    exact hwalk
  | case10 here name rest hdot hup hshort next target hlink hgo links start ih =>
    rw [walk_link ⟨hdot, hup, hshort⟩ hlink (by simp)]
    exact ih hwalk
  | case11 => cases hwalk
  | case12 links here name rest hdot hup hshort next node hdir hnolink hnode hrest =>
    rw [walk_leaf ⟨hdot, hup, hshort⟩ hnode ⟨hdir, hnolink⟩ hrest]
    exact hwalk

/-- A walk that follows all links to a node passes one where it would stop
    without following the last. -/
theorem walk_nofollow (hwalk : fs.walk true links here names = .ok place)
    (hhere : ∃ node, fs.get? here = some node) (hdots : ∀ place node, fs.get? place = some node →
      ∃ above, fs.get? place.dropLast = some above)
    (hnode : ∃ node, fs.get? place = some node) :
    ∃ found, fs.walk false links here names = .ok found ∧ ∃ node, fs.get? found = some node := by
  fun_induction fs.walk true links here names with
  | case1 links here => exact ⟨here, walk_nil, hhere⟩
  | case2 links here rest ih =>
    rw [walk_dot]
    exact ih hwalk hhere
  | case3 links here rest _ ih =>
    rw [walk_dotDot]
    obtain ⟨node, hnode⟩ := hhere
    exact ih hwalk (hdots here node hnode)
  | case4 => cases hwalk
  | case5 links here name hdot hup hshort next _ =>
    obtain rfl := Except.ok.inj hwalk
    exact ⟨_, walk_last ⟨hdot, hup, hshort⟩ (.inl rfl), hnode⟩
  | case6 => cases hwalk
  | case7 links here name rest hdot hup hshort next hdir ih =>
    rw [walk_directory ⟨hdot, hup, hshort⟩ hdir]
    exact ih hwalk ⟨_, hdir⟩
  | case8 links here name rest _ _ _ next target _ hstop => simp at hstop
  | case9 => cases hwalk
  | case10 here name rest hdot hup hshort next target hlink _ links start ih =>
    -- Without following, the walk stops at a last link, which is a node itself.
    by_cases hrest : rest = []
    · subst hrest
      exact ⟨_, walk_last ⟨hdot, hup, hshort⟩ (.inl rfl), _, hlink⟩
    · rw [walk_link ⟨hdot, hup, hshort⟩ hlink (by simp [hrest])]
      refine ih hwalk ?_
      show ∃ node, fs.get? (if target.toList.head? = some '/' then [] else here) = some node
      split
      · exact ⟨_, get?_root fs⟩
      · exact hhere
  | case11 links here name hdot hup hshort next node _ _ hnode =>
    exact ⟨_, walk_last ⟨hdot, hup, hshort⟩ (.inl rfl), _, hnode⟩
  | case12 => cases hwalk

end DenoBridge.FileSystem
