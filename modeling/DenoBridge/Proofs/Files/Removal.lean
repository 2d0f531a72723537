import DenoBridge.Proofs.Files.Entries

/-! # Removing an entry

    A walk that ends elsewhere does not miss an entry that is removed, be it
    a file or a link to one (`walk_removeTree`): a walk that came through the
    link would have ended at the file.
-/

namespace DenoBridge.FileSystem

variable {fs : FileSystem} {follow : Bool} {links : Nat} {here place entry : Place}
variable {names rest : List String} {node leaf : Node}

/-- A walk over names that lead to a leaf goes no further than the leaf,
    however many links may be followed. -/
theorem walk_through (hhere : fs.get? here = some .directory) (htree : fs.IsTree)
    (hwalk : fs.walk true links here names = .ok place) (hplace : fs.get? place = some leaf)
    (hleaf : leaf.IsLeaf) {links' : Nat} {found : Place}
    (hfound : fs.walk true links' here (names ++ rest) = .ok found) :
    rest = [] ∧ found = place := by
  -- Both walks go the same way up to the leaf, each with its own links left.
  fun_induction fs.walk true links here names generalizing links' with
  | case1 links here =>
    obtain rfl := Except.ok.inj hwalk
    exact absurd (Option.some.inj (hplace.symm.trans hhere)) hleaf.ne_directory
  | case2 links here rest' ih =>
    rw [List.cons_append, walk_dot] at hfound
    exact ih hhere hwalk hfound
  | case3 links here rest' _ ih =>
    rw [List.cons_append, walk_dotDot] at hfound
    exact ih (htree.directory_dropLast hhere) hwalk hfound
  | case4 => cases hwalk
  | case5 links here name _ _ _ next =>
    rename_i hnone
    obtain rfl := Except.ok.inj hwalk
    rw [hplace] at hnone
    cases hnone
  | case6 => cases hwalk
  | case7 links here name rest' hdot hup hshort next hdir =>
    rename_i ih
    rw [List.cons_append, walk_directory ⟨hdot, hup, hshort⟩ hdir] at hfound
    exact ih hdir hwalk hfound
  | case8 links here name rest' _ _ _ next target _ =>
    rename_i hstop
    simp at hstop
  | case9 => cases hwalk
  | case10 here name rest' hdot hup hshort next target hlink _ links start =>
    rename_i ih
    have hstart : fs.get? start = some .directory := get?_target hhere target
    rw [List.cons_append] at hfound
    cases links' with
    | zero =>
      rw [walk_link_zero ⟨hdot, hup, hshort⟩ hlink (by simp)] at hfound
      cases hfound
    | succ links' =>
      rw [walk_link ⟨hdot, hup, hshort⟩ hlink (by simp), ← List.append_assoc] at hfound
      exact ih hstart hwalk hfound
  | case11 links here name hdot hup hshort next node hdir hnolink =>
    rename_i hnode
    obtain rfl := Except.ok.inj hwalk
    -- Nothing can follow a leaf.
    by_cases hrest : rest = []
    · subst hrest
      rw [List.append_nil, walk_last ⟨hdot, hup, hshort⟩ (.inr fun target htarget =>
        hnolink target (Option.some.inj (hnode.symm.trans htarget)))] at hfound
      exact ⟨rfl, (Except.ok.inj hfound).symm⟩
    · rw [List.singleton_append, walk_leaf ⟨hdot, hup, hshort⟩ hnode ⟨hdir, hnolink⟩ hrest]
        at hfound
      cases hfound
  | case12 => cases hwalk

/-- Where the target of a link that stands at `entry` leads to. -/
def Targets (fs : FileSystem) (entry : Place) (target : String) (place : Place) : Prop :=
  ∃ links leaf, fs.walk true links
      (if target.toList.head? = some '/' then [] else entry.dropLast) (namesIn target) = .ok place ∧
    fs.get? place = some leaf ∧ leaf.IsLeaf

/-- A walk to another place than an entry, and than the file to which the
    entry links, is the same without the entry. -/
theorem walk_removeTree (htree : fs.IsTree) (hhere : fs.get? here = some .directory)
    (hentry : fs.get? entry = some node) (hdir : node ≠ .directory) (hne : place ≠ entry)
    (hlink : ∀ target, node = .link target → ∃ other ≠ place, fs.Targets entry target other)
    (hwalk : fs.walk true links here names = .ok place) :
    (fs.removeTree entry).walk true links here names = .ok place := by
  have hget := htree.get?_removeTree hentry hdir
  -- No directory is removed, so the walk can leave its way at a link only.
  fun_induction fs.walk true links here names with
  | case1 => simpa using hwalk
  | case2 links here rest ih =>
    rw [walk_dot]
    exact ih hhere hwalk
  | case3 links here rest _ ih =>
    rw [walk_dotDot]
    exact ih (htree.directory_dropLast hhere) hwalk
  | case4 => cases hwalk
  | case5 links here name hdot hup hshort next =>
    rename_i hnone
    obtain rfl := Except.ok.inj hwalk
    refine walk_last ⟨hdot, hup, hshort⟩ (.inr fun target => ?_)
    rw [hget, if_neg hne, hnone]
    simp
  | case6 => cases hwalk
  | case7 links here name rest hdot hup hshort next hnext =>
    rename_i ih
    have hother : next ≠ entry := by
      intro heq
      rw [heq, hentry] at hnext
      exact hdir (Option.some.inj hnext)
    have hstill : (fs.removeTree entry).get? next = some .directory := by
      rw [hget, if_neg hother, hnext]
    rw [walk_directory ⟨hdot, hup, hshort⟩ hstill]
    exact ih hnext hwalk
  | case8 links here name rest _ _ _ next target _ =>
    rename_i hstop
    simp at hstop
  | case9 => cases hwalk
  | case10 here name rest hdot hup hshort next target hnext _ links start =>
    rename_i ih
    have hstart : fs.get? start = some .directory := get?_target hhere target
    by_cases hother : next = entry
    · -- The walk comes through the entry, so it ends at the file behind it.
      have hnode : node = .link target := by
        rw [hother, hentry] at hnext
        exact Option.some.inj hnext
      obtain ⟨behind, hbehind, links', leaf, hleads, hplace, hleaf⟩ := hlink target hnode
      have hdrop : entry.dropLast = here := by
        rw [← hother]
        exact List.dropLast_concat
      rw [hdrop] at hleads
      obtain ⟨-, heq⟩ := walk_through hstart htree hleads hplace hleaf hwalk
      exact absurd heq.symm hbehind
    · have hstill : (fs.removeTree entry).get? next = some (.link target) := by
        rw [hget, if_neg hother, hnext]
      rw [walk_link ⟨hdot, hup, hshort⟩ hstill (by simp)]
      exact ih hstart hwalk
  | case11 links here name hdot hup hshort next leaf _ hnolink =>
    rename_i hnext
    obtain rfl := Except.ok.inj hwalk
    refine walk_last ⟨hdot, hup, hshort⟩ (.inr fun target htarget => ?_)
    rw [hget, if_neg hne, hnext] at htarget
    exact hnolink target (Option.some.inj htarget)
  | case12 => cases hwalk

end DenoBridge.FileSystem
