import DenoBridge.Proofs.Files.Walking
import DenoBridge.Proofs.Path.Reading

/-! # Locating paths

    The text of a proper path is located by walking the names of the path
    (`locate_text`), unless the text is too long for any call.  With that the
    place of a child is the place of its parent and one name more
    (`reach_child`, `reach_parent`).
-/

namespace DenoBridge.FileSystem

variable {fs : FileSystem} {follow : Bool} {here place : Place} {path : Path} {name : String}

/-! ## Section 1: Names in texts -/

theorem namesIn_of_pieces {text : String} {names : List String}
    (hnames : ∀ name ∈ names, Path.IsName name)
    (hpieces : (Text.pieces '/' text.toList).filter (· ≠ []) = names.map String.toList)
    (hlast : (Text.pieces '/' text.toList).getLast? = (names.map String.toList).getLast?) :
    namesIn text = names := by
  have hend : (Text.pieces '/' text.toList).getLast? ≠ some [] := by
    rw [hlast, List.getLast?_map]
    intro hempty
    obtain ⟨last, hmem, hlastEmpty⟩ := Option.map_eq_some_iff.1 hempty
    have hname := hnames last (List.mem_of_getLast? hmem)
    exact hname.ne_empty (String.toList_eq_nil_iff.1 hlastEmpty)
  unfold namesIn
  dsimp only
  rw [if_neg hend, hpieces, List.map_map]
  have hread : ∀ name ∈ names, (String.ofList ∘ String.toList) name = name := by
    intro name _
    exact String.ofList_toList
  rw [List.map_congr_left hread, List.map_id']

/-- The names that a call finds in the text of a path. -/
theorem namesIn_text (h : path.IsProper) :
    namesIn path.text = if path.names = [] then ["."] else path.names := by
  obtain ⟨anchor, names⟩ := path
  by_cases hne : names = []
  · subst hne
    cases anchor <;> decide
  · rw [if_neg hne]
    have hparts : names.map String.toList ≠ [] := by simpa using hne
    have hsep : ∀ part ∈ names.map String.toList, '/' ∉ part := by
      intro part hpart
      obtain ⟨name, hname, rfl⟩ := List.mem_map.1 hpart
      exact (h name hname).slash_not_mem
    have hkept : (names.map String.toList).filter (· ≠ []) = names.map String.toList := by
      refine List.filter_eq_self.2 fun part hpart => ?_
      obtain ⟨name, hname, rfl⟩ := List.mem_map.1 hpart
      simpa using (h name hname).ne_empty
    have hjoin := Text.pieces_joinPieces hparts hsep
    have htext := Path.toList_text ⟨anchor, names⟩
    rw [if_neg (by simp [hne])] at htext
    -- Every slash of the anchor adds an empty piece in front.
    have hpieces : ∃ front : List (List Char), (∀ piece ∈ front, piece = []) ∧
        Text.pieces '/' (Path.text ⟨anchor, names⟩).toList =
          front ++ names.map String.toList := by
      rw [htext]
      cases anchor with
      | relative => exact ⟨[], by simp, hjoin⟩
      | root => exact ⟨[[]], by simp, by simp [Anchor.text, Text.pieces, hjoin]⟩
      | doubleRoot => exact ⟨[[], []], by simp, by simp [Anchor.text, Text.pieces, hjoin]⟩
    obtain ⟨front, hfront, hpieces⟩ := hpieces
    refine namesIn_of_pieces h ?_ ?_
    · have hnone : front.filter (· ≠ []) = [] :=
        List.filter_eq_nil_iff.2 fun piece hpiece => by simp [hfront piece hpiece]
      rw [hpieces, List.filter_append, hnone, hkept, List.nil_append]
    · rw [hpieces, List.getLast?_append_of_ne_nil _ hparts]

theorem head?_text (h : path.IsProper) :
    path.text.toList.head? = some '/' ↔ path.isAbsolute = true := by
  obtain ⟨anchor, names⟩ := path
  rw [Path.toList_text]
  cases anchor with
  | relative =>
    have hhead : (Text.joinPieces ['/'] (names.map String.toList)).head? ≠ some '/' :=
      Path.head?_joinPieces_ne_slash h
    by_cases hne : names = []
    · simp [hne, Path.isAbsolute]
    · simpa [hne, Path.isAbsolute, Anchor.text] using hhead
  | root => simp [Path.isAbsolute, Anchor.text]
  | doubleRoot => simp [Path.isAbsolute, Anchor.text]

/-! ## Section 2: Places of paths -/

/-- Where the walk of a path begins. -/
def start (here : Place) (path : Path) : Place :=
  if path.isAbsolute then [] else here

/-- The place that the names of a path lead to. -/
def reach (fs : FileSystem) (follow : Bool) (here : Place) (path : Path) : Except Errno Place :=
  fs.walk follow linkLimit (start here path) path.names

/-- Is the text of the path too long for a call? -/
def IsTooLong (path : Path) : Prop :=
  path.text.utf8ByteSize ≥ pathLimit

instance (path : Path) : Decidable (IsTooLong path) :=
  inferInstanceAs (Decidable (_ ≥ _))

theorem locate_text (h : path.IsProper) : fs.locate here path.text follow =
    if IsTooLong path then .error .nameTooLong else fs.reach follow here path := by
  unfold locate
  rw [if_neg (Path.text_ne_empty path h)]
  by_cases hlong : IsTooLong path
  · rw [if_pos hlong]
    exact if_pos hlong
  · rw [if_neg hlong]
    refine (if_neg hlong).trans ?_
    dsimp only
    have hstart : (if path.text.toList.head? = some '/' then [] else here) = start here path := by
      unfold start
      by_cases habs : path.isAbsolute = true
      · rw [if_pos ((head?_text h).2 habs), if_pos habs]
      · rw [if_neg (fun hhead => habs ((head?_text h).1 hhead)), if_neg habs]
    rw [hstart, namesIn_text h]
    unfold reach
    split
    · rename_i hnone
      rw [hnone, walk_dot]
    · rfl

theorem reach_of_locate (h : path.IsProper) (hloc : fs.locate here path.text follow = .ok place) :
    fs.reach follow here path = .ok place ∧ ¬ IsTooLong path := by
  rw [locate_text h] at hloc
  split at hloc
  · cases hloc
  · rename_i hshort
    exact ⟨hloc, hshort⟩

theorem locate_of_reach (h : path.IsProper) (hshort : ¬ IsTooLong path)
    (hreach : fs.reach follow here path = .ok place) :
    fs.locate here path.text follow = .ok place := by
  rw [locate_text h, if_neg hshort, hreach]

theorem get?_start (hhere : fs.get? here = some .directory) (path : Path) :
    fs.get? (start here path) = some .directory := by
  unfold start
  split
  · exact get?_root fs
  · exact hhere

/-! ## Section 3: Children -/

theorem start_child (path : Path) (names : List String) :
    start here ⟨path.anchor, names⟩ = start here path :=
  rfl

/-- A child of a directory has a place whether it is there or not. -/
theorem reach_child (hplain : IsPlain name) (hreach : fs.reach true here path = .ok place)
    (hplace : fs.get? place = some .directory) :
    fs.reach false here ⟨path.anchor, path.names ++ [name]⟩ = .ok (place ++ [name]) := by
  obtain ⟨left, hgo⟩ := walk_append hreach hplace
  unfold reach
  rw [start_child, hgo false [name] (by simp)]
  exact walk_last hplain (.inl rfl)

theorem reach_child_follow (hplain : IsPlain name) (hreach : fs.reach true here path = .ok place)
    (hplace : fs.get? place = some .directory)
    (hnolink : ∀ target, fs.get? (place ++ [name]) ≠ some (.link target)) :
    fs.reach true here ⟨path.anchor, path.names ++ [name]⟩ = .ok (place ++ [name]) := by
  obtain ⟨left, hgo⟩ := walk_append hreach hplace
  unfold reach
  rw [start_child, hgo true [name] (by simp)]
  exact walk_last hplain (.inr hnolink)

/-- Where a child has a place, its parent is a directory. -/
theorem IsTree.reach_parent (htree : fs.IsTree) (hhere : fs.get? here = some .directory)
    (hdot : name ≠ ".") (hup : name ≠ "..")
    (hreach : fs.reach follow here ⟨path.anchor, path.names ++ [name]⟩ = .ok place) :
    IsPlain name ∧ ∃ above, fs.reach true here path = .ok above ∧
      fs.get? above = some .directory := by
  unfold reach at hreach
  rw [start_child] at hreach
  obtain ⟨above, left, habove, hdir, hlast⟩ :=
    htree.walk_split (get?_start hhere path) (List.cons_ne_nil _ _) hreach
  exact ⟨isPlain_of_walk hdot hup hlast, above, habove, hdir⟩

end DenoBridge.FileSystem
