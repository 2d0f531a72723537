import DenoBridge.Proofs.Files.Entries

/-! # Two spellings of a path

    Reading a text as a path and writing the path down again drops repeated
    slashes and single dots.  What is found under the text is found under the
    path's text too (`find_respelled`).
-/

namespace DenoBridge.FileSystem

variable {fs : FileSystem} {here place : Place} {text : String} {links : Nat}

/-! ## Section 1: Dropping dots -/

/-- The second list is the first without some of its single dots. -/
inductive Undotted : List String → List String → Prop where
  | nil : Undotted [] []
  | keep (name : String) {names kept : List String} : Undotted names kept →
      Undotted (name :: names) (name :: kept)
  | drop {names kept : List String} : Undotted names kept → Undotted ("." :: names) kept

theorem Undotted.append_left (front : List String) {names kept : List String}
    (h : Undotted names kept) : Undotted (front ++ names) (front ++ kept) := by
  induction front with
  | nil => exact h
  | cons name rest ih => exact .keep name ih

theorem Undotted.append_dot {names kept : List String} (h : Undotted names kept) :
    Undotted (names ++ ["."]) kept := by
  induction h with
  | nil => exact .drop .nil
  | keep name _ ih => exact .keep name ih
  | drop _ ih => exact .drop ih

/-- Only dots can be left out. -/
theorem Undotted.of_cons {name : String} {names kept : List String}
    (h : Undotted (name :: names) kept) (hdot : name ≠ ".") :
    ∃ rest, kept = name :: rest ∧ Undotted names rest := by
  generalize hall : name :: names = all at h
  cases h with
  | nil => cases hall
  | @keep name' names' rest h =>
    obtain ⟨rfl, rfl⟩ := List.cons.inj hall
    exact ⟨rest, rfl, h⟩
  | drop h => exact absurd (List.cons.inj hall).1 hdot

/-- A walk that succeeds does not need the dots. -/
theorem walk_undotted {names kept : List String} (h : Undotted names kept)
    (hwalk : fs.walk true links here names = .ok place) :
    fs.walk true links here kept = .ok place := by
  -- A name that is no dot is met in both lists; a dot can be missing in the second.
  fun_induction fs.walk true links here names generalizing kept with
  | case1 links here =>
    cases h
    rw [walk_nil]
    exact hwalk
  | case2 links here rest ih =>
    cases h with
    | keep _ h =>
      rw [walk_dot]
      exact ih h hwalk
    | drop h => exact ih h hwalk
  | case3 links here rest _ ih =>
    obtain ⟨kept, rfl, hrest⟩ := h.of_cons (by decide)
    rw [walk_dotDot]
    exact ih hrest hwalk
  | case4 => cases hwalk
  | case5 links here name hdot hup hshort next =>
    rename_i hnone
    obtain ⟨kept, rfl, hrest⟩ := h.of_cons hdot
    cases hrest
    obtain rfl := Except.ok.inj hwalk
    exact walk_last ⟨hdot, hup, hshort⟩ (.inr (by simp [next] at hnone; simp [hnone]))
  | case6 => cases hwalk
  | case7 links here name rest hdot hup hshort next hdir =>
    rename_i ih
    obtain ⟨kept, rfl, hrest⟩ := h.of_cons hdot
    rw [walk_directory ⟨hdot, hup, hshort⟩ hdir]
    exact ih hrest hwalk
  | case8 links here name rest _ _ _ next target _ =>
    rename_i hstop
    simp at hstop
  | case9 => cases hwalk
  | case10 here name rest hdot hup hshort next target hlink _ links start =>
    rename_i ih
    obtain ⟨kept, rfl, hrest⟩ := h.of_cons hdot
    rw [walk_link ⟨hdot, hup, hshort⟩ hlink (by simp)]
    exact ih (hrest.append_left _) hwalk
  | case11 links here name hdot hup hshort next node hdir hnolink =>
    rename_i hnode
    obtain ⟨kept, rfl, hrest⟩ := h.of_cons hdot
    cases hrest
    obtain rfl := Except.ok.inj hwalk
    refine walk_last ⟨hdot, hup, hshort⟩ (.inr fun target htarget => ?_)
    exact hnolink target (Option.some.inj (hnode.symm.trans htarget))
  | case12 => cases hwalk

/-- The names of a path are the names in its text without the dots. -/
theorem undotted_namesIn (text : String) : Undotted (namesIn text) (Path.namesOf text.toList) := by
  have hpieces (pieces : List (List Char)) :
      Undotted ((pieces.filter (· ≠ [])).map String.ofList) (pieces.filterMap fun piece =>
        if piece = [] ∨ piece = ['.'] then none else some (String.ofList piece)) := by
    induction pieces with
    | nil => exact .nil
    | cons piece rest ih =>
      by_cases hempty : piece = []
      · simpa [hempty] using ih
      · by_cases hdot : piece = ['.']
        · subst hdot
          simpa using Undotted.drop ih
        · simpa [hempty, hdot] using Undotted.keep (String.ofList piece) ih
  unfold namesIn Path.namesOf
  dsimp only
  split
  · exact (hpieces _).append_dot
  · exact hpieces _

/-! ## Section 2: The length of a path's text -/

theorem utf8ByteSize_le_of_sublist {front back : List Char} (h : front.Sublist back) :
    (String.ofList front).utf8ByteSize ≤ (String.ofList back).utf8ByteSize := by
  have hcons (c : Char) (rest : List Char) : (String.ofList (c :: rest)).utf8ByteSize =
      c.utf8Size + (String.ofList rest).utf8ByteSize := by
    have hsplit : String.ofList (c :: rest) = String.singleton c ++ String.ofList rest := by
      rw [String.ext_iff]
      simp
    rw [hsplit, String.utf8ByteSize_append, String.utf8ByteSize_singleton]
  induction h with
  | slnil => exact Nat.le_refl _
  | cons c _ ih =>
    rw [hcons]
    omega
  | cons_cons c _ ih =>
    rw [hcons, hcons]
    omega

theorem joinPieces_sublist {sep : List Char} {parts all : List (List Char)}
    (h : parts.Sublist all) : (Text.joinPieces sep parts).Sublist (Text.joinPieces sep all) := by
  induction h with
  | slnil => exact List.Sublist.refl _
  | @cons parts all piece h ih =>
    by_cases hall : all = []
    · subst hall
      rw [List.sublist_nil.1 h]
      simp [Text.joinPieces]
    · rw [Text.joinPieces_cons hall]
      exact ih.trans (List.sublist_append_right _ _)
  | @cons_cons parts all piece h ih =>
    by_cases hparts : parts = []
    · subst hparts
      by_cases hall : all = []
      · rw [hall]
      · rw [Text.joinPieces_cons hall]
        show piece.Sublist _
        rw [List.append_assoc]
        exact List.sublist_append_left _ _
    · have hall : all ≠ [] := by
        rintro rfl
        exact hparts (List.sublist_nil.1 h)
      rw [Text.joinPieces_cons hparts, Text.joinPieces_cons hall]
      exact (List.Sublist.refl _).append ih

theorem joinNames_sublist (chars : List Char) :
    (Text.joinPieces ['/'] ((Path.namesOf chars).map String.toList)).Sublist chars := by
  have hkept (pieces : List (List Char)) : ((pieces.filterMap fun piece =>
      if piece = [] ∨ piece = ['.'] then none else some (String.ofList piece)).map
        String.toList).Sublist pieces := by
    induction pieces with
    | nil => exact List.Sublist.refl _
    | cons piece rest ih =>
      by_cases hdropped : piece = [] ∨ piece = ['.']
      · simpa [hdropped] using ih.cons piece
      · simpa [hdropped] using ih.cons_cons piece
  calc (Text.joinPieces ['/'] ((Path.namesOf chars).map String.toList)).Sublist
        (Text.joinPieces ['/'] (Text.pieces '/' chars)) := joinPieces_sublist (hkept _)
    _ = chars := Text.joinPieces_pieces '/' chars

/-- An anchor is as many of the leading slashes as it has itself. -/
theorem anchorText_prefix (chars : List Char) :
    ∃ rest, chars = (Path.anchorOf chars).text.toList ++ rest ∧
      Path.namesOf chars = Path.namesOf rest := by
  cases hanchor : Path.anchorOf chars with
  | relative => exact ⟨chars, rfl, rfl⟩
  | root =>
    cases chars with
    | nil => cases hanchor
    | cons c rest =>
      by_cases hc : c = '/'
      · subst hc
        exact ⟨rest, rfl, Path.namesOf_slash rest⟩
      · rw [Path.anchorOf_of_head (by simpa using hc)] at hanchor
        cases hanchor
  | doubleRoot =>
    unfold Path.anchorOf at hanchor
    match chars, hanchor with
    | [], hanchor => cases hanchor
    | [c], hanchor =>
      by_cases hc : c = '/' <;> simp [hc, Anchor.ofSlashes] at hanchor
    | c :: d :: rest, hanchor =>
      by_cases hc : c = '/'
      · by_cases hd : d = '/'
        · subst hc hd
          exact ⟨rest, rfl, (Path.namesOf_slash ('/' :: rest)).trans (Path.namesOf_slash rest)⟩
        · simp [hc, hd, Anchor.ofSlashes] at hanchor
      · simp [hc, Anchor.ofSlashes] at hanchor

/-- The text of a path is made of characters of any text that spells it. -/
theorem text_sublist (hnames : Path.namesOf text.toList ≠ []) :
    (Path.ofString text).text.toList.Sublist text.toList := by
  obtain ⟨rest, hrest, hsame⟩ := anchorText_prefix text.toList
  have htext : (Path.ofString text).text.toList = (Path.anchorOf text.toList).text.toList ++
      Text.joinPieces ['/'] ((Path.namesOf rest).map String.toList) := by
    rw [Path.toList_text, if_neg (by simp [Path.ofString, Path.ofChars, hnames]), ← hsame]
    rfl
  rw [htext]
  conv => rhs; rw [hrest]
  exact (List.Sublist.refl _).append (joinNames_sublist rest)

theorem not_isTooLong_ofString (hshort : ¬ text.utf8ByteSize ≥ pathLimit) :
    ¬ IsTooLong (Path.ofString text) := by
  by_cases hnames : Path.namesOf text.toList = []
  · have hpath : Path.ofString text = ⟨Path.anchorOf text.toList, []⟩ := by
      rw [Path.ofString, Path.ofChars, hnames]
    rw [hpath]
    cases Path.anchorOf text.toList <;> decide
  · have hle := utf8ByteSize_le_of_sublist (text_sublist hnames)
    rw [String.ofList_toList, String.ofList_toList] at hle
    unfold IsTooLong
    omega

/-- What begins with a path that is too long is too long. -/
theorem isTooLong_append {anchor : Anchor} {names : List String} (h : IsTooLong ⟨anchor, names⟩)
    (more : List String) : IsTooLong ⟨anchor, names ++ more⟩ := by
  by_cases hnames : names = []
  · subst hnames
    cases anchor <;> exact absurd h (by decide)
  · have hsub : (Path.text ⟨anchor, names⟩).toList.Sublist
        (Path.text ⟨anchor, names ++ more⟩).toList := by
      rw [Path.toList_text, if_neg (by simp [hnames]), Path.toList_text,
        if_neg (by simp [hnames])]
      refine (List.Sublist.refl _).append (joinPieces_sublist ?_)
      exact (List.sublist_append_left names more).map _
    have hle := utf8ByteSize_le_of_sublist hsub
    rw [String.ofList_toList, String.ofList_toList] at hle
    exact Nat.le_trans h hle

/-! ## Section 3: The same file -/

theorem start_ofString (here : Place) (text : String) : start here (Path.ofString text) =
    if text.toList.head? = some '/' then [] else here := by
  unfold start
  by_cases hhead : text.toList.head? = some '/'
  · have habs : (Path.ofString text).isAbsolute = true := by
      -- One, two or more slashes make three different anchors, none of them relative.
      obtain ⟨rest, hrest⟩ := List.head?_eq_some_iff.1 hhead
      rw [Path.ofString, hrest]
      have hslashes : ∃ n, (('/' :: rest).takeWhile (· == '/')).length = n + 1 :=
        ⟨(rest.takeWhile (· == '/')).length, by simp⟩
      obtain ⟨n, hn⟩ := hslashes
      unfold Path.isAbsolute Path.ofChars Path.anchorOf
      rw [hn]
      cases n with
      | zero => rfl
      | succ n => cases n <;> rfl
    rw [if_pos habs, if_pos hhead]
  · have habs : ¬ (Path.ofString text).isAbsolute = true := by
      rw [Path.ofString, Path.isAbsolute, Path.ofChars, Path.anchorOf_of_head hhead]
      simp
    rw [if_neg habs, if_neg hhead]

/-- What is found under a text is found under the text of the path that it
    spells. -/
theorem find_respelled {found : Place × Node} (hfind : fs.find here text = .ok found) :
    fs.find here (Path.ofString text).text = .ok found := by
  obtain ⟨place, node⟩ := found
  obtain ⟨hloc, hnode⟩ := find_eq_ok.1 hfind
  unfold locate at hloc
  split at hloc
  · cases hloc
  · split at hloc
    · cases hloc
    · rename_i hshort
      have hwalk := walk_undotted (undotted_namesIn text) hloc
      rw [← start_ofString] at hwalk
      exact find_eq_ok.2 ⟨locate_of_reach (Path.isProper_ofString text)
        (not_isTooLong_ofString hshort) hwalk, hnode⟩

end DenoBridge.FileSystem
