import Mathlib.Data.List.Basic
import DenoBridge.Path.Basic
import DenoBridge.Proofs.Text.Split

/-! # Reading the text of a path back

    A path is proper when all its names are names: not empty, not a single
    dot, without a slash.  Reading gives proper paths only
    (`isProper_ofChars`), the operations keep them proper, and the text of a
    proper path is read back as the same path (`ofString_text`).
-/

namespace DenoBridge

namespace Path

/-! ## Section 1: Proper paths -/

/-- A text that can stand between two slashes and means something there. -/
structure IsName (name : String) : Prop where
  ne_empty : name ≠ ""
  ne_dot : name ≠ "."
  slash_not_mem : '/' ∉ name.toList

/-- All names of the path are names. -/
def IsProper (path : Path) : Prop :=
  ∀ name ∈ path.names, IsName name

theorem isName_of_mem_namesOf {text : List Char} {name : String} (h : name ∈ namesOf text) :
    IsName name := by
  obtain ⟨piece, hpiece, hname⟩ := List.mem_filterMap.1 h
  split at hname
  · simp at hname
  · rename_i hkept
    obtain rfl : String.ofList piece = name := by simpa using hname
    rw [not_or] at hkept
    refine ⟨?_, ?_, ?_⟩
    · rw [Ne, String.ext_iff, String.toList_ofList]
      exact hkept.1
    · rw [Ne, String.ext_iff, String.toList_ofList]
      exact hkept.2
    · rw [String.toList_ofList]
      exact Text.sep_not_mem_of_mem_pieces '/' text piece hpiece

theorem isProper_ofChars (text : List Char) : (ofChars text).IsProper :=
  fun _ h => isName_of_mem_namesOf h

theorem isProper_ofString (text : String) : (ofString text).IsProper :=
  isProper_ofChars text.toList

theorem IsProper.join {path next : Path} (h : path.IsProper) (hnext : next.IsProper) :
    (path.join next).IsProper := by
  unfold Path.join
  split
  · exact hnext
  · intro name hname
    rcases List.mem_append.1 hname with hname | hname
    · exact h name hname
    · exact hnext name hname

theorem IsProper.child {path : Path} (h : path.IsProper) (name : String) :
    (path.child name).IsProper :=
  h.join (isProper_ofString name)

/-! ## Section 2: One name as a path -/

theorem namesOf_slash (text : List Char) : namesOf ('/' :: text) = namesOf text := by
  simp [namesOf, Text.pieces]

theorem namesOf_append (front rest : List Char) :
    namesOf (front ++ '/' :: rest) = namesOf front ++ namesOf rest := by
  rw [namesOf, Text.pieces_append, List.filterMap_append]
  rfl

theorem namesOf_of_isName {name : String} (h : IsName name) : namesOf name.toList = [name] := by
  have hne : name.toList ≠ [] := by
    intro he
    exact h.ne_empty (String.toList_eq_nil_iff.1 he)
  have hdot : name.toList ≠ ['.'] := by
    intro he
    exact h.ne_dot (String.ext_iff.2 he)
  rw [namesOf, Text.pieces_of_not_mem h.slash_not_mem]
  simp [hne, hdot, String.ofList_toList]

/-- Leading slashes end where something else stands. -/
theorem takeWhile_slashes {front rest : List Char} (hfront : ∀ c ∈ front, c = '/')
    (h : rest.head? ≠ some '/') : (front ++ rest).takeWhile (· == '/') = front ∧
      (front ++ rest).dropWhile (· == '/') = rest := by
  refine Text.takeWhile_append_of_head (fun c hc => by simp [hfront c hc]) fun c hc => ?_
  rw [beq_eq_false_iff_ne]
  rintro rfl
  exact h hc

theorem anchorOf_of_head {text : List Char} (h : text.head? ≠ some '/') :
    anchorOf text = .relative := by
  have hnone := (@takeWhile_slashes [] text (by simp) h).1
  rw [List.nil_append] at hnone
  rw [anchorOf, hnone]
  rfl

theorem head?_ne_slash {name : List Char} (h : '/' ∉ name) : name.head? ≠ some '/' := by
  cases name with
  | nil => simp
  | cons c rest =>
    rintro hc
    obtain rfl : c = '/' := by simpa using hc
    simp at h

theorem ofString_of_isName {name : String} (h : IsName name) :
    ofString name = ⟨.relative, [name]⟩ := by
  rw [ofString, ofChars, anchorOf_of_head (head?_ne_slash h.slash_not_mem), namesOf_of_isName h]

@[simp]
theorem ofString_dot : ofString "." = ⟨.relative, []⟩ := by
  decide

theorem child_of_isName (path : Path) {name : String} (h : IsName name) :
    path.child name = ⟨path.anchor, path.names ++ [name]⟩ := by
  rw [child, ofString_of_isName h]
  rfl

/-! ## Section 3: All names -/

theorem namesOf_joinPieces {names : List String} (h : ∀ name ∈ names, IsName name) :
    namesOf (Text.joinPieces ['/'] (names.map String.toList)) = names := by
  by_cases hne : names = []
  · subst hne
    rfl
  · have hparts : names.map String.toList ≠ [] := by simpa using hne
    have hsep : ∀ part ∈ names.map String.toList, '/' ∉ part := by
      intro part hpart
      obtain ⟨name, hname, rfl⟩ := List.mem_map.1 hpart
      exact (h name hname).slash_not_mem
    rw [namesOf, Text.pieces_joinPieces hparts hsep, List.filterMap_map]
    -- Every part is kept, and kept as the name it came from.
    have hkept : ∀ name ∈ names,
        ((fun piece => if piece = [] ∨ piece = ['.'] then none else some (String.ofList piece)) ∘
          String.toList) name = some name := by
      intro name hname
      have hn := h name hname
      have h₁ : name ≠ "" := hn.ne_empty
      have h₂ : name.toList ≠ ['.'] := fun he => hn.ne_dot (String.ext_iff.2 he)
      simp [h₁, h₂, String.ofList_toList]
    rw [List.filterMap_congr hkept, List.filterMap_some]

/-- Names leave something behind when they are joined. -/
theorem joinPieces_ne_nil {names : List String} (hnames : names ≠ [])
    (h : ∀ name ∈ names, IsName name) :
    Text.joinPieces ['/'] (names.map String.toList) ≠ [] := by
  intro hempty
  have hread := namesOf_joinPieces h
  rw [hempty] at hread
  exact hnames hread.symm

theorem head?_joinPieces_ne_slash {names : List String} (h : ∀ name ∈ names, IsName name) :
    (Text.joinPieces ['/'] (names.map String.toList)).head? ≠ some '/' := by
  cases names with
  | nil => simp [Text.joinPieces]
  | cons first rest =>
    have hfirst := h first (by simp)
    have hne : first.toList ≠ [] := fun he => hfirst.ne_empty (String.toList_eq_nil_iff.1 he)
    have hhead := head?_ne_slash hfirst.slash_not_mem
    cases rest with
    | nil => simpa [Text.joinPieces] using hhead
    | cons next more =>
      obtain ⟨c, chars, hchars⟩ := List.exists_cons_of_ne_nil hne
      rw [List.map_cons, Text.joinPieces_cons (by simp), hchars]
      rw [hchars] at hhead
      exact hhead

/-! ## Section 4: Texts of paths -/

/-- The characters of a path's text. -/
theorem toList_text (path : Path) : path.text.toList =
    if path.anchor = .relative ∧ path.names = [] then ['.']
    else path.anchor.text.toList ++ Text.joinPieces ['/'] (path.names.map String.toList) := by
  obtain ⟨anchor, names⟩ := path
  cases anchor <;> cases names <;> simp [text, joinNames, Anchor.text, String.toList_ofList]

theorem takeWhile_anchor (anchor : Anchor) {rest : List Char} (h : rest.head? ≠ some '/') :
    (anchor.text.toList ++ rest).takeWhile (· == '/') = anchor.text.toList ∧
      (anchor.text.toList ++ rest).dropWhile (· == '/') = rest := by
  refine takeWhile_slashes ?_ h
  cases anchor <;> simp [Anchor.text]

/-- Leading slashes followed by something else are read as the anchor they
    are written for. -/
theorem anchorOf_text (anchor : Anchor) {rest : List Char} (h : rest.head? ≠ some '/') :
    anchorOf (anchor.text.toList ++ rest) = anchor := by
  rw [anchorOf, (takeWhile_anchor anchor h).1]
  cases anchor <;> decide

theorem namesOf_anchor (anchor : Anchor) (rest : List Char) :
    namesOf (anchor.text.toList ++ rest) = namesOf rest := by
  cases anchor with
  | relative => rfl
  | root => exact namesOf_slash rest
  | doubleRoot => exact (namesOf_slash ('/' :: rest)).trans (namesOf_slash rest)

/-- The text of a proper path spells that path. -/
theorem ofString_text {path : Path} (h : path.IsProper) : ofString path.text = path := by
  rw [ofString, toList_text]
  split
  · rename_i hdot
    obtain ⟨anchor, names⟩ := path
    obtain ⟨rfl, rfl⟩ : anchor = .relative ∧ names = [] := hdot
    decide
  · rw [ofChars, namesOf_anchor, namesOf_joinPieces h,
      anchorOf_text _ (head?_joinPieces_ne_slash h)]

/-- The characters of a text, dots and slashes apart, are those of its names. -/
theorem mem_text {path : Path} {c : Char} (hdot : c ≠ '.') (hslash : c ≠ '/') :
    c ∈ path.text.toList ↔ ∃ name ∈ path.names, c ∈ name.toList := by
  have hanchor : c ∉ path.anchor.text.toList := by
    cases path.anchor <;> simp [Anchor.text, hslash]
  rw [toList_text]
  constructor
  · intro h
    split at h
    · exact absurd (by simpa using h) hdot
    · rcases List.mem_append.1 h with h | h
      · exact absurd h hanchor
      · rcases Text.mem_joinPieces h with h | ⟨part, hpart, hc⟩
        · exact absurd (by simpa using h) hslash
        · obtain ⟨name, hname, rfl⟩ := List.mem_map.1 hpart
          exact ⟨name, hname, hc⟩
  · rintro ⟨name, hname, hc⟩
    have hne : path.names ≠ [] := List.ne_nil_of_mem hname
    rw [if_neg (by simp [hne])]
    exact List.mem_append_right _
      (Text.mem_joinPieces_of_mem (List.mem_map_of_mem hname) hc)

theorem text_ne_empty (path : Path) (h : path.IsProper) : path.text ≠ "" := by
  intro he
  have hread := ofString_text h
  rw [he] at hread
  rw [← hread] at he
  exact absurd he (by decide)

end Path

end DenoBridge
