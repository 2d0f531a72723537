/-! # Cutting and joining text

    Texts are lists of characters.  `pieces` cuts a text at every occurrence
    of a separator and `joinPieces` is the way back; `cutAt` cuts once, at the
    first character of a class.  Main statements: nothing is lost
    (`joinPieces_pieces`), and no piece holds the separator
    (`sep_not_mem_of_mem_pieces`).
-/

namespace DenoBridge.Text

/-! ## Section 1: Pieces between separators -/

/-- The texts between the occurrences of `sep`.  There is always at least
    one piece; two neighbouring separators enclose an empty one. -/
def pieces (sep : Char) : List Char → List (List Char)
  | [] => [[]]
  | c :: rest =>
    if c = sep then [] :: pieces sep rest
    else
      match pieces sep rest with
      | [] => [[c]]
      | piece :: more => (c :: piece) :: more

/-- The pieces put together again with `sep` between each two of them. -/
def joinPieces (sep : List Char) : List (List Char) → List Char
  | [] => []
  | [piece] => piece
  | piece :: next :: more => piece ++ sep ++ joinPieces sep (next :: more)

theorem pieces_ne_nil (sep : Char) (text : List Char) : pieces sep text ≠ [] := by
  cases text with
  | nil => simp [pieces]
  | cons c rest =>
    unfold pieces
    split
    · simp
    · split <;> simp

theorem joinPieces_pieces (sep : Char) (text : List Char) :
    joinPieces [sep] (pieces sep text) = text := by
  induction text with
  | nil => rfl
  | cons c rest ih =>
    have hne := pieces_ne_nil sep rest
    unfold pieces
    split
    · rename_i h
      obtain ⟨piece, more, hp⟩ := List.exists_cons_of_ne_nil hne
      rw [hp] at ih ⊢
      simp [joinPieces, ih, h]
    · obtain ⟨piece, more, hp⟩ := List.exists_cons_of_ne_nil hne
      rw [hp] at ih ⊢
      cases more with
      | nil => simpa [joinPieces] using ih
      | cons next more => simpa [joinPieces] using ih

theorem sep_not_mem_of_mem_pieces (sep : Char) (text : List Char) :
    ∀ piece ∈ pieces sep text, sep ∉ piece := by
  induction text with
  | nil => simp [pieces]
  | cons c rest ih =>
    obtain ⟨first, more, hp⟩ := List.exists_cons_of_ne_nil (pieces_ne_nil sep rest)
    unfold pieces
    rw [hp] at ih ⊢
    split
    · intro piece hpiece
      rcases List.mem_cons.1 hpiece with rfl | h
      · simp
      · exact ih piece h
    · rename_i hc
      intro piece hpiece
      rcases List.mem_cons.1 hpiece with rfl | h
      · have := ih first (by simp)
        simp [this, Ne.symm hc]
      · exact ih piece (by simp [h])

/-! ## Section 2: One cut -/

/-- The text before the first character of the class, and the text after
    that character when there is one. -/
def cutAt (stop : Char → Bool) : List Char → List Char × Option (List Char)
  | [] => ([], none)
  | c :: rest =>
    if stop c then ([], some rest)
    else
      let (before, after) := cutAt stop rest
      (c :: before, after)

theorem length_of_cutAt {stop : Char → Bool} {text after : List Char}
    (h : (cutAt stop text).2 = some after) : after.length < text.length := by
  induction text with
  | nil => simp [cutAt] at h
  | cons c rest ih =>
    unfold cutAt at h
    split at h
    · simp_all
    · have := ih h
      simp only [List.length_cons]
      omega

/-- The text before and after the last occurrence of `sep`; without one,
    everything counts as after it. -/
def cutAtLast (sep : Char) (text : List Char) : List Char × List Char :=
  match cutAt (· == sep) text.reverse with
  | (after, none) => ([], after.reverse)
  | (after, some before) => (before.reverse, after.reverse)

/-! ## Section 3: Search and replacement -/

/-- Does `needle` occur in the text? -/
def contains (needle : List Char) : List Char → Bool
  | [] => needle.isEmpty
  | c :: rest => needle.isPrefixOf (c :: rest) || contains needle rest

/-- Every occurrence of one character replaced by another. -/
def replaceChar (old new : Char) (text : List Char) : List Char :=
  text.map fun c => if c = old then new else c

/-- The text without its last characters that belong to the class. -/
def dropTail (drop : Char → Bool) (text : List Char) : List Char :=
  (text.reverse.dropWhile drop).reverse

end DenoBridge.Text
