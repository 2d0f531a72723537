import DenoBridge.Text.Split

/-! # Pieces and joins

    Cutting at a separator undoes joining with it, as long as no part holds
    the separator (`pieces_joinPieces`).  Together with `joinPieces_pieces`
    this makes texts and lists of separator-free parts two views of one
    thing.
-/

namespace DenoBridge.Text

/-! ## Section 1: Cutting what was joined -/

theorem pieces_of_not_mem {sep : Char} {text : List Char} (h : sep ∉ text) :
    pieces sep text = [text] := by
  induction text with
  | nil => rfl
  | cons c rest ih =>
    simp only [List.mem_cons, not_or] at h
    obtain ⟨hc, hrest⟩ := h
    rw [pieces, if_neg (Ne.symm hc), ih hrest]

/-- The pieces of both sides of a separator, one after the other. -/
theorem pieces_append (sep : Char) (front rest : List Char) :
    pieces sep (front ++ sep :: rest) = pieces sep front ++ pieces sep rest := by
  induction front with
  | nil => simp [pieces]
  | cons c front ih =>
    by_cases hc : c = sep
    · rw [List.cons_append, pieces, if_pos hc, ih, pieces, if_pos hc]
      rfl
    · -- The first piece of what is left grows by one character, on both sides.
      obtain ⟨piece, more, hpieces⟩ := List.exists_cons_of_ne_nil (pieces_ne_nil sep front)
      rw [List.cons_append, pieces, if_neg hc, ih, pieces, if_neg hc, hpieces]
      rfl

theorem pieces_append_sep {sep : Char} {front : List Char} (h : sep ∉ front) (rest : List Char) :
    pieces sep (front ++ sep :: rest) = front :: pieces sep rest := by
  rw [pieces_append, pieces_of_not_mem h]
  rfl

theorem joinPieces_cons {sep : List Char} {parts : List (List Char)} (hne : parts ≠ [])
    (piece : List Char) :
    joinPieces sep (piece :: parts) = piece ++ sep ++ joinPieces sep parts := by
  obtain ⟨next, more, rfl⟩ := List.exists_cons_of_ne_nil hne
  rfl

/-- Parts that each begin with the separator are their join behind one. -/
theorem flatMap_sep {sep : Char} {parts : List (List Char)} (hne : parts ≠ []) :
    parts.flatMap (sep :: ·) = sep :: joinPieces [sep] parts := by
  induction parts with
  | nil => exact absurd rfl hne
  | cons part more ih =>
    by_cases hmore : more = []
    · subst hmore
      simp [joinPieces]
    · rw [List.flatMap_cons, ih hmore, joinPieces_cons hmore]
      simp

/-- The pieces of a text that each end in the separator are the text with one
    more at its end. -/
theorem flatMap_pieces (sep : Char) (text : List Char) :
    ((pieces sep text).flatMap fun piece => piece ++ [sep]) = text ++ [sep] := by
  induction text with
  | nil => rfl
  | cons c rest ih =>
    obtain ⟨piece, more, hpieces⟩ := List.exists_cons_of_ne_nil (pieces_ne_nil sep rest)
    rw [hpieces] at ih
    by_cases hc : c = sep
    · simpa [pieces, hc, hpieces] using ih
    · simpa [pieces, hc, hpieces] using ih

/-- Parts without the separator come back from their join. -/
theorem pieces_joinPieces {sep : Char} {parts : List (List Char)} (hne : parts ≠ [])
    (h : ∀ part ∈ parts, sep ∉ part) : pieces sep (joinPieces [sep] parts) = parts := by
  induction parts with
  | nil => exact absurd rfl hne
  | cons part more ih =>
    have hpart : sep ∉ part := h part (by simp)
    by_cases hmore : more = []
    · subst hmore
      exact pieces_of_not_mem hpart
    · rw [joinPieces_cons hmore, List.append_assoc, List.singleton_append, pieces_append_sep hpart,
        ih hmore fun p hp => h p (by simp [hp])]

/-! ## Section 2: What a piece or a join holds -/

theorem mem_joinPieces_of_mem {sep part : List Char} {parts : List (List Char)} {c : Char}
    (hpart : part ∈ parts) (hc : c ∈ part) : c ∈ joinPieces sep parts := by
  induction parts with
  | nil => simp at hpart
  | cons first more ih =>
    by_cases hmore : more = []
    · subst hmore
      obtain rfl : part = first := by simpa using hpart
      exact hc
    · rw [joinPieces_cons hmore]
      rcases List.mem_cons.1 hpart with rfl | hpart
      · simp [hc]
      · simp [ih hpart]

theorem mem_joinPieces {sep : List Char} {parts : List (List Char)} {c : Char}
    (h : c ∈ joinPieces sep parts) : c ∈ sep ∨ ∃ part ∈ parts, c ∈ part := by
  induction parts with
  | nil => simp [joinPieces] at h
  | cons part more ih =>
    by_cases hmore : more = []
    · subst hmore
      exact .inr ⟨part, by simp, h⟩
    · rw [joinPieces_cons hmore] at h
      rcases List.mem_append.1 h with h | h
      · rcases List.mem_append.1 h with h | h
        · exact .inr ⟨part, by simp, h⟩
        · exact .inl h
      · rcases ih h with h | ⟨p, hp, hc⟩
        · exact .inl h
        · exact .inr ⟨p, by simp [hp], hc⟩

/-- Nothing in a piece is new. -/
theorem infix_joinPieces {sep part : List Char} {parts : List (List Char)} (h : part ∈ parts) :
    part <:+: joinPieces sep parts := by
  induction parts with
  | nil => cases h
  | cons first more ih =>
    by_cases hmore : more = []
    · subst hmore
      obtain rfl := List.mem_singleton.1 h
      exact List.infix_rfl
    · rw [joinPieces_cons hmore]
      rcases List.mem_cons.1 h with rfl | hpart
      · rw [List.append_assoc]
        exact (List.prefix_append _ _).isInfix
      · exact (ih hpart).trans (List.suffix_append _ _).isInfix

theorem infix_of_mem_pieces {sep : Char} {text piece : List Char} (h : piece ∈ pieces sep text) :
    piece <:+: text := by
  have hjoined : piece <:+: joinPieces [sep] (pieces sep text) := infix_joinPieces h
  rwa [joinPieces_pieces] at hjoined

theorem mem_of_mem_pieces {sep : Char} {text piece : List Char} {c : Char}
    (hpiece : piece ∈ pieces sep text) (hc : c ∈ piece) : c ∈ text :=
  (infix_of_mem_pieces hpiece).subset hc

/-! ## Section 3: What a cut leaves -/

/-- A class of characters is passed over up to the first one outside it. -/
theorem takeWhile_append_of_head {keep : Char → Bool} {front back : List Char}
    (hfront : ∀ c ∈ front, keep c = true) (hback : ∀ c, back.head? = some c → keep c = false) :
    (front ++ back).takeWhile keep = front ∧ (front ++ back).dropWhile keep = back := by
  rw [List.takeWhile_append_of_pos hfront, List.dropWhile_append_of_pos hfront]
  cases back with
  | nil => simp
  | cons c more => simp [hback c rfl]

section

variable {sep : Char} {front : List Char}

/-- What holds no separator is before the cut. -/
theorem cutAt_append_left (h : sep ∉ front) (rest : List Char) :
    cutAt (· == sep) (front ++ rest) =
      (front ++ (cutAt (· == sep) rest).1, (cutAt (· == sep) rest).2) := by
  induction front with
  | nil => rfl
  | cons c front ih =>
    rw [List.mem_cons, not_or] at h
    rw [List.cons_append, cutAt, if_neg (by simpa using Ne.symm h.1), ih h.2]
    rfl

theorem cutAt_append (h : sep ∉ front) (rest : List Char) :
    cutAt (· == sep) (front ++ sep :: rest) = (front, some rest) := by
  rw [cutAt_append_left h, cutAt, if_pos (beq_self_eq_true sep), List.append_nil]

/-- Without a separator, all of the text is before the cut. -/
theorem cutAt_of_not_mem (h : sep ∉ front) : cutAt (· == sep) front = (front, none) := by
  have hcut := cutAt_append_left h []
  rwa [cutAt, List.append_nil] at hcut

end

/-- A text that was cut at a separator, as it was before. -/
theorem of_cutAt {sep : Char} {text front : List Char} {back : Option (List Char)}
    (h : cutAt (· == sep) text = (front, back)) :
    sep ∉ front ∧ text = front ++ (back.map (sep :: ·)).getD [] := by
  induction text generalizing front with
  | nil =>
    obtain ⟨rfl, rfl⟩ := Prod.mk.inj h
    simp
  | cons c rest ih =>
    unfold cutAt at h
    split at h
    · rename_i hc
      obtain ⟨rfl, rfl⟩ := Prod.mk.inj h
      simpa using hc
    · rename_i hc
      cases hcut : cutAt (· == sep) rest with
      | mk before after =>
        rw [hcut] at h
        obtain ⟨rfl, rfl⟩ := Prod.mk.inj h
        obtain ⟨hsep, hrest⟩ := ih hcut
        refine ⟨?_, by rw [List.cons_append, ← hrest]⟩
        rw [List.mem_cons, not_or]
        exact ⟨fun heq => hc (by simp [heq]), hsep⟩

theorem mem_of_mem_cutAt_fst {stop : Char → Bool} {text : List Char} {c : Char}
    (h : c ∈ (cutAt stop text).1) : c ∈ text := by
  induction text with
  | nil => simp [cutAt] at h
  | cons d rest ih =>
    unfold cutAt at h
    split at h
    · simp at h
    · rcases List.mem_cons.1 h with rfl | h
      · simp
      · exact List.mem_cons_of_mem _ (ih h)

theorem mem_of_mem_cutAt_snd {stop : Char → Bool} {text after : List Char} {c : Char}
    (hafter : (cutAt stop text).2 = some after) (h : c ∈ after) : c ∈ text := by
  induction text with
  | nil => simp [cutAt] at hafter
  | cons d rest ih =>
    unfold cutAt at hafter
    split at hafter
    · obtain rfl : rest = after := by simpa using hafter
      exact List.mem_cons_of_mem _ h
    · exact List.mem_cons_of_mem _ (ih hafter)

theorem mem_of_mem_cutAtLast_snd {sep : Char} {text : List Char} {c : Char}
    (h : c ∈ (cutAtLast sep text).2) : c ∈ text := by
  have hfst : (cutAtLast sep text).2 = (cutAt (· == sep) text.reverse).1.reverse := by
    unfold cutAtLast
    split <;> simp_all
  rw [hfst, List.mem_reverse] at h
  exact List.mem_reverse.1 (mem_of_mem_cutAt_fst h)

end DenoBridge.Text
