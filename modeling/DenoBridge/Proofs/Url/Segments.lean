import DenoBridge.Proofs.Url.Encoding

/-! # Paths without dot segments

    Resolving leaves ordinary segments only (`isOrdinary_of_mem_resolved`)
    and leaves those as they are (`resolveAfter_of_isOrdinary`).  It does not
    matter whether segments are encoded before or after dots are resolved
    (`percentEncode_resolveDots`), and what was resolved and encoded stays the
    same when this is done again (`resolveDots_percentEncode`).
-/

namespace DenoBridge.Url

variable {segments kept : List (List Char)} {segment s path : List Char}

/-! ## Section 1: Ordinary segments -/

/-- The segment is a name and stands for no place relative to others. -/
structure IsOrdinary (segment : List Char) : Prop where
  not_single : isSingleDot segment = false
  not_double : isDoubleDot segment = false
  slash_not_mem : '/' ∉ segment

theorem isOrdinary_nil : IsOrdinary [] :=
  ⟨by decide, by decide, by simp⟩

theorem mem_keepInner (h : s ∈ keepInner kept segment) :
    s ∈ kept ∨ s = segment ∧ isSingleDot s = false ∧ isDoubleDot s = false := by
  unfold keepInner at h
  split_ifs at h with hdouble hsingle
  · exact .inl (List.mem_of_mem_tail h)
  · exact .inl h
  · rcases List.mem_cons.1 h with rfl | h
    · exact .inr ⟨rfl, by simpa using hsingle, by simpa using hdouble⟩
    · exact .inl h

theorem mem_keepLast (h : s ∈ keepLast kept segment) :
    s ∈ kept ∨ s = [] ∨ s = segment ∧ isSingleDot s = false ∧ isDoubleDot s = false := by
  unfold keepLast at h
  split_ifs at h with hdouble hsingle <;> rcases List.mem_cons.1 h with rfl | h
  · exact .inr (.inl rfl)
  · exact .inl (List.mem_of_mem_tail h)
  · exact .inr (.inl rfl)
  · exact .inl h
  · exact .inr (.inr ⟨rfl, by simpa using hsingle, by simpa using hdouble⟩)
  · exact .inl h

/-- A segment that stays was kept before, is empty, or is one of the segments
    and no dot segment. -/
theorem mem_resolveAfter (h : s ∈ resolveAfter kept segments) :
    s ∈ kept ∨ s = [] ∨ s ∈ segments ∧ isSingleDot s = false ∧ isDoubleDot s = false := by
  fun_induction resolveAfter kept segments with
  | case1 kept => exact .inl (List.mem_reverse.1 h)
  | case2 kept segment => simpa using mem_keepLast (List.mem_reverse.1 h)
  | case3 kept segment next more ih =>
    rcases ih h with hinner | hnil | ⟨hmore, hdots⟩
    · exact (mem_keepInner hinner).imp_right fun ⟨heq, hdots⟩ => .inr ⟨by simp [heq], hdots⟩
    · exact .inr (.inl hnil)
    · exact .inr (.inr ⟨List.mem_cons_of_mem _ hmore, hdots⟩)

theorem keepLast_ne_nil (kept : List (List Char)) (segment : List Char) :
    keepLast kept segment ≠ [] := by
  unfold keepLast
  split
  · simp
  · split <;> simp

/-- A path ends in a segment, if only an empty one. -/
theorem resolveAfter_ne_nil (hne : segments ≠ []) : resolveAfter kept segments ≠ [] := by
  fun_induction resolveAfter kept segments with
  | case1 kept => exact absurd rfl hne
  | case2 kept segment => simpa using keepLast_ne_nil kept segment
  | case3 kept segment next more ih => exact ih (by simp)

theorem resolveAfter_of_isOrdinary (h : ∀ s ∈ segments, IsOrdinary s) :
    resolveAfter kept segments = kept.reverse ++ segments := by
  fun_induction resolveAfter kept segments with
  | case1 kept => simp
  | case2 kept segment =>
    have hsegment := h segment (by simp)
    simp [keepLast, hsegment.not_single, hsegment.not_double]
  | case3 kept segment next more ih =>
    have hsegment := h segment (by simp)
    rw [ih fun s hs => h s (List.mem_cons_of_mem _ hs)]
    simp [keepInner, hsegment.not_single, hsegment.not_double]

/-! ## Section 2: The segments of a path -/

/-- The segments of a path that stay. -/
def resolved (path : List Char) : List (List Char) :=
  resolveAfter [] (Text.pieces '/' path).tail

theorem resolveDots_eq (path : List Char) :
    resolveDots path = '/' :: Text.joinPieces ['/'] (resolved path) :=
  rfl

theorem mem_resolved (h : s ∈ resolved path) :
    s = [] ∨ s ∈ Text.pieces '/' path ∧ isSingleDot s = false ∧ isDoubleDot s = false := by
  rcases mem_resolveAfter h with hkept | hnil | ⟨htail, hdots⟩
  · simp at hkept
  · exact .inl hnil
  · exact .inr ⟨List.mem_of_mem_tail htail, hdots⟩

/-- Only ordinary segments stay. -/
theorem isOrdinary_of_mem_resolved (h : s ∈ resolved path) : IsOrdinary s := by
  rcases mem_resolved h with rfl | ⟨hpiece, hsingle, hdouble⟩
  · exact isOrdinary_nil
  · exact ⟨hsingle, hdouble, Text.sep_not_mem_of_mem_pieces '/' path s hpiece⟩

theorem pieces_slash (rest : List Char) : Text.pieces '/' ('/' :: rest) =
    [] :: Text.pieces '/' rest := by
  simp [Text.pieces]

theorem resolved_slash (rest : List Char) :
    resolved ('/' :: rest) = resolveAfter [] (Text.pieces '/' rest) := by
  rw [resolved, pieces_slash, List.tail_cons]

theorem resolved_ne_nil (rest : List Char) : resolved ('/' :: rest) ≠ [] := by
  rw [resolved_slash]
  exact resolveAfter_ne_nil (Text.pieces_ne_nil '/' rest)

/-- A path of ordinary segments has just these segments. -/
theorem resolved_joinPieces (hne : segments ≠ []) (h : ∀ s ∈ segments, IsOrdinary s) :
    resolved ('/' :: Text.joinPieces ['/'] segments) = segments := by
  rw [resolved_slash, Text.pieces_joinPieces hne fun s hs => (h s hs).slash_not_mem,
    resolveAfter_of_isOrdinary h]
  rfl

/-- Nothing in a resolved path is new but the slash at its start. -/
theorem mem_of_mem_resolveDots {c : Char} (h : c ∈ resolveDots path) : c = '/' ∨ c ∈ path := by
  rw [resolveDots_eq] at h
  rcases List.mem_cons.1 h with h | h
  · exact .inl h
  · rcases Text.mem_joinPieces h with h | ⟨s, hs, hc⟩
    · exact .inl (by simpa using h)
    · rcases mem_resolved hs with rfl | ⟨hpiece, -⟩
      · simp at hc
      · exact .inr (Text.mem_of_mem_pieces hpiece hc)

/-! ## Section 3: Segments in another spelling -/

section

variable {spell : List Char → List Char}

/-- Segments may be spelled differently before or after they are resolved, as
    long as this does not touch on what is a dot segment. -/
theorem map_resolveAfter (hnil : spell [] = [])
    (hsingle : ∀ s, isSingleDot (spell s) = isSingleDot s)
    (hdouble : ∀ s, isDoubleDot (spell s) = isDoubleDot s) (kept segments : List (List Char)) :
    (resolveAfter kept segments).map spell =
      resolveAfter (kept.map spell) (segments.map spell) := by
  fun_induction resolveAfter kept segments with
  | case1 kept => simp [resolveAfter]
  | case2 kept segment =>
    simp only [List.map_cons, List.map_nil, resolveAfter, keepLast, hsingle, hdouble]
    split_ifs <;> simp [hnil]
  | case3 kept segment next more ih =>
    have hinner : (keepInner kept segment).map spell =
        keepInner (kept.map spell) (spell segment) := by
      simp only [keepInner, hsingle, hdouble]
      split_ifs <;> simp
    rw [ih, hinner]
    rfl

end

theorem IsOrdinary.percentEncode (h : IsOrdinary segment) :
    IsOrdinary (percentEncode pathMarks segment) where
  not_single := by rw [isSingleDot_percentEncode, h.not_single]
  not_double := by rw [isDoubleDot_percentEncode, h.not_double]
  slash_not_mem := not_mem_percentEncode (by decide) h.slash_not_mem

/-- The encoded path, made of the segments that stay. -/
theorem percentEncode_resolved (path : List Char) :
    percentEncode pathMarks (resolveDots path) = '/' :: Text.joinPieces ['/']
      ((resolved path).map (percentEncode pathMarks)) := by
  have hslash : isPlain pathMarks '/' = true := by decide
  rw [resolveDots_eq, percentEncode_cons, percentChar_of_isPlain hslash,
    percentEncode_joinPieces hslash]
  rfl

/-- The encoded path, made of encoded segments. -/
theorem percentEncode_resolveDots (rest : List Char) :
    percentEncode pathMarks (resolveDots ('/' :: rest)) = '/' :: Text.joinPieces ['/']
      (resolveAfter [] ((Text.pieces '/' rest).map (percentEncode pathMarks))) := by
  rw [percentEncode_resolved, resolved_slash,
    map_resolveAfter rfl isSingleDot_percentEncode isDoubleDot_percentEncode]
  rfl

theorem isOrdinary_of_mem_encoded {path : List Char}
    (h : s ∈ (resolved path).map (percentEncode pathMarks)) : IsOrdinary s := by
  obtain ⟨segment, hsegment, rfl⟩ := List.mem_map.1 h
  exact (isOrdinary_of_mem_resolved hsegment).percentEncode

/-- What was resolved and encoded is resolved. -/
theorem resolveDots_percentEncode (rest : List Char) :
    resolveDots (percentEncode pathMarks (resolveDots ('/' :: rest))) =
      percentEncode pathMarks (resolveDots ('/' :: rest)) := by
  rw [percentEncode_resolved, resolveDots_eq,
    resolved_joinPieces (by simpa using resolved_ne_nil rest) fun s => isOrdinary_of_mem_encoded]

end DenoBridge.Url
