import DenoBridge.Proofs.Url.Segments

/-! # Segments that stay

    Which segments of a path stay can be read from its end: every climb that was
    met takes the nearest name in front of it, and a climb that finds none comes
    to nothing (`standing`).  Resolving, which goes the other way and keeps a
    stack, leaves these segments (`resolveAfter_eq`), with an empty one behind
    them where a dot segment stood last.

    So a resolved path starts with a slash, ends in one exactly when it should,
    keeps its empty segments, and never leads above the top
    (`isResolution_resolveDots`).
-/

namespace DenoBridge.Url

variable {segments kept more : List (List Char)} {segment path : List Char}

/-! ## Section 1: Reading from the end -/

/-- Does the segment stand for a place relative to others? -/
def isDotSegment (segment : List Char) : Bool :=
  isSingleDot segment || isDoubleDot segment

/-- The names that stay, and the number of climbs that have no name to take
    in front of them. -/
def standing : List (List Char) → List (List Char) × Nat
  | [] => ([], 0)
  | segment :: more =>
    let (names, climbs) := standing more
    if isDoubleDot segment then (names, climbs + 1)
    else if isSingleDot segment then (names, climbs)
    else
      match climbs with
      | 0 => (segment :: names, 0)
      | waiting + 1 => (names, waiting)

/-- The empty segment that a dot segment leaves where it stood last. -/
def ending (segments : List (List Char)) : List (List Char) :=
  if segments.getLast?.any isDotSegment then [[]] else []

/-- The climbs that wait take their names from the segments kept. -/
theorem keepInner_standing (kept : List (List Char)) (segment : List Char)
    (more : List (List Char)) :
    ((keepInner kept segment).drop (standing more).2).reverse ++ (standing more).1 =
      (kept.drop (standing (segment :: more)).2).reverse ++ (standing (segment :: more)).1 := by
  rcases hmore : standing more with ⟨names, climbs⟩
  unfold keepInner standing
  rw [hmore]
  split_ifs with hdouble hsingle
  · simp [List.drop_tail]
  · rfl
  · -- A name stays, unless one of the climbs waits for it.
    cases climbs with
    | zero => simp
    | succ waiting => simp

/-- The last segment is kept like any other, and what it leaves behind. -/
theorem keepLast_eq (kept : List (List Char)) (segment : List Char) :
    keepLast kept segment = ending [segment] ++ keepInner kept segment := by
  unfold keepLast keepInner ending
  by_cases hdouble : isDoubleDot segment = true
  · simp [isDotSegment, hdouble]
  · by_cases hsingle : isSingleDot segment = true
    · simp [isDotSegment, hdouble, hsingle]
    · simp [isDotSegment, hdouble, hsingle]

theorem reverse_ending (segments : List (List Char)) :
    (ending segments).reverse = ending segments := by
  unfold ending
  split <;> rfl

/-- Resolving from the start leaves what is standing from the end. -/
theorem resolveAfter_eq (kept segments : List (List Char)) :
    resolveAfter kept segments =
      (kept.drop (standing segments).2).reverse ++ (standing segments).1 ++ ending segments := by
  fun_induction resolveAfter kept segments with
  | case1 kept => simp [standing, ending]
  | case2 kept segment =>
    rw [keepLast_eq, List.reverse_append, reverse_ending, ← keepInner_standing]
    simp [standing]
  | case3 kept segment next more ih =>
    rw [ih, keepInner_standing]
    rfl

/-! ## Section 2: Segments behind their slashes -/

/-- Segments with a slash in front of each. -/
def written (segments : List (List Char)) : List Char :=
  segments.flatMap ('/' :: ·)

theorem written_cons (segment : List Char) (more : List (List Char)) :
    written (segment :: more) = '/' :: (segment ++ written more) := by
  simp [written]

theorem written_concat (before : List (List Char)) (segment : List Char) :
    written (before ++ [segment]) = written before ++ '/' :: segment := by
  simp [written]

theorem written_pieces (rest : List Char) : written (Text.pieces '/' rest) = '/' :: rest := by
  rw [written, Text.flatMap_sep (Text.pieces_ne_nil '/' rest), Text.joinPieces_pieces]

theorem resolveDots_slash (rest : List Char) :
    resolveDots ('/' :: rest) = written (resolveAfter [] (Text.pieces '/' rest)) := by
  rw [resolveDots_eq, resolved_slash, written,
    Text.flatMap_sep (resolveAfter_ne_nil (Text.pieces_ne_nil '/' rest))]

/-- The text ends in a slash when its last segment is empty. -/
theorem getLast?_written {last : List Char} (h : segments.getLast? = some last)
    (hslash : '/' ∉ last) : (written segments).getLast? = some '/' ↔ last = [] := by
  obtain ⟨before, rfl⟩ := List.getLast?_eq_some_iff.1 h
  rw [written_concat, List.getLast?_append_of_ne_nil _ (by simp)]
  cases last with
  | nil => simp
  | cons c name =>
    rw [List.getLast?_cons_cons]
    constructor
    · intro hlast
      exact absurd (List.mem_of_getLast? hlast) hslash
    · intro hnil
      cases hnil

/-- The last segment stays, unless it is a dot segment. -/
theorem getLast?_resolveAfter {last : List Char} (kept : List (List Char))
    (h : segments.getLast? = some last) :
    (resolveAfter kept segments).getLast? =
      some (if isDotSegment last = true then [] else last) := by
  fun_induction resolveAfter kept segments with
  | case1 kept => cases h
  | case2 kept segment =>
    obtain rfl : segment = last := Option.some.inj h
    rw [List.getLast?_reverse, keepLast_eq]
    by_cases hdots : isDotSegment segment = true
    · simp [ending, hdots]
    · obtain ⟨hsingle, hdouble⟩ : isSingleDot segment = false ∧ isDoubleDot segment = false := by
        simpa [isDotSegment] using hdots
      simp [ending, keepInner, hdots, hsingle, hdouble]
  | case3 kept segment next more ih => exact ih h

/-! ## Section 3: Resolved paths -/

/-- A double dot has no slash in it. -/
theorem slash_not_mem_of_isDoubleDot (h : isDoubleDot segment = true) : '/' ∉ segment := by
  have hnone : ∀ spelling ∈ doubleDots, '/' ∉ spelling := by decide
  intro hslash
  exact hnone _ (List.contains_iff_mem.1 h) ((Text.mem_asciiLower (by decide)).2 hslash)

/-- The second text is the first one with the dot segments removed. -/
structure IsResolution (path result : List Char) : Prop where
  start : result.head? = some '/'
  no_dots : ∀ segment ∈ Text.pieces '/' result, isDotSegment segment = false
  /-- The place above the top is the top. -/
  above_top : ∀ climb, isDoubleDot climb = true → resolveDots ('/' :: (climb ++ path)) = result
  /-- An empty segment is a name like any other. -/
  segments : (Text.pieces '/' result).tail =
    (standing (Text.pieces '/' path).tail).1 ++ ending (Text.pieces '/' path)
  unchanged : (∀ segment ∈ Text.pieces '/' path, isDotSegment segment = false) → result = path
  trailing : result.getLast? = some '/' ↔
    ∃ last, (Text.pieces '/' path).getLast? = some last ∧ (last = [] ∨ isDotSegment last = true)

theorem IsOrdinary.isDotSegment (h : IsOrdinary segment) : isDotSegment segment = false := by
  rw [Url.isDotSegment, h.not_single, h.not_double]
  rfl

theorem pieces_resolveDots (rest : List Char) : Text.pieces '/' (resolveDots ('/' :: rest)) =
    [] :: resolveAfter [] (Text.pieces '/' rest) := by
  have hslash : ∀ part ∈ resolved ('/' :: rest), '/' ∉ part :=
    fun part hpart => (isOrdinary_of_mem_resolved hpart).slash_not_mem
  rw [resolveDots_eq, pieces_slash, Text.pieces_joinPieces (resolved_ne_nil rest) hslash,
    resolved_slash]

theorem resolveDots_climb (h : isDoubleDot segment = true) (rest : List Char) :
    resolveDots ('/' :: (segment ++ '/' :: rest)) = resolveDots ('/' :: rest) := by
  obtain ⟨next, more, hpieces⟩ := List.exists_cons_of_ne_nil (Text.pieces_ne_nil '/' rest)
  rw [resolveDots_slash, resolveDots_slash,
    Text.pieces_append_sep (slash_not_mem_of_isDoubleDot h), hpieces, resolveAfter, keepInner,
    if_pos h, List.tail_nil]

theorem resolveDots_of_no_dots {rest : List Char}
    (h : ∀ segment ∈ Text.pieces '/' rest, isDotSegment segment = false) :
    resolveDots ('/' :: rest) = '/' :: rest := by
  have hordinary : ∀ segment ∈ Text.pieces '/' rest, IsOrdinary segment := by
    intro segment hsegment
    obtain ⟨hsingle, hdouble⟩ := Bool.or_eq_false_iff.1 (h segment hsegment)
    exact ⟨hsingle, hdouble, Text.sep_not_mem_of_mem_pieces '/' rest segment hsegment⟩
  rw [resolveDots_slash, resolveAfter_of_isOrdinary hordinary, List.reverse_nil, List.nil_append,
    written_pieces]

theorem isResolution_resolveDots (rest : List Char) :
    IsResolution ('/' :: rest) (resolveDots ('/' :: rest)) := by
  have hne : Text.pieces '/' rest ≠ [] := Text.pieces_ne_nil '/' rest
  have hlast : (Text.pieces '/' ('/' :: rest)).getLast? = (Text.pieces '/' rest).getLast? := by
    rw [pieces_slash, List.getLast?_cons_of_ne_nil hne]
  refine ⟨rfl, ?no_dots, ?above_top, ?segments, ?unchanged, ?trailing⟩
  case no_dots =>
    intro segment hsegment
    rw [pieces_resolveDots] at hsegment
    rcases List.mem_cons.1 hsegment with rfl | hstays
    · decide
    · rw [← resolved_slash] at hstays
      exact (isOrdinary_of_mem_resolved hstays).isDotSegment
  case above_top =>
    intro climb hclimb
    exact resolveDots_climb hclimb rest
  case segments =>
    rw [ending, hlast, ← ending, pieces_resolveDots, resolveAfter_eq, pieces_slash]
    simp
  case unchanged =>
    intro hdots
    rw [pieces_slash, List.forall_mem_cons] at hdots
    exact resolveDots_of_no_dots hdots.2
  case trailing =>
    -- The path ends in the segment that stays last, so in a slash when this is empty.
    obtain ⟨last, hsome⟩ := Option.isSome_iff_exists.1 (List.getLast?_isSome.2 hne)
    have hslash : '/' ∉ last :=
      Text.sep_not_mem_of_mem_pieces '/' rest last (List.mem_of_getLast? hsome)
    have hend : '/' ∉ if isDotSegment last = true then [] else last := by
      split
      · simp
      · exact hslash
    rw [resolveDots_slash, getLast?_written (getLast?_resolveAfter [] hsome) hend, hlast, hsome]
    by_cases hdots : isDotSegment last = true
    · simp [hdots]
    · simp [hdots]

end DenoBridge.Url
