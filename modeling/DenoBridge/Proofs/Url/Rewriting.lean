import DenoBridge.Proofs.Text.Trim
import DenoBridge.Proofs.Url.Standing

/-! # Dot segments removed by rewriting

    Dot segments can be removed from a path without cutting it into segments:
    what is left to read stands in one buffer and what was kept in another, and
    each rewriting looks only at how the first one begins (`Buffers.step`).

    Main statement: from a path that starts with a slash, and whose dots are all
    written plainly first, rewriting leaves what resolving its segments leaves
    (`resolveDots_rewrites`).  The buffers hold the segments to come and the
    segments kept so far, each behind its slash, and this lasts from one step to
    the next (`step_written`, `run_written`).
-/

namespace DenoBridge.Url

/-! ## Section 1: Rewriting between two buffers -/

/-- A text while it is rewritten: what is left to read, and what was kept. -/
structure Buffers where
  input : List Char
  output : List Char
  deriving Repr, DecidableEq

/-- The text without its last segment and the slash in front of that. -/
def withoutLast (output : List Char) : List Char :=
  (Text.dropTail (· != '/') output).dropLast

/-- One rewriting.  Where the input begins with no dot segment, its first
    segment is kept, with the slash in front of it if there is one. -/
def Buffers.step (b : Buffers) : Buffers :=
  if "../".toList <+: b.input then { b with input := b.input.drop 3 }
  else if "./".toList <+: b.input then { b with input := b.input.drop 2 }
  else if "/./".toList <+: b.input then { b with input := '/' :: b.input.drop 3 }
  else if b.input = "/.".toList then { b with input := ['/'] }
  else if "/../".toList <+: b.input then ⟨'/' :: b.input.drop 4, withoutLast b.output⟩
  else if b.input = "/..".toList then ⟨['/'], withoutLast b.output⟩
  else if b.input = ".".toList ∨ b.input = "..".toList then { b with input := [] }
  else
    ⟨(b.input.drop 1).dropWhile (· != '/'),
      b.output ++ b.input.take 1 ++ (b.input.drop 1).takeWhile (· != '/')⟩

theorem Buffers.length_step_lt {b : Buffers} (h : b.input ≠ []) :
    b.step.input.length < b.input.length := by
  have hpos : 0 < b.input.length := List.length_pos_iff.2 h
  unfold step
  split_ifs with hup hhere hin hlast hout hend hdots
  · simp only [List.length_drop]
    omega
  · simp only [List.length_drop]
    omega
  · have hlength : 3 ≤ b.input.length := hin.length_le
    simp only [List.length_cons, List.length_drop]
    omega
  · simp [hlast]
  · have hlength : 4 ≤ b.input.length := hout.length_le
    simp only [List.length_cons, List.length_drop]
    omega
  · simp [hend]
  · simpa using hpos
  · have hrest := (List.dropWhile_suffix (l := b.input.drop 1) (· != '/')).length_le
    rw [List.length_drop] at hrest
    exact Nat.lt_of_le_of_lt hrest (by omega)

/-- What was kept when there is nothing left to read. -/
def Buffers.run (b : Buffers) : List Char :=
  if _h : b.input = [] then b.output else b.step.run
termination_by b.input.length
decreasing_by exact Buffers.length_step_lt _h

/-- The spellings of two dots with a code for one of them or both. -/
def codedDoubleDots : List (List Char) :=
  [".%2e".toList, "%2e.".toList, "%2e%2e".toList]

/-- A dot segment with its dots written plainly. -/
def plainSegment (segment : List Char) : List Char :=
  let lower := segment.map Char.toLower
  if lower = "%2e".toList then ".".toList
  else if codedDoubleDots.contains lower then "..".toList
  else segment

/-- The path with the dots of all its dot segments written plainly. -/
def plainDots (path : List Char) : List Char :=
  Text.joinPieces ['/'] ((Text.pieces '/' path).map plainSegment)

variable {segments kept more : List (List Char)} {segment : List Char}

/-! ## Section 2: Segments in the buffers -/

/-- A segment ends where the next slash stands. -/
theorem takeWhile_segment {back : List Char} (h : '/' ∉ segment)
    (hback : ∀ c, back.head? = some c → c = '/') :
    (segment ++ back).takeWhile (· != '/') = segment ∧
      (segment ++ back).dropWhile (· != '/') = back := by
  refine Text.takeWhile_append_of_head ?_ fun c hc => by simp [hback c hc]
  intro c hc
  rw [bne_iff_ne]
  rintro rfl
  exact h hc

/-- A text begins with one segment only. -/
theorem segment_unique {other back back' : List Char} (h : '/' ∉ segment) (hother : '/' ∉ other)
    (hback : ∀ c, back.head? = some c → c = '/') (hback' : ∀ c, back'.head? = some c → c = '/')
    (heq : segment ++ back = other ++ back') : segment = other := by
  obtain ⟨htake, -⟩ := takeWhile_segment h hback
  obtain ⟨htake', -⟩ := takeWhile_segment hother hback'
  rw [heq] at htake
  exact htake.symm.trans htake'

theorem head?_written (more : List (List Char)) :
    ∀ c, (written more).head? = some c → c = '/' := by
  intro c hc
  cases more with
  | nil => cases hc
  | cons next others => exact (Option.some.inj hc).symm

/-- Behind a dot segment there is another segment, if only an empty one. -/
def orEmpty (more : List (List Char)) : List (List Char) :=
  if more = [] then [[]] else more

theorem step_here (more : List (List Char)) (output : List Char) :
    (Buffers.mk (written (['.'] :: more)) output).step = ⟨written (orEmpty more), output⟩ := by
  cases more with
  | nil => simp [Buffers.step, written, orEmpty]
  | cons next others => simp [Buffers.step, written, orEmpty]

theorem step_above (more : List (List Char)) (output : List Char) :
    (Buffers.mk (written (['.', '.'] :: more)) output).step =
      ⟨written (orEmpty more), withoutLast output⟩ := by
  cases more with
  | nil => simp [Buffers.step, written, orEmpty]
  | cons next others => simp [Buffers.step, written, orEmpty]

/-- What does not begin with a dot segment loses its first segment to the
    output. -/
theorem step_name (h : '/' ∉ segment) (hhere : segment ≠ ['.']) (habove : segment ≠ ['.', '.'])
    (more : List (List Char)) (output : List Char) :
    (Buffers.mk (written (segment :: more)) output).step =
      ⟨written more, output ++ '/' :: segment⟩ := by
  -- Dots that stand in front, up to a slash or to the end, are the first segment.
  have hbegins {dots : List Char} (hdots : '/' ∉ dots) (hne : segment ≠ dots) :
      ¬ dots ++ ['/'] <+: segment ++ written more := by
    rintro ⟨rest, hrest⟩
    rw [List.append_assoc] at hrest
    exact hne (segment_unique h hdots (head?_written more) (by simp) hrest.symm)
  have hends {dots : List Char} (hdots : '/' ∉ dots) (hne : segment ≠ dots) :
      segment ++ written more ≠ dots := by
    intro heq
    rw [← List.append_nil dots] at heq
    exact hne (segment_unique h hdots (head?_written more) (by simp) heq)
  obtain ⟨htake, hdrop⟩ := takeWhile_segment h (head?_written more)
  have hhere' : ¬ ['.', '/'] <+: segment ++ written more := hbegins (by decide) hhere
  have habove' : ¬ ['.', '.', '/'] <+: segment ++ written more := hbegins (by decide) habove
  have hlast : segment ++ written more ≠ ['.'] := hends (by decide) hhere
  have hlast' : segment ++ written more ≠ ['.', '.'] := hends (by decide) habove
  rw [written_cons]
  simp [Buffers.step, hhere', habove', hlast, hlast', htake, hdrop]

/-- The last segment kept is the one behind the last slash. -/
theorem withoutLast_written (h : ∀ s ∈ kept, '/' ∉ s) :
    withoutLast (written kept.reverse) = written kept.tail.reverse := by
  cases kept with
  | nil => rfl
  | cons top below =>
    have htop : Text.dropTail (· != '/') top = [] := by
      have hslash : ∀ c ∈ top.reverse, (c != '/') = true := by
        intro c hc
        rw [bne_iff_ne]
        rintro rfl
        exact h top List.mem_cons_self (List.mem_reverse.1 hc)
      rw [Text.dropTail, List.dropWhile_eq_nil_iff.2 hslash]
      rfl
    rw [List.reverse_cons, written_concat, withoutLast,
      Text.dropTail_append_cons (by decide), htop, List.dropLast_concat]
    rfl

/-! ## Section 3: What a step and a run keep -/

/-- A segment whose dots are written plainly, if it is a dot segment. -/
structure DotsPlain (segment : List Char) : Prop where
  slash_not_mem : '/' ∉ segment
  single : isSingleDot segment = true → segment = ['.']
  double : isDoubleDot segment = true → segment = ['.', '.']

/-- The segments to come after the first one was read. -/
def behind (segment : List Char) (more : List (List Char)) : List (List Char) :=
  if isDotSegment segment then orEmpty more else more

theorem resolveAfter_cons (kept : List (List Char)) (segment : List Char)
    (more : List (List Char)) :
    resolveAfter kept (segment :: more) =
      resolveAfter (keepInner kept segment) (behind segment more) := by
  unfold behind
  cases more with
  | cons next others => simp [resolveAfter, orEmpty]
  | nil =>
    -- What a dot segment leaves at the end is kept one step later.
    have hempty : keepLast (keepInner kept segment) [] = [] :: keepInner kept segment := rfl
    rw [resolveAfter, keepLast_eq, List.reverse_append, reverse_ending]
    by_cases hdots : isDotSegment segment = true
    · simp [resolveAfter, ending, orEmpty, hdots, hempty]
    · simp [resolveAfter, ending, hdots]

theorem step_written (h : DotsPlain segment) (hkept : ∀ s ∈ kept, '/' ∉ s) :
    (Buffers.mk (written (segment :: more)) (written kept.reverse)).step =
      ⟨written (behind segment more), written (keepInner kept segment).reverse⟩ := by
  -- The first segment decides which of the rewritings this is.
  unfold behind keepInner
  by_cases hdouble : isDoubleDot segment = true
  · obtain rfl := h.double hdouble
    rw [step_above, withoutLast_written hkept]
    simp [isDotSegment, hdouble]
  · by_cases hsingle : isSingleDot segment = true
    · obtain rfl := h.single hsingle
      rw [step_here]
      simp [isDotSegment, hdouble, hsingle]
    · have hhere : segment ≠ ['.'] := by
        rintro rfl
        exact hsingle (by decide)
      have habove : segment ≠ ['.', '.'] := by
        rintro rfl
        exact hdouble (by decide)
      rw [step_name h.slash_not_mem hhere habove]
      simp [isDotSegment, hdouble, hsingle, written_concat]

theorem dotsPlain_of_mem_behind (h : ∀ s ∈ segment :: more, DotsPlain s) :
    ∀ s ∈ behind segment more, DotsPlain s := by
  have hmore : ∀ s ∈ more, DotsPlain s := fun s hs => h s (List.mem_cons_of_mem _ hs)
  have hempty : DotsPlain [] := ⟨by simp, by decide, by decide⟩
  intro s hs
  unfold behind orEmpty at hs
  split_ifs at hs
  · rw [List.mem_singleton.1 hs]
    exact hempty
  · exact hmore s hs
  · exact hmore s hs

theorem slash_not_mem_keepInner (h : '/' ∉ segment) (hkept : ∀ s ∈ kept, '/' ∉ s) :
    ∀ s ∈ keepInner kept segment, '/' ∉ s := by
  intro s hs
  rcases mem_keepInner hs with hs | ⟨rfl, -⟩
  · exact hkept s hs
  · exact h

/-- Reading all the segments from the one buffer resolves them in the other. -/
theorem run_written (h : ∀ s ∈ segments, DotsPlain s) (hkept : ∀ s ∈ kept, '/' ∉ s) :
    (Buffers.mk (written segments) (written kept.reverse)).run =
      written (resolveAfter kept segments) := by
  -- The measure is the length of the input, which every step makes shorter.
  induction hn : (written segments).length using Nat.strong_induction_on
    generalizing segments kept with
  | _ n ih =>
    rw [Buffers.run]
    cases segments with
    | nil => rfl
    | cons segment more =>
      have hsegment := h segment List.mem_cons_self
      have hne : (Buffers.mk (written (segment :: more)) (written kept.reverse)).input ≠ [] := by
        simp [written]
      have hshorter := Buffers.length_step_lt hne
      rw [dif_neg hne]
      rw [step_written hsegment hkept] at hshorter ⊢
      rw [resolveAfter_cons]
      exact ih _ (hn ▸ hshorter) (dotsPlain_of_mem_behind h)
        (slash_not_mem_keepInner hsegment.slash_not_mem hkept) rfl

/-! ## Section 4: Plain spellings -/

/-- Dot segments become dots, and nothing else changes. -/
theorem plainSegment_cases (segment : List Char) :
    (isSingleDot segment = true ∧ isDoubleDot segment = false ∧ plainSegment segment = ['.']) ∨
    (isSingleDot segment = false ∧ isDoubleDot segment = true ∧
      plainSegment segment = ['.', '.']) ∨
    (isSingleDot segment = false ∧ isDoubleDot segment = false ∧
      plainSegment segment = segment) := by
  have hlower : segment.map Char.toLower = segment.map Text.asciiLower :=
    List.map_congr_left fun c _ => Text.toLower_eq c
  unfold plainSegment isSingleDot isDoubleDot
  simp only [hlower]
  by_cases hcode : segment.map Text.asciiLower = "%2e".toList
  · left
    rw [if_pos hcode, hcode]
    decide
  rw [if_neg hcode]
  by_cases hcodes : codedDoubleDots.contains (segment.map Text.asciiLower) = true
  · right; left
    have hdouble : ∀ spelling ∈ codedDoubleDots,
        singleDots.contains spelling = false ∧ doubleDots.contains spelling = true := by decide
    obtain ⟨hnot, his⟩ := hdouble _ (List.contains_iff_mem.1 hcodes)
    exact ⟨hnot, his, if_pos hcodes⟩
  rw [if_neg hcodes]
  -- Dots that have no code are plain already.
  by_cases hdot : segment.map Text.asciiLower = ['.']
  · obtain rfl := Text.eq_of_asciiLower (by decide) hdot
    decide
  by_cases hdots : segment.map Text.asciiLower = ['.', '.']
  · obtain rfl := Text.eq_of_asciiLower (by decide) hdots
    decide
  · right; right
    have hsingle : singleDots = [['.'], "%2e".toList] := rfl
    have hdouble : doubleDots = ['.', '.'] :: codedDoubleDots := rfl
    refine ⟨?_, ?_, rfl⟩
    · rw [hsingle, ← Bool.not_eq_true, List.contains_iff_mem]
      simp only [List.mem_cons, List.not_mem_nil, or_false, not_or]
      exact ⟨hdot, hcode⟩
    · rw [hdouble, ← Bool.not_eq_true, List.contains_iff_mem, List.mem_cons, not_or,
        ← List.contains_iff_mem]
      exact ⟨hdots, hcodes⟩

theorem isSingleDot_plainSegment (segment : List Char) :
    isSingleDot (plainSegment segment) = isSingleDot segment := by
  rcases plainSegment_cases segment with ⟨h, -, hplain⟩ | ⟨h, -, hplain⟩ | ⟨h, -, hplain⟩
  · rw [hplain, h]
    decide
  · rw [hplain, h]
    decide
  · rw [hplain]

theorem isDoubleDot_plainSegment (segment : List Char) :
    isDoubleDot (plainSegment segment) = isDoubleDot segment := by
  rcases plainSegment_cases segment with ⟨-, h, hplain⟩ | ⟨-, h, hplain⟩ | ⟨-, h, hplain⟩
  · rw [hplain, h]
    decide
  · rw [hplain, h]
    decide
  · rw [hplain]

theorem IsOrdinary.plainSegment_eq (h : IsOrdinary segment) : plainSegment segment = segment := by
  rcases plainSegment_cases segment with ⟨hsingle, -, -⟩ | ⟨-, hdouble, -⟩ | ⟨-, -, hplain⟩
  · rw [h.not_single] at hsingle
    cases hsingle
  · rw [h.not_double] at hdouble
    cases hdouble
  · exact hplain

theorem dotsPlain_plainSegment (h : '/' ∉ segment) : DotsPlain (plainSegment segment) := by
  rcases plainSegment_cases segment with
    ⟨-, -, hplain⟩ | ⟨-, -, hplain⟩ | ⟨hsingle, hdouble, hplain⟩
  · rw [hplain]
    exact ⟨by decide, fun _ => rfl, by decide⟩
  · rw [hplain]
    exact ⟨by decide, by decide, fun _ => rfl⟩
  · rw [hplain]
    exact ⟨h, by simp [hsingle], by simp [hdouble]⟩

theorem plainDots_slash (rest : List Char) :
    plainDots ('/' :: rest) = written ((Text.pieces '/' rest).map plainSegment) := by
  have hnil : plainSegment [] = [] := rfl
  have hne : (Text.pieces '/' rest).map plainSegment ≠ [] := by
    simpa using Text.pieces_ne_nil '/' rest
  rw [plainDots, pieces_slash, List.map_cons, hnil, Text.joinPieces_cons hne, written,
    Text.flatMap_sep hne]
  rfl

/-! ## Section 5: Rewriting a path -/

/-- Rewriting the plain spelling leaves what resolving leaves. -/
theorem run_plainDots (rest : List Char) :
    Buffers.run ⟨plainDots ('/' :: rest), []⟩ = resolveDots ('/' :: rest) := by
  have hplain : ∀ s ∈ (Text.pieces '/' rest).map plainSegment, DotsPlain s := by
    intro s hs
    obtain ⟨segment, hsegment, rfl⟩ := List.mem_map.1 hs
    exact dotsPlain_plainSegment (Text.sep_not_mem_of_mem_pieces '/' rest segment hsegment)
  -- The segments that stay are ordinary, so the plain spelling has left them alone.
  have hkept : (resolveAfter [] (Text.pieces '/' rest)).map plainSegment =
      resolveAfter [] (Text.pieces '/' rest) := by
    have hsame : ∀ s ∈ resolveAfter [] (Text.pieces '/' rest), plainSegment s = id s := by
      intro s hs
      rw [← resolved_slash] at hs
      exact (isOrdinary_of_mem_resolved hs).plainSegment_eq
    rw [List.map_congr_left hsame, List.map_id]
  have hrun := @run_written _ [] hplain (by simp)
  rw [map_resolveAfter rfl isSingleDot_plainSegment isDoubleDot_plainSegment] at hkept
  rw [plainDots_slash, resolveDots_slash]
  exact hrun.trans (congrArg written hkept)

/-- Resolving rewrites the path whose dots were written plainly first, between
    the two buffers.  So it removes the dot segments, and a second time there
    are none. -/
theorem resolveDots_rewrites {path : List Char} (h : path.head? = some '/') :
    resolveDots path = Buffers.run ⟨plainDots path, []⟩ ∧
      IsResolution path (resolveDots path) ∧
      resolveDots (resolveDots path) = resolveDots path := by
  obtain ⟨rest, rfl⟩ : ∃ rest, path = '/' :: rest := List.head?_eq_some_iff.1 h
  have hresolution := isResolution_resolveDots rest
  obtain ⟨result, hresult⟩ := List.head?_eq_some_iff.1 hresolution.start
  refine ⟨(run_plainDots rest).symm, hresolution, ?_⟩
  -- The result starts with a slash as well, and has no dot segments left.
  have hdots := hresolution.no_dots
  rw [hresult] at hdots ⊢
  exact (isResolution_resolveDots result).unchanged hdots

/-- A climb at the top comes to nothing, one behind a name takes this name and
    leaves the empty segment in front of it, and the dot at the end leaves a
    slash. -/
theorem climbs_and_empty_segments : "/..//a/%2E%2e/./b//%2E".toList.head? = some '/' ∧
    Buffers.run ⟨plainDots "/..//a/%2E%2e/./b//%2E".toList, []⟩ = "//b//".toList ∧
    IsResolution "/..//a/%2E%2e/./b//%2E".toList "//b//".toList ∧
    resolveDots "//b//".toList = "//b//".toList := by
  have hstart : "/..//a/%2E%2e/./b//%2E".toList.head? = some '/' := by decide
  have hresult : resolveDots "/..//a/%2E%2e/./b//%2E".toList = "//b//".toList := by decide
  have hrewrites := resolveDots_rewrites hstart
  rw [hresult] at hrewrites
  obtain ⟨hrun, hresolution, hagain⟩ := hrewrites
  exact ⟨hstart, hrun.symm, hresolution, hagain⟩

end DenoBridge.Url
