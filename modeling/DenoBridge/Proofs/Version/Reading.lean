import DenoBridge.Proofs.Number.Digits
import DenoBridge.Proofs.Text.Letters
import DenoBridge.Proofs.Text.Trim
import DenoBridge.Proofs.Version.Excess

/-! # What is read of a version

    A version is read from left to right, and every number that it is made of
    stands somewhere in the text as a run of digits (`isRunOf_of_parse`).  So a
    text whose runs of digits are short enough is never refused for a number
    with too many digits (`parse_of_hasShortRuns`).
-/

namespace DenoBridge.Version

open Digits (IsRunOf HasShortRuns)

variable {text rest digits : List Char} {α : Type}

/-! ## Section 1: One part after the other -/

/-- A text without its first character, or the text itself. -/
theorem skipSeparator_suffix (text : List Char) : skipSeparator text <:+ text := by
  fun_cases skipSeparator text with
  | case1 => exact List.suffix_rfl
  | case2 c rest _ => exact List.suffix_cons c rest
  | case3 c rest _ => exact List.suffix_rfl

theorem skipV_suffix (text : List Char) : skipV text <:+ text := by
  unfold skipV
  split
  · exact List.suffix_cons _ _
  · exact List.suffix_rfl

theorem readWord_suffix {words : List (List Char × α)} {meaning : α}
    (h : readWord words text = some (meaning, rest)) : rest <:+ text := by
  obtain ⟨entry, -, heq⟩ := Option.map_eq_some_iff.1 h
  obtain ⟨-, rfl⟩ := Prod.mk.inj heq
  exact List.drop_suffix _ _

/-- What a reader has found: digits of the text, and a rest at its end. -/
structure Found (digits rest text : List Char) : Prop where
  run : IsRunOf digits text
  rest : rest <:+ text

theorem Found.of_suffix {inner : List Char} (h : Found digits rest inner)
    (hinner : inner <:+ text) : Found digits rest text :=
  ⟨h.run.of_isInfix hinner.isInfix, h.rest.trans hinner⟩

theorem found_span (text : List Char) : Found (Digits.span text).1 (Digits.span text).2 text :=
  ⟨Digits.isRunOf_span text, Digits.span_suffix text⟩

theorem found_readSuffix {words : List (List Char × α)} {meaning : α}
    (h : readSuffix words text = some ((meaning, digits), rest)) : Found digits rest text := by
  obtain ⟨⟨word, behind⟩, hword, heq⟩ := Option.map_eq_some_iff.1 h
  have hspan : (word = meaning ∧ (Digits.span (skipSeparator behind)).1 = digits) ∧
      (Digits.span (skipSeparator behind)).2 = rest := by
    simpa using heq
  obtain ⟨⟨-, rfl⟩, rfl⟩ := hspan
  have hbehind : behind <:+ text := (readWord_suffix hword).trans (skipSeparator_suffix text)
  exact (found_span _).of_suffix ((skipSeparator_suffix behind).trans hbehind)

theorem found_readPost (h : readPost text = some (digits, rest)) : Found digits rest text := by
  unfold readPost at h
  dsimp only at h
  split at h
  · -- A hyphen and digits.
    rename_i found hshort
    obtain rfl := Option.some.inj h
    split at hshort
    · rename_i behind
      split at hshort
      · cases hshort
      · obtain ⟨rfl, rfl⟩ := Prod.mk.inj (Option.some.inj hshort)
        exact (found_span behind).of_suffix (List.suffix_cons _ _)
    · cases hshort
  · obtain ⟨⟨⟨word, found⟩, behind⟩, hsuffix, heq⟩ := Option.map_eq_some_iff.1 h
    obtain ⟨rfl, rfl⟩ := Prod.mk.inj heq
    exact found_readSuffix hsuffix

theorem found_readEpoch (text : List Char) : Found (readEpoch text).1 (readEpoch text).2 text := by
  unfold readEpoch
  have hnone : Found [] text text := ⟨Digits.isRunOf_nil text, List.suffix_rfl⟩
  split
  · rename_i found behind hspan
    split
    · exact hnone
    · have hfound := found_span text
      rw [hspan] at hfound
      exact ⟨hfound.run, (List.suffix_cons _ _).trans hfound.rest⟩
  · exact hnone

theorem found_readRelease (text : List Char) :
    (∀ digits ∈ (readRelease text).1, IsRunOf digits text) ∧ (readRelease text).2 <:+ text := by
  fun_induction readRelease text with
  | case1 rest hempty =>
    exact ⟨fun _ hdigits => (nomatch hdigits), List.suffix_rfl⟩
  | case2 rest hdigits more after heq ih =>
    rw [heq] at ih
    obtain ⟨hmore, hafter⟩ := ih
    have hbehind : (Digits.span rest).2 <:+ '.' :: rest :=
      (Digits.span_suffix rest).trans (List.suffix_cons _ _)
    constructor
    · intro digits hmem
      rcases List.mem_cons.1 hmem with rfl | hmem
      · exact (Digits.isRunOf_span rest).of_isInfix (List.suffix_cons _ _).isInfix
      · exact (hmore digits hmem).of_isInfix hbehind.isInfix
    · exact hafter.trans hbehind
  | case3 text hother =>
    exact ⟨fun _ hdigits => (nomatch hdigits), List.suffix_rfl⟩

/-- Parts of a label that are numbers are runs of the text. -/
theorem isRunOf_of_readEnd {label : List (List Char)} (h : readEnd text = some label) :
    ∀ part ∈ label, part.all Char.isDigit = true → IsRunOf part text := by
  intro part hpart hdigits
  unfold readEnd at h
  split at h
  · obtain rfl := Option.some.inj h
    cases hpart
  · rename_i behind
    unfold readLabel at h
    dsimp only at h
    split at h
    · obtain rfl := Option.some.inj h
      -- Separators became points before the text was cut; digits are no separators.
      have hmapped : IsRunOf part (behind.map fun c => if isSeparator c then '.' else c) :=
        ⟨List.all_eq_true.1 hdigits, Text.infix_of_mem_pieces hpart⟩
      have hsame (c : Char) (hc : (if isSeparator c then '.' else c).isDigit = true) :
          (if isSeparator c then '.' else c) = c := by
        by_cases hseparator : isSeparator c = true
        · rw [if_pos hseparator] at hc
          exact absurd hc (by decide)
        · rw [if_neg hseparator]
      exact (hmapped.of_map hsame).of_isInfix (List.suffix_cons _ _).isInfix
    · cases h
  · cases h

/-! ## Section 2: All parts -/

/-- What follows the release. -/
def readTail (epoch : List Char) (release : List (List Char)) (text : List Char) :
    Option Spelling :=
  let pre := optional (readSuffix stageWords text) text
  let post := optional (readPost pre.2) pre.2
  let dev := optional (readSuffix devWords post.2) post.2
  (readEnd dev.2).map fun label =>
    { epoch := epoch, release := release, pre := pre.1, post := post.1
      dev := dev.1.map (·.2), label := label }

/-- What is read is the text in lower case, without blanks around it and without
    a `v` in front. -/
def body (text : List Char) : List Char :=
  skipV ((Text.trim text).map Text.asciiLower)

theorem parse_eq (text : List Char) :
    Spelling.parse text =
      let epoch := readEpoch (body text)
      let first := Digits.span epoch.2
      let release := readRelease first.2
      if first.1.isEmpty then none else readTail epoch.1 (first.1 :: release.1) release.2 := by
  unfold Spelling.parse
  rfl

/-- A part that may be missing, whose number is known where it is found. -/
theorem found_optional (numberOf : α → List Char) (found : Option (α × List Char))
    (text : List Char)
    (h : ∀ part rest, found = some (part, rest) → Found (numberOf part) rest text) :
    (∀ part, (optional found text).1 = some part → IsRunOf (numberOf part) text) ∧
      (optional found text).2 <:+ text := by
  cases found with
  | none =>
    constructor
    · intro part hpart
      cases hpart
    · exact List.suffix_rfl
  | some found =>
    have hfound := h found.1 found.2 rfl
    constructor
    · intro part hpart
      obtain rfl := Option.some.inj hpart
      exact hfound.run
    · exact hfound.rest

theorem isRunOf_of_readTail {epoch : List Char} {release : List (List Char)} {s : Spelling}
    (h : readTail epoch release text = some s) :
    s.epoch = epoch ∧ s.release = release ∧
      (∀ part, s.pre = some part → IsRunOf part.2 text) ∧
      (∀ digits, s.post = some digits → IsRunOf digits text) ∧
      (∀ digits, s.dev = some digits → IsRunOf digits text) ∧
      ∀ part ∈ s.label, part.all Char.isDigit = true → IsRunOf part text := by
  obtain ⟨label, hlabel, rfl⟩ := Option.map_eq_some_iff.1 h
  -- Each part is read of what the one before has left, so its runs are runs of the whole.
  obtain ⟨hpre, hbehindPre⟩ := found_optional Prod.snd (readSuffix stageWords text) text
    fun _ _ => found_readSuffix
  obtain ⟨hpost, hbehindPost⟩ := found_optional id (readPost _) _ fun _ _ => found_readPost
  obtain ⟨hdev, hbehindDev⟩ := found_optional Prod.snd (readSuffix devWords _) _
    fun _ _ => found_readSuffix
  have hpostText := hbehindPost.trans hbehindPre
  have hdevText := hbehindDev.trans hpostText
  refine ⟨rfl, rfl, hpre, ?_, ?_, ?_⟩
  · intro digits hdigits
    exact (hpost digits hdigits).of_isInfix hbehindPre.isInfix
  · intro digits hdigits
    obtain ⟨part, hpart, rfl⟩ := Option.map_eq_some_iff.1 hdigits
    exact (hdev part hpart).of_isInfix hpostText.isInfix
  · intro part hpart hall
    exact (isRunOf_of_readEnd hlabel part hpart hall).of_isInfix hdevText.isInfix

theorem isRunOf_of_body (h : IsRunOf digits (body text)) : IsRunOf digits text := by
  have hlower : IsRunOf digits ((Text.trim text).map Text.asciiLower) :=
    h.of_isInfix (skipV_suffix _).isInfix
  have hsame (c : Char) (hc : (Text.asciiLower c).isDigit = true) : Text.asciiLower c = c := by
    exact ((Text.asciiLower_eq_mark (Text.isAlpha_of_isDigit hc)).1 rfl).symm
  exact (hlower.of_map hsame).of_isInfix (Text.trim_isInfix text)

/-- Every number of a version stands in its text. -/
theorem isRunOf_of_parse {s : Spelling} (h : Spelling.parse text = some s) :
    ∀ digits ∈ s.numbers, IsRunOf digits text := by
  intro digits hdigits
  apply isRunOf_of_body
  rw [parse_eq] at h
  dsimp only at h
  split at h
  · cases h
  · obtain ⟨hepoch, hrelease, hpre, hpost, hdev, hlabel⟩ := isRunOf_of_readTail h
    have hbehindEpoch := found_readEpoch (body text)
    have hfirst := (found_span (readEpoch (body text)).2).of_suffix hbehindEpoch.rest
    obtain ⟨hmore, hbehindRelease⟩ := found_readRelease (Digits.span (readEpoch (body text)).2).2
    have htail := hbehindRelease.trans hfirst.rest
    simp only [Spelling.numbers, List.mem_append, List.mem_singleton, Option.mem_toList,
      Option.map_eq_some_iff, List.mem_filter] at hdigits
    rcases hdigits with ((((rfl | hmem) | hmem) | hmem) | hmem) | hmem
    · rw [hepoch]
      exact hbehindEpoch.run
    · rw [hrelease] at hmem
      rcases List.mem_cons.1 hmem with rfl | hmem
      · exact hfirst.run
      · exact (hmore digits hmem).of_isInfix hfirst.rest.isInfix
    · obtain ⟨part, hpart, rfl⟩ := hmem
      exact (hpre part hpart).of_isInfix htail.isInfix
    · exact (hpost digits hmem).of_isInfix htail.isInfix
    · exact (hdev digits hmem).of_isInfix htail.isInfix
    · exact (hlabel digits hmem.1 hmem.2).of_isInfix htail.isInfix

/-! ## Section 3: Short runs -/

/-- A text with short runs of digits is a version or none; it is never refused
    for a number. -/
theorem parse_of_hasShortRuns {text : String} (h : HasShortRuns text.toList) :
    parse text = .error .invalid ∨ ∃ version, parse text = .ok version := by
  cases hparse : parse text with
  | ok version => exact .inr ⟨version, rfl⟩
  | error reason =>
    cases reason with
    | invalid => exact .inl rfl
    | tooManyDigits refusal =>
      obtain ⟨s, hs, hrefusal⟩ := parse_error_iff.1 hparse
      obtain ⟨digits, hdigits, htooMany⟩ := List.exists_of_findSome?_eq_some hrefusal
      -- The number at fault is a run of the text that is too long.
      have hshort := h digits (isRunOf_of_parse hs digits hdigits)
      unfold tooMany? at htooMany
      rw [if_neg (by omega)] at htooMany
      cases htooMany

end DenoBridge.Version
