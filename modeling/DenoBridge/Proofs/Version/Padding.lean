import DenoBridge.Proofs.Version.Ordering
import DenoBridge.Proofs.Version.Reading

/-! # Zeros behind a release

    A text is cut behind its release, into a front and what comes after it, and
    is padded when a point and a zero are put there (`Padded`).  The version
    that is read then has one more zero in its release and is the same
    otherwise (`parse_padded`).  Every text of a version can be cut like
    that (`exists_padded`).
-/

namespace DenoBridge.Version

open Digits (AreDigits NoDigitFirst)
open Text (asciiLower asciiLower_eq_mark eq_of_asciiLower)

/-! ## Section 1: Fronts -/

/-- Is it a number as a version has it? -/
def IsNumber (digits : List Char) : Prop :=
  digits ≠ [] ∧ AreDigits digits

/-- An epoch as it is written; a missing one is empty. -/
def epochText (epoch : List Char) : List Char :=
  if epoch.isEmpty then [] else epoch ++ ['!']

/-- Further release numbers, each behind a point. -/
def pointed (numbers : List (List Char)) : List Char :=
  numbers.flatMap ('.' :: ·)

/-- Does a text go on with digits, or with a point and digits? -/
def goesOn : List Char → Bool
  | '.' :: c :: _ => c.isDigit
  | c :: _ => c.isDigit
  | [] => false

/-- A text up to the end of its release: blanks, a mark, an epoch (if there is
    one) and the numbers of the release. -/
structure Front where
  blanks : List Char
  mark : List Char
  epoch : List Char
  first : List Char
  more : List (List Char)
  blanks_blank : ∀ c ∈ blanks, Text.isBlank c = true
  mark_mem : mark ∈ [[], ['v'], ['V']]
  epoch_digits : AreDigits epoch
  first_number : IsNumber first
  more_number : ∀ digits ∈ more, IsNumber digits

namespace Front

/-- The epoch and the release as they are written. -/
def numbers (f : Front) : List Char :=
  epochText f.epoch ++ (f.first ++ pointed f.more)

/-- The front as it is written. -/
def text (f : Front) : List Char :=
  f.blanks ++ (f.mark ++ f.numbers)

/-- The release ends where the front does, and is no epoch. -/
structure Ends (f : Front) (after : List Char) : Prop where
  release : goesOn after = false
  noEpoch : f.epoch = [] → f.more = [] → after.head? ≠ some '!'

end Front

/-- The second text is the first one with a zero behind its release. -/
def Padded (text text' : String) : Prop :=
  ∃ (f : Front) (after : List Char), f.Ends after ∧ text.toList = f.text ++ after ∧
    text'.toList = f.text ++ '.' :: '0' :: after

/-! ## Section 2: Numbers and marks -/

section

variable {text after rest : List Char} {numbers : List (List Char)}

theorem goesOn_eq_isDigit {c : Char} (hc : c ≠ '.') : goesOn (c :: rest) = c.isDigit := by
  rw [goesOn]
  intro _ _ hpoint
  exact absurd hpoint hc

theorem noDigitFirst_of_goesOn (h : goesOn text = false) : NoDigitFirst text := by
  intro c hc
  cases text with
  | nil => cases hc
  | cons d rest =>
    obtain rfl : d = c := Option.some.inj hc
    by_cases hpoint : d = '.'
    · subst hpoint
      decide
    · rwa [goesOn_eq_isDigit hpoint] at h

/-- What does not go on still does not when it is cut. -/
theorem goesOn_of_isPrefix (h : goesOn text = false) (hcut : rest <+: text) :
    goesOn rest = false := by
  obtain ⟨more, rfl⟩ := hcut
  cases rest with
  | nil => rfl
  | cons c rest =>
    by_cases hpoint : c = '.'
    · subst hpoint
      cases rest with
      | nil => decide
      | cons d rest => exact h
    · rw [List.cons_append, goesOn_eq_isDigit hpoint] at h
      rwa [goesOn_eq_isDigit hpoint]

/-- Nothing in a front is blank. -/
theorem of_isBlank {c : Char} (h : Text.isBlank c = true) :
    c.isDigit = false ∧ c ≠ '!' ∧ c ≠ '.' ∧ c ≠ 'v' ∧ c ≠ 'V' := by
  have hblanks : ∀ c ∈ Text.blanks, c.isDigit = false ∧ c ≠ '!' ∧ c ≠ '.' ∧ c ≠ 'v' ∧ c ≠ 'V' := by
    decide
  exact hblanks c (List.contains_iff_mem.1 h)

/-- Blanks at the end do not make a text go on. -/
theorem goesOn_append_blanks (h : goesOn text = false) {blanks : List Char}
    (hblanks : ∀ c ∈ blanks, Text.isBlank c = true) : goesOn (text ++ blanks) = false := by
  have hblank : ∀ c, blanks.head? = some c → c.isDigit = false ∧ c ≠ '.' := by
    intro c hc
    obtain ⟨hdigit, -, hpoint, -⟩ := of_isBlank (hblanks c (List.mem_of_head? hc))
    exact ⟨hdigit, hpoint⟩
  cases text with
  | nil =>
    cases blanks with
    | nil => decide
    | cons c blanks =>
      obtain ⟨hdigit, hpoint⟩ := hblank c rfl
      rwa [List.nil_append, goesOn_eq_isDigit hpoint]
  | cons c text =>
    by_cases hpoint : c = '.'
    · subst hpoint
      cases text with
      | cons d text => exact h
      | nil =>
        cases blanks with
        | nil => decide
        | cons d blanks => exact (hblank d rfl).1
    · rw [goesOn_eq_isDigit hpoint] at h
      rwa [List.cons_append, goesOn_eq_isDigit hpoint]

theorem isDigit_asciiLower (c : Char) : (asciiLower c).isDigit = c.isDigit :=
  Text.ignoresCase_of_ascii (by decide) c

theorem goesOn_asciiLower (text : List Char) : goesOn (text.map asciiLower) = goesOn text := by
  cases text with
  | nil => rfl
  | cons c rest =>
    by_cases hpoint : c = '.'
    · subst hpoint
      cases rest with
      | nil => decide
      | cons d rest => exact isDigit_asciiLower d
    · have hlower : asciiLower c ≠ '.' := mt (asciiLower_eq_mark (by decide)).1 hpoint
      rw [List.map_cons, goesOn_eq_isDigit hlower, goesOn_eq_isDigit hpoint, isDigit_asciiLower]

theorem noDigitFirst_pointed (h : goesOn rest = false) (numbers : List (List Char)) :
    NoDigitFirst (pointed numbers ++ rest) := by
  cases numbers with
  | nil => exact noDigitFirst_of_goesOn h
  | cons digits more =>
    intro c hc
    obtain rfl : '.' = c := Option.some.inj hc
    decide

theorem pointed_cons_append (digits : List Char) (numbers : List (List Char)) (rest : List Char) :
    pointed (digits :: numbers) ++ rest = '.' :: (digits ++ (pointed numbers ++ rest)) := by
  simp [pointed]

theorem readRelease_pointed (hnumbers : ∀ digits ∈ numbers, IsNumber digits)
    (hrest : goesOn rest = false) : readRelease (pointed numbers ++ rest) = (numbers, rest) := by
  -- On the numbers; behind the last one no digits follow, with or without a point.
  induction numbers with
  | nil =>
    show readRelease rest = ([], rest)
    unfold readRelease
    split
    · rename_i behind
      have hbehind : NoDigitFirst behind := by
        intro c hc
        obtain ⟨more, rfl⟩ := List.head?_eq_some_iff.1 hc
        exact hrest
      rw [Digits.span_of_noDigitFirst hbehind]
      rfl
    · rfl
  | cons digits more ih =>
    obtain ⟨hne, hdigits⟩ := hnumbers digits List.mem_cons_self
    have hspan : Digits.span (digits ++ (pointed more ++ rest)) = (digits, pointed more ++ rest) :=
      Digits.span_append hdigits (noDigitFirst_pointed hrest more)
    have hmore := ih fun digits hmem => hnumbers digits (List.mem_cons_of_mem _ hmem)
    rw [pointed_cons_append, readRelease, hspan, if_neg (by simpa using hne), hmore]

end

/-! ## Section 3: What is read of a front -/

namespace Front

variable {f : Front} {after : List Char} {c : Char}

theorem mem_numbers (h : c ∈ f.numbers) : c.isDigit = true ∨ c = '!' ∨ c = '.' := by
  have hepoch : c ∈ epochText f.epoch → c.isDigit = true ∨ c = '!' := by
    intro hmem
    unfold epochText at hmem
    split at hmem
    · cases hmem
    · rcases List.mem_append.1 hmem with hdigit | hmark
      · exact .inl (f.epoch_digits c hdigit)
      · exact .inr (List.mem_singleton.1 hmark)
  have hmore : c ∈ pointed f.more → c.isDigit = true ∨ c = '.' := by
    intro hmem
    obtain ⟨digits, hdigits, hc⟩ := List.mem_flatMap.1 hmem
    rcases List.mem_cons.1 hc with hpoint | hdigit
    · exact .inr hpoint
    · exact .inl ((f.more_number digits hdigits).2 c hdigit)
  rcases List.mem_append.1 h with hmem | hmem
  · rcases hepoch hmem with hdigit | hmark
    · exact .inl hdigit
    · exact .inr (.inl hmark)
  · rcases List.mem_append.1 hmem with hdigit | hmem
    · exact .inl (f.first_number.2 c hdigit)
    · rcases hmore hmem with hdigit | hpoint
      · exact .inl hdigit
      · exact .inr (.inr hpoint)

theorem isAlpha_of_mem_numbers (h : c ∈ f.numbers) : c.isAlpha = false := by
  rcases mem_numbers h with hdigit | rfl | rfl
  · exact Text.isAlpha_of_isDigit hdigit
  · decide
  · decide

theorem isBlank_of_mem (h : c ∈ f.mark ++ f.numbers) : Text.isBlank c = false := by
  rw [← Bool.not_eq_true]
  intro hblank
  obtain ⟨hdigit, hexclamation, hpoint, hsmall, hcapital⟩ := of_isBlank hblank
  rcases List.mem_append.1 h with hmark | hnumbers
  · have hmem := f.mark_mem
    simp only [List.mem_cons, List.not_mem_nil, or_false] at hmem
    rcases hmem with hnil | hv | hv
    · rw [hnil] at hmark
      cases hmark
    · rw [hv] at hmark
      exact hsmall (List.mem_singleton.1 hmark)
    · rw [hv] at hmark
      exact hcapital (List.mem_singleton.1 hmark)
  · rcases mem_numbers hnumbers with hc | hc | hc
    · rw [hc] at hdigit
      cases hdigit
    · exact hexclamation hc
    · exact hpoint hc

theorem numbers_ne_nil (f : Front) : f.numbers ≠ [] := by
  intro hnil
  obtain ⟨-, hrest⟩ := List.append_eq_nil_iff.1 hnil
  exact f.first_number.1 (List.append_eq_nil_iff.1 hrest).1

/-- Neither a mark nor the case of letters counts. -/
theorem skipV_front (f : Front) (rest : List Char) :
    skipV ((f.mark ++ f.numbers).map asciiLower ++ rest) = f.numbers ++ rest := by
  have hsame : f.numbers.map asciiLower = f.numbers :=
    Text.asciiLower_of_not_isAlpha fun _ hc => isAlpha_of_mem_numbers hc
  have hv : asciiLower 'v' = 'v' ∧ asciiLower 'V' = 'v' := by decide
  have hmem := f.mark_mem
  simp only [List.mem_cons, List.not_mem_nil, or_false] at hmem
  rw [List.map_append, hsame]
  rcases hmem with hmark | hmark | hmark
  · -- There is no mark, and the numbers do not begin with a letter.
    rw [hmark]
    obtain ⟨c, more, hnumbers⟩ := List.exists_cons_of_ne_nil f.numbers_ne_nil
    have hc : c.isAlpha = false := isAlpha_of_mem_numbers (f := f) (by rw [hnumbers]; simp)
    rw [hnumbers]
    show skipV (c :: (more ++ rest)) = c :: (more ++ rest)
    rw [skipV]
    rintro rest' heq
    rw [(List.cons.inj heq).1] at hc
    exact absurd hc (by decide)
  · rw [hmark, List.map_singleton, hv.1]
    rfl
  · rw [hmark, List.map_singleton, hv.2]
    rfl

theorem body_front (f : Front) (after : List Char) :
    body (f.text ++ after) = f.numbers ++ (Text.trimEnd after).map asciiLower := by
  have hne : f.mark ++ f.numbers ≠ [] := by
    intro hnil
    exact f.numbers_ne_nil (List.append_eq_nil_iff.1 hnil).2
  have htrim : Text.trim (f.text ++ after) = f.mark ++ f.numbers ++ Text.trimEnd after := by
    rw [text, List.append_assoc]
    apply Text.trim_append f.blanks_blank hne
    · intro c hc
      exact isBlank_of_mem (List.mem_of_head? hc)
    · intro c hc
      exact isBlank_of_mem (List.mem_of_getLast? hc)
  rw [body, htrim, List.map_append, skipV_front]

theorem Ends.lowered (h : f.Ends after) : f.Ends ((Text.trimEnd after).map asciiLower) := by
  have hcut : Text.trimEnd after <+: after := Text.dropTail_isPrefix _ _
  constructor
  · rw [goesOn_asciiLower]
    exact goesOn_of_isPrefix h.release hcut
  · intro hepoch hmore hhead
    obtain ⟨c, hc, hlower⟩ := Option.map_eq_some_iff.1 (List.head?_map.symm.trans hhead)
    rw [asciiLower_eq_mark (by decide)] at hlower
    subst hlower
    obtain ⟨more, htrim⟩ := List.head?_eq_some_iff.1 hc
    obtain ⟨rest, hrest⟩ := hcut
    apply h.noEpoch hepoch hmore
    rw [← hrest, htrim]
    rfl

theorem readEpoch_numbers (h : f.Ends after) :
    readEpoch (f.numbers ++ after) = (f.epoch, f.first ++ (pointed f.more ++ after)) := by
  by_cases hepoch : f.epoch = []
  · -- The digits that come first are the release, and no exclamation mark follows.
    have hspan : Digits.span (f.first ++ (pointed f.more ++ after)) =
        (f.first, pointed f.more ++ after) :=
      Digits.span_append f.first_number.2 (noDigitFirst_pointed h.release f.more)
    have htext : f.numbers ++ after = f.first ++ (pointed f.more ++ after) := by
      simp [numbers, epochText, hepoch]
    rw [htext, readEpoch, hspan, hepoch]
    split
    · rename_i heq
      obtain ⟨-, hmark⟩ := Prod.mk.inj heq
      cases hmore : f.more with
      | nil =>
        rw [hmore] at hmark
        apply absurd _ (h.noEpoch hepoch hmore)
        show (pointed [] ++ after).head? = some '!'
        rw [hmark]
        rfl
      | cons digits more =>
        rw [hmore] at hmark
        exact absurd (List.cons.inj hmark).1 (by decide)
    · rfl
  · have hmark : NoDigitFirst ('!' :: (f.first ++ (pointed f.more ++ after))) := by
      intro c hc
      obtain rfl : '!' = c := Option.some.inj hc
      decide
    have htext : f.numbers ++ after = f.epoch ++ '!' :: (f.first ++ (pointed f.more ++ after)) := by
      simp [numbers, epochText, hepoch]
    rw [htext, readEpoch, Digits.span_append f.epoch_digits hmark]
    exact if_neg (by simpa using hepoch)

/-- The front is read as it is written, and the rest as what comes after it. -/
theorem parse_front (h : f.Ends after) :
    Spelling.parse (f.text ++ after) =
      readTail f.epoch (f.first :: f.more) ((Text.trimEnd after).map asciiLower) := by
  have hepoch := readEpoch_numbers h.lowered
  have hfirst := Digits.span_append f.first_number.2 (noDigitFirst_pointed h.lowered.release f.more)
  have hmore := readRelease_pointed f.more_number h.lowered.release
  rw [parse_eq, body_front]
  dsimp only
  rw [hepoch, hfirst, hmore, if_neg (by simpa using f.first_number.1)]

/-! ## Section 4: One more zero -/

/-- The front with a zero behind its release. -/
def padded (f : Front) : Front :=
  { f with
    more := f.more ++ [['0']]
    more_number := by
      intro digits hdigits
      rcases List.mem_append.1 hdigits with hmem | hzero
      · exact f.more_number digits hmem
      · rw [List.mem_singleton.1 hzero]
        unfold IsNumber AreDigits
        decide }

theorem text_padded (f : Front) : f.padded.text = f.text ++ ['.', '0'] := by
  simp [text, numbers, epochText, pointed, padded]

theorem Ends.padded (h : f.Ends after) : f.padded.Ends after where
  release := h.release
  noEpoch _ hmore := by simp [Front.padded] at hmore

end Front

/-- The spelling with one more zero in its release. -/
def Spelling.padded (s : Spelling) : Spelling :=
  { s with release := s.release ++ [['0']] }

theorem readTail_padded (epoch : List Char) (release : List (List Char)) (text : List Char) :
    readTail epoch (release ++ [['0']]) text =
      (readTail epoch release text).map Spelling.padded := by
  unfold readTail
  dsimp only
  rw [Option.map_map]
  rfl

theorem ofSpelling_padded (s : Spelling) : ofSpelling s.padded = (ofSpelling s).map padded := by
  have hrelease : (s.release ++ [['0']]).mapM number =
      (· ++ [0]) <$> s.release.mapM number := by
    rw [List.mapM_append]
    cases s.release.mapM number <;> rfl
  -- The numbers are computed one after the other, and the zero changes nothing about that.
  show ofSpelling s.padded = padded <$> ofSpelling s
  unfold ofSpelling Spelling.padded
  simp only [hrelease, map_bind, map_pure, bind_map_left]
  rfl

theorem parse_padded {text text' : String} (h : Padded text text') :
    parse text' = (parse text).map padded := by
  obtain ⟨f, after, hends, htext, htext'⟩ := h
  have hfront : text'.toList = f.padded.text ++ after := by
    rw [htext', f.text_padded, List.append_assoc]
    rfl
  have hspelling : Spelling.parse text'.toList =
      (Spelling.parse text.toList).map Spelling.padded := by
    rw [hfront, htext, Front.parse_front hends.padded, Front.parse_front hends]
    exact readTail_padded f.epoch (f.first :: f.more) _
  unfold parse
  rw [hspelling]
  cases Spelling.parse text.toList with
  | none => rfl
  | some s =>
    dsimp only [Option.map_some]
    rw [ofSpelling_padded]
    cases ofSpelling s <;> rfl

/-! ## Section 5: Texts that can be padded -/

/-- Further release numbers are all that could be read of them. -/
theorem pointed_readRelease {text : List Char} (h : NoDigitFirst text) :
    text = pointed (readRelease text).1 ++ (readRelease text).2 ∧
      (∀ digits ∈ (readRelease text).1, IsNumber digits) ∧
        goesOn (readRelease text).2 = false := by
  fun_induction readRelease text with
  | case1 rest hempty =>
    refine ⟨rfl, List.forall_mem_nil _, ?_⟩
    have hspan := Digits.append_span rest
    rw [List.isEmpty_iff.1 hempty, List.nil_append] at hspan
    have hrest : NoDigitFirst rest := hspan ▸ Digits.noDigitFirst_span rest
    cases rest with
    | nil => decide
    | cons c rest => exact hrest c rfl
  | case2 rest hdigits more after heq ih =>
    have ih := ih (Digits.noDigitFirst_span rest)
    rw [heq] at ih
    obtain ⟨htext, hmore, hafter⟩ := ih
    refine ⟨?_, ?_, hafter⟩
    · rw [pointed_cons_append]
      exact congrArg ('.' :: ·) ((Digits.append_span rest).symm.trans (by rw [← htext]))
    · intro digits hmem
      rcases List.mem_cons.1 hmem with rfl | hmem
      · exact ⟨by simpa using hdigits, Digits.areDigits_span rest⟩
      · exact hmore digits hmem
  | case3 text hother =>
    refine ⟨rfl, List.forall_mem_nil _, ?_⟩
    cases text with
    | nil => decide
    | cons c rest =>
      have hpoint : c ≠ '.' := by
        rintro rfl
        exact hother rest rfl
      rw [goesOn_eq_isDigit hpoint]
      exact h c rfl

/-- An epoch is all that could be read of it. -/
theorem epochText_readEpoch (text : List Char) :
    text = epochText (readEpoch text).1 ++ (readEpoch text).2 ∧ AreDigits (readEpoch text).1 ∧
      ((readEpoch text).1 = [] → (Digits.span (readEpoch text).2).1 ≠ [] →
        (Digits.span (readEpoch text).2).2.head? ≠ some '!') := by
  have htext := Digits.append_span text
  unfold readEpoch
  split
  · rename_i digits rest hspan
    by_cases hempty : digits = []
    · rw [if_pos (by simpa using hempty), hspan]
      exact ⟨rfl, Digits.areDigits_nil, fun _ hne => absurd hempty hne⟩
    · rw [if_neg (by simpa using hempty)]
      have hdigits := Digits.areDigits_span text
      rw [hspan] at htext hdigits
      refine ⟨?_, hdigits, fun habsurd => absurd habsurd hempty⟩
      rw [epochText, if_neg (by simpa using hempty), List.append_assoc]
      exact htext.symm
  · rename_i hother
    refine ⟨rfl, Digits.areDigits_nil, fun _ _ hhead => ?_⟩
    obtain ⟨rest, hrest⟩ := List.head?_eq_some_iff.1 hhead
    exact hother _ rest (Prod.ext rfl hrest)

/-- What is read of a version begins with an epoch and a release. -/
theorem exists_front_of_body {text : List Char} {s : Spelling}
    (h : Spelling.parse text = some s) :
    ∃ (f : Front) (rest : List Char), f.Ends rest ∧ body text = f.numbers ++ rest := by
  rw [parse_eq] at h
  dsimp only at h
  split at h
  · cases h
  · rename_i hfirst
    -- The three readers, from left to right: what each one has read stands in front of what is
    -- left to the next.
    obtain ⟨hbody, hepoch, hmark⟩ := epochText_readEpoch (body text)
    generalize readEpoch (body text) = epoch at *
    obtain ⟨hrelease, hmore, hends⟩ := pointed_readRelease (Digits.noDigitFirst_span epoch.2)
    have hspan := Digits.append_span epoch.2
    have hdigits := Digits.areDigits_span epoch.2
    generalize Digits.span epoch.2 = first at *
    generalize readRelease first.2 = release at *
    have hne : first.1 ≠ [] := by simpa using hfirst
    refine ⟨⟨[], [], epoch.1, first.1, release.1, fun _ hc => (nomatch hc), by simp, hepoch,
      ⟨hne, hdigits⟩, hmore⟩, release.2, ⟨hends, ?_⟩, ?_⟩
    · intro hnone hlast hhead
      apply hmark hnone hne
      rw [hrelease, show release.1 = [] from hlast]
      exact hhead
    · rw [hbody, ← hspan, hrelease]
      simp [Front.numbers]

theorem eq_of_asciiLower_v {c : Char} (h : asciiLower c = 'v') : c = 'v' ∨ c = 'V' := by
  by_cases hascii : c.toNat < 0x80
  · refine Text.forall_ascii (P := fun c => asciiLower c = 'v' → c = 'v' ∨ c = 'V') ?_ hascii h
    decide
  · rw [Text.asciiLower_of_le (by omega)] at h
    exact .inl h

/-- What is skipped in front of a body is a mark, in either case. -/
theorem exists_mark {text core : List Char} (h : skipV (text.map asciiLower) = core) :
    ∃ mark rest, mark ∈ [[], ['v'], ['V']] ∧ text = mark ++ rest ∧ rest.map asciiLower = core := by
  unfold skipV at h
  split at h
  · rename_i rest heq
    subst h
    obtain ⟨c, behind, rfl, hc, hbehind⟩ := List.map_eq_cons_iff.1 heq
    rcases eq_of_asciiLower_v hc with rfl | rfl
    · exact ⟨['v'], behind, by simp, rfl, hbehind⟩
    · exact ⟨['V'], behind, by simp, rfl, hbehind⟩
  · exact ⟨[], text, by simp, rfl, h⟩

/-- Every text of a version can be padded. -/
theorem exists_padded {text : String} {s : Spelling} (h : Spelling.parse text.toList = some s) :
    ∃ text', Padded text text' := by
  obtain ⟨f, rest, hends, hbody⟩ := exists_front_of_body h
  obtain ⟨front, back, hfront, hback, htext⟩ := Text.exists_blanks_around text.toList
  obtain ⟨mark, core, hmark, htrim, hcore⟩ := exists_mark (hbody : skipV _ = _)
  obtain ⟨numbers, after, rfl, hnumbers, hafter⟩ := List.map_eq_append_iff.1 hcore
  -- Epoch and release hold no letters, so they stand in the text as they were read.
  obtain rfl := eq_of_asciiLower (fun c hc => Front.isAlpha_of_mem_numbers hc) hnumbers
  let f' : Front :=
    { f with blanks := front, mark := mark, blanks_blank := hfront, mark_mem := hmark }
  have hends' : f'.Ends (after ++ back) := by
    constructor
    · apply goesOn_append_blanks _ hback
      rw [← goesOn_asciiLower, hafter]
      exact hends.release
    · intro hepoch hmore hhead
      cases after with
      | nil =>
        obtain ⟨-, habsurd, -⟩ := of_isBlank (hback _ (List.mem_of_head? hhead))
        exact habsurd rfl
      | cons c after =>
        apply hends.noEpoch hepoch hmore
        rw [← hafter, Option.some.inj hhead]
        show some (asciiLower '!') = some '!'
        decide
  refine ⟨String.ofList (f'.text ++ '.' :: '0' :: (after ++ back)), f', after ++ back, hends', ?_,
    String.toList_ofList⟩
  rw [htext, htrim]
  simp [f', Front.text, Front.numbers]

end DenoBridge.Version
