import DenoBridge.Hostname.Ascii
import DenoBridge.Proofs.Text.LowerCase

/-! # Marks in host names

    The marks `/`, `?`, `#`, `@` and `:` separate the parts of a URL.  Folding
    makes none of them from a character outside `impostors`
    (`mark_mem_fold`), composing makes nothing that is ASCII
    (`mem_of_mem_compose`), and lower case makes no slash and no impostor
    (`isHarmless_of_mem_lower`).

    The facts about the tables are checked entry by entry.
-/

namespace DenoBridge.Hostname

/-- The code points of the marks. -/
def marks : List Nat :=
  [0x2f, 0x3f, 0x23, 0x40, 0x3a]

theorem slash_mem_marks : '/'.toNat ∈ marks := by
  decide

theorem mark_bounds : ∀ mark ∈ marks, 0 < mark ∧ mark < 0x80 := by
  decide

/-! ## Section 1: Folding -/

/-- The keys and values in a list of pairs. -/
def pairsIn : List Nat → List (Nat × Nat)
  | key :: value :: rest => (key, value) :: pairsIn rest
  | _ => []

theorem mem_pairsIn_of_pairedWith? {code value : Nat} {pairs : List Nat}
    (h : pairedWith? code pairs = some value) : (code, value) ∈ pairsIn pairs := by
  fun_induction pairedWith? code pairs with
  | case1 folded rest =>
    obtain rfl : folded = value := by simpa using h
    simp [pairsIn]
  | case2 key folded rest hkey ih => exact List.mem_cons_of_mem _ (ih h)
  | case3 => simp at h

theorem foldRuns_marks : marks.all (fun mark => foldRuns.all fun run =>
    !run.covers (mark - run.shift).toNat || impostors.contains (mark - run.shift).toNat) = true := by
  decide +kernel

theorem foldPairs_marks : foldPairs.all (fun pairs => (pairsIn pairs).all fun pair =>
    !marks.contains pair.2 || impostors.contains pair.1) = true := by
  decide +kernel

theorem foldTexts_marks : foldTexts.all (fun chunk => chunk.all fun folding =>
    folding.folded.all (!marks.contains ·) || impostors.contains folding.code) = true := by
  decide +kernel

theorem mark_of_shifted? {code mark : Nat} (hmark : mark ∈ marks)
    (h : Text.shifted? foldRuns code = some mark) : code ∈ impostors := by
  obtain ⟨run, hrun, hcovers, himage⟩ := Text.exists_run_of_shifted? h
  have hchecked := List.all_eq_true.1 (List.all_eq_true.1 foldRuns_marks mark hmark) run hrun
  rw [Text.ShiftRun.toNat_sub_shift (mark_bounds mark hmark).1 himage, hcovers] at hchecked
  simpa using hchecked

theorem mark_of_pairedWith? {code mark : Nat} (hmark : mark ∈ marks)
    (h : foldPairs.findSome? (pairedWith? code) = some mark) : code ∈ impostors := by
  obtain ⟨pairs, hpairs, hfound⟩ := List.exists_of_findSome?_eq_some h
  have hchecked := List.all_eq_true.1 (List.all_eq_true.1 foldPairs_marks pairs hpairs)
    (code, mark) (mem_pairsIn_of_pairedWith? hfound)
  simpa [hmark] using hchecked

theorem mark_of_foldTexts {code mark : Nat} {folding : Folding} (hmark : mark ∈ marks)
    (h : foldTexts.findSome? (fun chunk => chunk.find? (·.code == code)) = some folding)
    (hmem : mark ∈ folding.folded) : code ∈ impostors := by
  obtain ⟨chunk, hchunk, hfound⟩ := List.exists_of_findSome?_eq_some h
  obtain rfl : folding.code = code := by simpa using List.find?_some hfound
  have hchecked := List.all_eq_true.1 (List.all_eq_true.1 foldTexts_marks chunk hchunk)
    folding (List.mem_of_find?_eq_some hfound)
  rcases Bool.or_eq_true_iff.1 hchecked with hnone | himpostor
  · have := List.all_eq_true.1 hnone mark hmem
    simp [hmark] at this
  · simpa using himpostor

/-- No character outside `impostors` has a folded form that holds a mark,
    the marks themselves apart. -/
theorem mark_mem_fold {code mark : Nat} (hmark : mark ∈ marks) (h : mark ∈ fold code) :
    code = mark ∨ code ∈ impostors := by
  have hascii : mark < 0x80 := (mark_bounds mark hmark).2
  unfold fold at h
  split at h
  · -- The letters of a syllable lie far beyond ASCII.
    simp only [foldSyllable, List.mem_append, List.mem_cons, List.not_mem_nil, or_false] at h
    rcases h with (h | h) | h
    · omega
    · omega
    · split at h
      · simp at h
      · simp only [List.mem_cons, List.not_mem_nil, or_false] at h
        omega
  · split at h
    · rename_i folded hfolded
      obtain rfl : mark = folded := by simpa using h
      exact .inr (mark_of_shifted? hmark hfolded)
    · split at h
      · rename_i folded hfolded
        obtain rfl : mark = folded := by simpa using h
        exact .inr (mark_of_pairedWith? hmark hfolded)
      · split at h
        · rename_i folding hfolding
          exact .inr (mark_of_foldTexts hmark hfolding h)
        · exact .inl (List.mem_singleton.1 h).symm

/-! ## Section 2: Composing -/

theorem mem_insertMark {code found : Nat} {text : List Nat} :
    found ∈ insertMark code text ↔ found = code ∨ found ∈ text := by
  induction text with
  | nil => simp [insertMark]
  | cons next rest ih =>
    unfold insertMark
    split
    · simp only [List.mem_cons, ih]
      exact or_left_comm
    · simp

theorem mem_orderMarks {found : Nat} {text : List Nat} :
    found ∈ orderMarks text ↔ found ∈ text := by
  induction text with
  | nil => simp [orderMarks]
  | cons code rest ih => rw [orderMarks, mem_insertMark, ih, List.mem_cons]

/-- What the tables compose to lies beyond ASCII. -/
theorem compositions_beyond :
    [compositions0, compositions1, compositions2, compositions3, compositions4, compositions5,
      compositions6, compositions7].all (fun chunk => chunk.all fun entry => 0x80 ≤ entry.2.2) =
        true := by
  decide +kernel

theorem le_of_composePair? {first second code : Nat} (h : composePair? first second = some code) :
    0x80 ≤ code := by
  unfold composePair? at h
  split at h
  · rename_i syllable hsyllable
    obtain rfl : syllable = code := by simpa using h
    unfold composeHangul? at hsyllable
    split at hsyllable
    · simp only [Option.some.injEq] at hsyllable
      omega
    · split at hsyllable
      · simp only [Option.some.injEq] at hsyllable
        omega
      · simp at hsyllable
  · obtain ⟨entry, hentry, rfl⟩ := Option.map_eq_some_iff.1 h
    obtain ⟨chunk, hchunk, hfound⟩ := List.exists_of_findSome?_eq_some hentry
    have hchecked := List.all_eq_true.1 (List.all_eq_true.1 compositions_beyond chunk hchunk) entry
      (List.mem_of_find?_eq_some hfound)
    simpa using hchecked

/-- A code point after a letter is composed with it, starts a new letter, or
    is passed over. -/
theorem composeAfter_cons (letter : Nat) (passed : List Nat) (code : Nat) (rest : List Nat) :
    (∃ joined, composePair? letter code = some joined ∧
      composeAfter letter passed (code :: rest) = composeAfter joined passed rest) ∨
    composeAfter letter passed (code :: rest) =
      letter :: passed.reverse ++ composeAfter code [] rest ∨
    composeAfter letter passed (code :: rest) = composeAfter letter (code :: passed) rest := by
  have hpair (free : Bool) {joined : Nat}
      (h : (if free = true then composePair? letter code else none) = some joined) :
      composePair? letter code = some joined := by
    split at h
    · exact h
    · simp at h
  rw [composeAfter.eq_def letter passed (code :: rest)]
  dsimp only
  split
  · rename_i joined hjoined
    exact .inl ⟨joined, hpair _ hjoined, rfl⟩
  · split
    · exact .inr (.inl rfl)
    · exact .inr (.inr rfl)

/-- An ASCII code point of a composed text was there before. -/
theorem mem_of_mem_composeAfter {letter found : Nat} {passed rest : List Nat}
    (h : found ∈ composeAfter letter passed rest) (hascii : found < 0x80) :
    found = letter ∨ found ∈ passed ∨ found ∈ rest := by
  induction rest generalizing letter passed with
  | nil =>
    rw [composeAfter] at h
    rcases List.mem_cons.1 h with h | h
    · exact .inl h
    · exact .inr (.inl (List.mem_reverse.1 h))
  | cons code rest ih =>
    rcases composeAfter_cons letter passed code rest with ⟨joined, hjoined, hstep⟩ | hstep | hstep
    · rcases ih (hstep ▸ h) with h | h | h
      · have hbeyond := le_of_composePair? hjoined
        omega
      · exact .inr (.inl h)
      · exact .inr (.inr (List.mem_cons_of_mem _ h))
    · rw [hstep] at h
      rcases List.mem_append.1 h with h | h
      · rcases List.mem_cons.1 h with h | h
        · exact .inl h
        · exact .inr (.inl (List.mem_reverse.1 h))
      · rcases ih h with h | h | h
        · exact .inr (.inr (h ▸ List.mem_cons_self))
        · simp at h
        · exact .inr (.inr (List.mem_cons_of_mem _ h))
    · rcases ih (hstep ▸ h) with h | h | h
      · exact .inl h
      · rcases List.mem_cons.1 h with h | h
        · exact .inr (.inr (h ▸ List.mem_cons_self))
        · exact .inr (.inl h)
      · exact .inr (.inr (List.mem_cons_of_mem _ h))

theorem mem_of_mem_compose {found : Nat} {text : List Nat} (h : found ∈ compose text)
    (hascii : found < 0x80) : found ∈ text := by
  induction text with
  | nil => simp [compose] at h
  | cons code rest ih =>
    rw [compose] at h
    split at h
    · rcases mem_of_mem_composeAfter h hascii with h | h | h
      · simp [h]
      · simp at h
      · simp [h]
    · rcases List.mem_cons.1 h with h | h
      · simp [h]
      · exact List.mem_cons_of_mem _ (ih h)

/-! ## Section 3: Lower case -/

/-- A character that is no slash and does not fold to one. -/
def IsHarmless (c : Char) : Prop :=
  c ≠ '/' ∧ c.toNat ∉ impostors

instance (c : Char) : Decidable (IsHarmless c) :=
  inferInstanceAs (Decidable (_ ∧ _))

theorem caseRuns_harmless : (0x2f :: impostors).all (fun image => Text.caseRuns.all fun run =>
    !run.covers (image - run.shift).toNat) = true := by
  decide +kernel

theorem impostors_beyond : ∀ code ∈ impostors, 0x80 ≤ code := by
  decide

theorem isHarmless_asciiLower : ∀ code < 0x80, Char.ofNat code ≠ '/' →
    IsHarmless (Text.asciiLower (Char.ofNat code)) := by
  decide

/-- Runs that cover no source of some images map nothing to one of these. -/
theorem not_mem_images {runs : List Text.ShiftRun} {images : List Nat}
    (h : images.all (fun image => runs.all fun run =>
      !run.covers (image - run.shift).toNat) = true)
    (hpos : ∀ image ∈ images, 0 < image) {code image : Nat}
    (hshifted : Text.shifted? runs code = some image) : image ∉ images := by
  intro hmem
  obtain ⟨run, hrun, hcovers, himage⟩ := Text.exists_run_of_shifted? hshifted
  have hchecked := List.all_eq_true.1 (List.all_eq_true.1 h image hmem) run hrun
  rw [Text.ShiftRun.toNat_sub_shift (hpos image hmem) himage, hcovers] at hchecked
  simp at hchecked

theorem not_mem_of_shifted? {code image : Nat} (h : Text.shifted? Text.caseRuns code = some image) :
    image ∉ 0x2f :: impostors :=
  not_mem_images caseRuns_harmless (by decide) h

theorem eq_of_toNat_ofNat {code : Nat} (hne : (Char.ofNat code).toNat ≠ 0) :
    (Char.ofNat code).toNat = code := by
  by_cases hvalid : code.isValidChar
  · rw [Char.ofNat, dif_pos hvalid]
    rfl
  · rw [Char.ofNat, dif_neg hvalid] at hne
    exact absurd rfl hne

theorem isHarmless_lowerChar {c : Char} (h : IsHarmless c) : IsHarmless (Text.lowerChar c) := by
  unfold Text.lowerChar
  split
  · rename_i hascii
    have hlower := isHarmless_asciiLower c.toNat hascii
    rw [Char.ofNat_toNat] at hlower
    exact hlower h.1
  · split
    · rename_i image himage
      have himage := not_mem_of_shifted? himage
      rw [List.mem_cons, not_or] at himage
      refine ⟨fun hslash => ?_, fun himpostor => ?_⟩
      · have hcode : (Char.ofNat image).toNat = 0x2f := by rw [hslash]; rfl
        have hne : (Char.ofNat image).toNat ≠ 0 := by omega
        have := eq_of_toNat_ofNat hne
        omega
      · have hbeyond := impostors_beyond _ himpostor
        rw [eq_of_toNat_ofNat (by omega)] at himpostor
        exact himage.2 himpostor
    · exact h

theorem isHarmless_ruledLowers : ∀ c ∈ Text.ruledLowers, IsHarmless c := by
  have hall : Text.ruledLowers.all (fun c => decide (IsHarmless c)) = true := by decide
  intro c hc
  exact of_decide_eq_true (List.all_eq_true.1 hall c hc)

theorem isHarmless_of_mem_lower {text : List Char} (h : ∀ c ∈ text, IsHarmless c) :
    ∀ c ∈ Text.lower text, IsHarmless c := by
  intro c hc
  rcases Text.mem_lower hc with hruled | ⟨d, hd, rfl⟩
  · exact isHarmless_ruledLowers c hruled
  · exact isHarmless_lowerChar (h d hd)

end DenoBridge.Hostname
