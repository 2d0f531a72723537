import DenoBridge.Proofs.Text.Ascii
import DenoBridge.Proofs.Text.Split

/-! # Letters in either case

    Lower case leaves nothing that could be lowered once more
    (`isLowered_of_mem_lower`), so a text is its own lower case exactly when
    this is so of each of its characters (`lower_eq_self_iff`).

    Texts have the same letters when they differ in nothing but the case of
    letters of ASCII.  Cut at the same place they give parts with the same
    letters, and they have one lower case (`SameLetters.lower_eq`).
-/

namespace DenoBridge.Text

variable {c : Char} {text u v : List Char}

/-! ## Section 1: Characters in lower case -/

/-- Lower case leaves the character as it is, wherever it stands. -/
def IsLowered (c : Char) : Prop :=
  c ≠ 'Σ' ∧ c ≠ 'İ' ∧ lowerChar c = c

instance (c : Char) : Decidable (IsLowered c) :=
  inferInstanceAs (Decidable (_ ∧ _ ∧ _))

/-- Is nothing that the first run maps to mapped by the second?  Code points
    are looked at one by one only where the two come near each other; all
    pairs of runs are checked, so that the comparisons are those of `Bool`. -/
def ShiftRun.isFinal (run next : ShiftRun) : Bool :=
  (run.image run.last).blt next.first || next.last.blt (run.image run.first) ||
    (List.range' run.first (run.last + 1 - run.first)).all fun code =>
      !run.covers code || !next.covers (run.image code)

theorem ShiftRun.not_covers_image {run next : ShiftRun} {code : Nat}
    (h : run.isFinal next = true) (hcovers : run.covers code = true) :
    next.covers (run.image code) = false := by
  have hbounds : run.first ≤ code ∧ code ≤ run.last := by
    simp only [covers, Bool.and_eq_true, decide_eq_true_eq] at hcovers
    exact hcovers.1
  rw [isFinal, Bool.or_eq_true, Bool.or_eq_true, Nat.blt_eq, Nat.blt_eq] at h
  rw [← Bool.not_eq_true]
  intro hnext
  simp only [covers, Bool.and_eq_true, decide_eq_true_eq] at hnext
  rcases h with (hbelow | habove) | hapart
  · simp only [image] at hbelow hnext
    omega
  · simp only [image] at habove hnext
    omega
  · have hmem : code ∈ List.range' run.first (run.last + 1 - run.first) :=
      List.mem_range'_1.2 (by omega)
    have hboth := List.all_eq_true.1 hapart code hmem
    simp only [hcovers, Bool.not_true, Bool.false_or, Bool.not_eq_true'] at hboth
    simp [covers, hnext.1.1, hnext.1.2, hnext.2] at hboth

/-- The run of the dotted capital I alone. -/
def dottedRun : ShiftRun :=
  ⟨0x130, 0x130, 1, 0⟩

/-- The run of the kelvin sign alone. -/
def kelvinRun : ShiftRun :=
  ⟨0x212a, 0x212a, 1, -8383⟩

/-- Are all images of the run characters beyond ASCII? -/
def ShiftRun.staysBeyond (run : ShiftRun) : Bool :=
  Nat.blt 0x7f (run.image run.first) && ((run.image run.last).blt 0xd800 ||
    Nat.blt 0xdfff (run.image run.first) && (run.image run.last).blt 0x110000)

/-- No capital is the lower-case form of another one, and beyond ASCII only the
    kelvin sign has a lower case in ASCII. -/
theorem caseRuns_checked :
    caseRuns.all (fun run => (dottedRun :: caseRuns).all run.isFinal) = true ∧
      caseRuns.all (fun run => run.last.blt 0x80 || run.staysBeyond || run == kelvinRun) =
        true := by
  decide +kernel

theorem isLowered_asciiLower : ∀ code < 0x80, IsLowered (asciiLower (Char.ofNat code)) := by
  decide

/-- A code point that no run maps is that of a character in lower case. -/
theorem isLowered_ofNat {code : Nat} (h : ∀ run ∈ dottedRun :: caseRuns, run.covers code = false) :
    IsLowered (Char.ofNat code) := by
  by_cases hvalid : code.isValidChar
  · have hcode : (Char.ofNat code).toNat = code := by
      rw [Char.ofNat, dif_pos hvalid]
      rfl
    have hsigma : code ≠ 0x3a3 := by
      rintro rfl
      exact absurd (h ⟨0x3a3, 0x3ab, 1, 32⟩ (by decide)) (by decide)
    have hdotted : code ≠ 0x130 := by
      rintro rfl
      exact absurd (h dottedRun List.mem_cons_self) (by decide)
    refine ⟨fun heq => hsigma (hcode ▸ heq ▸ rfl), fun heq => hdotted (hcode ▸ heq ▸ rfl), ?_⟩
    unfold lowerChar
    split
    · have hcapital := h ⟨0x41, 0x5a, 1, 32⟩ (by decide)
      unfold asciiLower
      rw [if_neg]
      rintro ⟨hfirst, hlast⟩
      have hlow : 0x41 ≤ code := hcode ▸ hfirst
      have hhigh : code ≤ 0x5a := hcode ▸ hlast
      simp [ShiftRun.covers, hlow, hhigh, Nat.mod_one] at hcapital
    · split
      · rename_i image himage
        obtain ⟨run, hrun, hcovers, -⟩ := exists_run_of_shifted? himage
        rw [hcode, h run (List.mem_cons_of_mem _ hrun)] at hcovers
        cases hcovers
      · rfl
  · rw [Char.ofNat, dif_neg hvalid]
    decide

theorem isLowered_lowerChar (hdotted : c ≠ 'İ') : IsLowered (lowerChar c) := by
  by_cases hascii : c.toNat < 0x80
  · rw [lowerChar, if_pos hascii]
    exact forall_ascii (P := fun c => IsLowered (asciiLower c)) isLowered_asciiLower hascii
  · cases hshifted : shifted? caseRuns c.toNat with
    | some image =>
      obtain ⟨run, hrun, hcovers, rfl⟩ := exists_run_of_shifted? hshifted
      have hfinal := List.all_eq_true.1 (List.all_eq_true.1 caseRuns_checked.1 run hrun)
      rw [lowerChar, if_neg hascii, hshifted]
      exact isLowered_ofNat fun next hnext => run.not_covers_image (hfinal next hnext) hcovers
    | none =>
      have hsame : lowerChar c = c := by rw [lowerChar, if_neg hascii, hshifted]
      rw [hsame]
      refine ⟨?_, hdotted, hsame⟩
      rintro rfl
      exact absurd hshifted (by decide)

theorem ShiftRun.le_image {run : ShiftRun} {code : Nat} (h : run.staysBeyond = true)
    (hcovers : run.covers code = true) : 0x80 ≤ (Char.ofNat (run.image code)).toNat := by
  simp only [covers, Bool.and_eq_true, decide_eq_true_eq] at hcovers
  simp only [staysBeyond, Bool.and_eq_true, Bool.or_eq_true, Nat.blt_eq] at h
  simp only [image] at h ⊢
  have hvalid : (code + run.shift).toNat.isValidChar := by
    show _ < 0xd800 ∨ 0xdfff < _ ∧ _ < 0x110000
    omega
  rw [Char.ofNat, dif_pos hvalid]
  show 0x80 ≤ (code + run.shift).toNat
  omega

/-- Beyond ASCII, only the kelvin sign has a letter of ASCII for its lower
    case. -/
theorem lowerChar_of_le (h : 0x80 ≤ c.toNat) : 0x80 ≤ (lowerChar c).toNat ∨ lowerChar c = 'k' := by
  rw [lowerChar, if_neg (by omega)]
  cases hshifted : shifted? caseRuns c.toNat with
  | none => exact .inl h
  | some image =>
    obtain ⟨run, hrun, hcovers, rfl⟩ := exists_run_of_shifted? hshifted
    have hbounds : run.first ≤ c.toNat ∧ c.toNat ≤ run.last := by
      simp only [ShiftRun.covers, Bool.and_eq_true, decide_eq_true_eq] at hcovers
      exact hcovers.1
    have hchecked := List.all_eq_true.1 caseRuns_checked.2 run hrun
    rw [Bool.or_eq_true, Bool.or_eq_true, Nat.blt_eq, beq_iff_eq] at hchecked
    rcases hchecked with (hlast | hbeyond) | rfl
    · omega
    · exact .inl (run.le_image hbeyond hcovers)
    · have hcode : c.toNat = 0x212a := Nat.le_antisymm hbounds.2 hbounds.1
      dsimp only
      rw [hcode]
      exact .inr (by decide)

/-! ## Section 2: Texts in lower case -/

theorem isLowered_of_mem_lowerAfter {before : List Char} (h : c ∈ lowerAfter before text) :
    IsLowered c := by
  have hruled : ∀ d ∈ ruledLowers, IsLowered d := by decide
  fun_induction lowerAfter before text with
  | case1 => simp at h
  | case2 before rest ih =>
    rcases List.mem_cons.1 h with rfl | h
    · exact hruled _ (lowerSigma_mem before rest)
    · exact ih h
  | case3 before rest ih =>
    rcases List.mem_cons.1 h with rfl | h
    · exact hruled _ (by decide)
    · rcases List.mem_cons.1 h with rfl | h
      · exact hruled _ (by decide)
      · exact ih h
  | case4 before first rest _ hdotted ih =>
    rcases List.mem_cons.1 h with rfl | h
    · exact isLowered_lowerChar hdotted
    · exact ih h

/-- Lower case is lowered throughout. -/
theorem isLowered_of_mem_lower (h : c ∈ lower text) : IsLowered c :=
  isLowered_of_mem_lowerAfter h

/-- A text is in lower case when all its characters are. -/
theorem lower_eq_self_iff : lower text = text ↔ ∀ c ∈ text, IsLowered c := by
  constructor
  · intro heq c hc
    exact isLowered_of_mem_lower (heq ▸ hc)
  · intro h
    have hafter (before : List Char) : lowerAfter before text = text := by
      induction text generalizing before with
      | nil => rfl
      | cons c rest ih =>
        obtain ⟨hsigma, hdotted, hsame⟩ := h c List.mem_cons_self
        rw [lowerAfter, hsame, ih fun d hd => h d (List.mem_cons_of_mem _ hd)]
        · exact hsigma
        · exact hdotted
    exact hafter []

/-- If there is no `k` in it, a lower case in ASCII is that of a text in ASCII. -/
theorem ascii_of_lower (h : ∀ d ∈ lower text, d.toNat < 0x80 ∧ d ≠ 'k') :
    ∀ c ∈ text, c.toNat < 0x80 := by
  intro c hc
  rw [← Nat.not_le]
  intro hbeyond
  obtain ⟨d, hd, heq⟩ := exists_mem_lower hc
  obtain ⟨hascii, hk⟩ := h d hd
  rcases heq with rfl | hle
  · rcases lowerChar_of_le hbeyond with hle | heq
    · omega
    · exact hk heq
  · omega

/-- In ASCII, lower case is the absence of capitals. -/
theorem isLowered_iff_of_ascii (hascii : c.toNat < 0x80) : IsLowered c ↔ c.isUpper = false := by
  refine forall_ascii (P := fun c => IsLowered c ↔ c.isUpper = false) ?_ hascii
  decide

theorem IsLowered.not_isUpper (h : IsLowered c) : c.isUpper = false := by
  rw [← Bool.not_eq_true]
  intro hupper
  have hascii : c.toNat < 0x80 := by
    rw [isUpper_iff] at hupper
    omega
  rw [(isLowered_iff_of_ascii hascii).1 h] at hupper
  cases hupper

/-! ## Section 3: The same letters -/

/-- The texts differ in nothing but the case of letters of ASCII. -/
def SameLetters (u v : List Char) : Prop :=
  u.map asciiLower = v.map asciiLower

instance (u v : List Char) : Decidable (SameLetters u v) :=
  inferInstanceAs (Decidable (_ = _))

/-- The class holds a letter of ASCII in both cases or in none. -/
def IgnoresCase (p : Char → Bool) : Prop :=
  ∀ c, p (asciiLower c) = p c

theorem ignoresCase_of_ascii {p : Char → Bool}
    (h : ∀ code < 0x80, p (asciiLower (Char.ofNat code)) = p (Char.ofNat code)) :
    IgnoresCase p := by
  intro c
  by_cases hascii : c.toNat < 0x80
  · exact forall_ascii (P := fun c => p (asciiLower c) = p c) h hascii
  · rw [asciiLower_of_le (by omega)]

theorem asciiLower_cases (c : Char) :
    asciiLower c = c ∨ c.isUpper = true ∧ (asciiLower c).isLower = true := by
  by_cases hascii : c.toNat < 0x80
  · refine forall_ascii (P := fun c => asciiLower c = c ∨
      c.isUpper = true ∧ (asciiLower c).isLower = true) ?_ hascii
    decide
  · exact .inl (asciiLower_of_le (by omega))

theorem toNat_asciiLower (h : c.isUpper = true) : (asciiLower c).toNat = c.toNat + 32 := by
  have hascii : c.toNat < 0x80 := by
    rw [isUpper_iff] at h
    omega
  refine forall_ascii
    (P := fun c => c.isUpper = true → (asciiLower c).toNat = c.toNat + 32) ?_ hascii h
  decide

theorem asciiLower_asciiLower (c : Char) : asciiLower (asciiLower c) = asciiLower c := by
  rcases asciiLower_cases c with hsame | ⟨-, hlower⟩
  · rw [hsame, hsame]
  · rcases asciiLower_cases (asciiLower c) with hsame | ⟨hupper, -⟩
    · exact hsame
    · rw [isUpper_iff] at hupper
      rw [isLower_iff] at hlower
      omega

/-- A mark is no letter, so it stands for itself alone. -/
theorem asciiLower_eq_mark {mark : Char} (h : mark.isAlpha = false) :
    asciiLower c = mark ↔ c = mark := by
  obtain ⟨hupper, hlower⟩ := Bool.or_eq_false_iff.1 h
  rcases asciiLower_cases c with hsame | ⟨hc, hsmall⟩
  · rw [hsame]
  · constructor
    · rintro rfl
      rw [hsmall] at hlower
      cases hlower
    · rintro rfl
      rw [hc] at hupper
      cases hupper

theorem ignoresCase_beq {mark : Char} (h : mark.isAlpha = false) : IgnoresCase (· == mark) := by
  intro c
  rw [Bool.eq_iff_iff, beq_iff_eq, beq_iff_eq, asciiLower_eq_mark h]

/-- So a class of marks ignores case. -/
theorem ignoresCase_contains {marks : List Char} (h : ∀ mark ∈ marks, mark.isAlpha = false) :
    IgnoresCase (marks.contains ·) := by
  intro c
  rw [Bool.eq_iff_iff, List.contains_iff_mem, List.contains_iff_mem]
  constructor
  · intro hmem
    rwa [(asciiLower_eq_mark (h _ hmem)).1 rfl]
  · intro hmem
    rwa [(asciiLower_eq_mark (h c hmem)).2 rfl]

theorem IgnoresCase.not {p : Char → Bool} (h : IgnoresCase p) : IgnoresCase (!p ·) :=
  fun c => congrArg (!·) (h c)

/-! ## Section 4: Cuts and classes -/

section

variable {p : Char → Bool}

theorem filter_asciiLower (h : IgnoresCase p) (text : List Char) :
    (text.map asciiLower).filter p = (text.filter p).map asciiLower := by
  rw [List.filter_map, show p ∘ asciiLower = p from funext h]

theorem dropWhile_asciiLower (h : IgnoresCase p) (text : List Char) :
    (text.map asciiLower).dropWhile p = (text.dropWhile p).map asciiLower := by
  rw [List.dropWhile_map, show p ∘ asciiLower = p from funext h]

theorem takeWhile_asciiLower (h : IgnoresCase p) (text : List Char) :
    (text.map asciiLower).takeWhile p = (text.takeWhile p).map asciiLower := by
  rw [List.takeWhile_map, show p ∘ asciiLower = p from funext h]

theorem dropTail_asciiLower (h : IgnoresCase p) (text : List Char) :
    dropTail p (text.map asciiLower) = (dropTail p text).map asciiLower := by
  unfold dropTail
  rw [← List.map_reverse, dropWhile_asciiLower h, List.map_reverse]

theorem all_asciiLower (h : IgnoresCase p) (text : List Char) :
    (text.map asciiLower).all p = text.all p := by
  rw [List.all_map, show p ∘ asciiLower = p from funext h]

theorem cutAt_asciiLower (h : IgnoresCase p) (text : List Char) :
    cutAt p (text.map asciiLower) =
      ((cutAt p text).1.map asciiLower, (cutAt p text).2.map (·.map asciiLower)) := by
  induction text with
  | nil => rfl
  | cons c rest ih =>
    rw [List.map_cons, cutAt, cutAt, h c, ih]
    split <;> rfl

end

section

variable {mark : Char}

theorem mem_asciiLower (h : mark.isAlpha = false) : mark ∈ text.map asciiLower ↔ mark ∈ text := by
  simp [asciiLower_eq_mark h]

theorem contains_asciiLower (h : mark.isAlpha = false) (text : List Char) :
    (text.map asciiLower).contains mark = text.contains mark := by
  rw [Bool.eq_iff_iff, List.contains_iff_mem, List.contains_iff_mem, mem_asciiLower h]

theorem pieces_asciiLower (h : mark.isAlpha = false) (text : List Char) :
    pieces mark (text.map asciiLower) = (pieces mark text).map (·.map asciiLower) := by
  induction text with
  | nil => rfl
  | cons c rest ih =>
    obtain ⟨first, more, hpieces⟩ := List.exists_cons_of_ne_nil (pieces_ne_nil mark rest)
    rw [List.map_cons, pieces, pieces, ih, hpieces]
    by_cases hc : c = mark
    · rw [if_pos ((asciiLower_eq_mark h).2 hc), if_pos hc]
      rfl
    · rw [if_neg (mt (asciiLower_eq_mark h).1 hc), if_neg hc]
      rfl

end

/-- Digits are no letters. -/
theorem isAlpha_of_isDigit (h : c.isDigit = true) : c.isAlpha = false := by
  have hnine : '9'.toNat = 0x39 := rfl
  rw [Char.isDigit_iff_toNat] at h
  refine Bool.or_eq_false_iff.2 ⟨?_, ?_⟩
  · rw [← Bool.not_eq_true, isUpper_iff]
    omega
  · rw [← Bool.not_eq_true, isLower_iff]
    omega

/-- A text without letters is in lower case. -/
theorem asciiLower_of_not_isAlpha (h : ∀ c ∈ text, c.isAlpha = false) :
    text.map asciiLower = text := by
  refine (List.map_congr_left fun c hc => ?_).trans (List.map_id _)
  exact (asciiLower_eq_mark (h c hc)).2 rfl

/-- No other text has such a text for its lower case. -/
theorem eq_of_asciiLower {marks : List Char} (h : ∀ c ∈ marks, c.isAlpha = false)
    (heq : text.map asciiLower = marks) : text = marks := by
  rw [← heq]
  refine (List.map_id text).symm.trans (List.map_congr_left fun c hc => ?_)
  have hmark : asciiLower c ∈ marks := by
    rw [← heq]
    exact List.mem_map_of_mem hc
  exact (asciiLower_eq_mark (h _ hmark)).1 rfl

theorem asciiLower_of_isDigit (h : text.all Char.isDigit = true) :
    text.map asciiLower = text :=
  asciiLower_of_not_isAlpha fun c hc => isAlpha_of_isDigit (List.all_eq_true.1 h c hc)

/-! ## Section 5: What texts with the same letters share -/

theorem SameLetters.symm (h : SameLetters u v) : SameLetters v u :=
  Eq.symm h

/-- What ignores case is the same for both texts. -/
theorem SameLetters.eq_of {α : Type} {f : List Char → α}
    (hf : ∀ text, f (text.map asciiLower) = f text) (h : SameLetters u v) : f v = f u := by
  rw [← hf v, ← h, hf u]

/-- What keeps case makes texts with the same letters of both. -/
theorem SameLetters.of_commutes {f : List Char → List Char}
    (hf : ∀ text, f (text.map asciiLower) = (f text).map asciiLower) (h : SameLetters u v) :
    SameLetters (f u) (f v) := by
  rw [SameLetters, ← hf, ← hf, h]

theorem SameLetters.all_eq {p : Char → Bool} (hp : IgnoresCase p) (h : SameLetters u v) :
    v.all p = u.all p :=
  h.eq_of (f := fun text => text.all p) (all_asciiLower hp)

theorem SameLetters.mem_iff {mark : Char} (hmark : mark.isAlpha = false) (h : SameLetters u v) :
    mark ∈ v ↔ mark ∈ u := by
  rw [← mem_asciiLower hmark, ← h, mem_asciiLower hmark]

theorem SameLetters.exists_cons {mark : Char} (hmark : mark.isAlpha = false)
    (h : SameLetters (mark :: u) v) : ∃ rest, v = mark :: rest ∧ SameLetters u rest := by
  obtain ⟨first, rest, rfl, hfirst, hrest⟩ := List.map_eq_cons_iff.1 h.symm
  have hsame : asciiLower mark = mark := (asciiLower_eq_mark hmark).2 rfl
  rw [hsame, asciiLower_eq_mark hmark] at hfirst
  exact ⟨rest, by rw [hfirst], hrest.symm⟩

theorem SameLetters.exists_append {front back : List Char} (h : SameLetters (front ++ back) v) :
    ∃ front' back', v = front' ++ back' ∧ SameLetters front front' ∧ SameLetters back back' := by
  rw [SameLetters, List.map_append] at h
  obtain ⟨front', back', rfl, hfront, hback⟩ := List.map_eq_append_iff.1 h.symm
  exact ⟨front', back', rfl, hfront.symm, hback.symm⟩

/-! ## Section 6: One lower case -/

theorem startsCased_asciiLower (text : List Char) :
    startsCased (text.map asciiLower) = startsCased text := by
  have hskipped : IgnoresCase fun c => insideTurns skippedTurns c.toNat :=
    ignoresCase_of_ascii (by decide)
  have hcased : IgnoresCase fun c => insideTurns casedTurns c.toNat :=
    ignoresCase_of_ascii (by decide)
  unfold startsCased
  rw [dropWhile_asciiLower hskipped]
  cases text.dropWhile fun c => insideTurns skippedTurns c.toNat with
  | nil => rfl
  | cons c rest => exact hcased c

theorem lowerChar_asciiLower (c : Char) : lowerChar (asciiLower c) = lowerChar c := by
  by_cases hascii : c.toNat < 0x80
  · refine forall_ascii (P := fun c => lowerChar (asciiLower c) = lowerChar c) ?_ hascii
    decide
  · rw [asciiLower_of_le (by omega)]

theorem lowerAfter_asciiLower (before text : List Char) :
    lowerAfter (before.map asciiLower) (text.map asciiLower) = lowerAfter before text := by
  fun_induction lowerAfter before text with
  | case1 => rfl
  | case2 before rest ih =>
    have hsigma : asciiLower 'Σ' = 'Σ' := by decide
    rw [List.map_cons, hsigma] at ih ⊢
    rw [lowerAfter, ih, lowerSigma, startsCased_asciiLower, startsCased_asciiLower]
    rfl
  | case3 before rest ih =>
    have hdotted : asciiLower 'İ' = 'İ' := by decide
    rw [List.map_cons, hdotted] at ih ⊢
    rw [lowerAfter, ih]
  | case4 before first rest hsigma hdotted ih =>
    rw [List.map_cons] at ih ⊢
    rw [lowerAfter, ih, lowerChar_asciiLower]
    · exact mt (asciiLower_eq_mark (by decide)).1 hsigma
    · exact mt (asciiLower_eq_mark (by decide)).1 hdotted

/-- Texts with the same letters have one lower case. -/
theorem SameLetters.lower_eq (h : SameLetters u v) : lower u = lower v :=
  h.symm.eq_of (lowerAfter_asciiLower [])

end DenoBridge.Text
