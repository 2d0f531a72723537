import DenoBridge.Proofs.Hostname.Ascii
import DenoBridge.Proofs.Text.Letters

/-! # Letters and percent signs of host names

    The ASCII form of a label that is not ASCII is in lower case
    (`isLowered_of_not_isAscii`), so that no ASCII form of a host name makes a
    capital of ASCII (`not_isUpper_toAscii?`); and a percent sign is never lost
    (`percent_mem_toAscii?`): nothing is composed with it.

    The facts about the tables are checked entry by entry.
-/

namespace DenoBridge.Hostname

/-! ## Section 1: Capitals -/

/-- The code points of the capitals of ASCII. -/
def capitals : List Nat :=
  List.range' 0x41 26

theorem mem_capitals {c : Char} : c.isUpper = true ↔ c.toNat ∈ capitals := by
  rw [Text.isUpper_iff, capitals, List.mem_range'_1]
  omega

/-- Is the code point that of no capital?  Two comparisons are faster than a
    search where tables are checked. -/
def isNoCapital (code : Nat) : Bool :=
  code < 0x41 || 0x5a < code

theorem not_mem_capitals {code : Nat} (h : isNoCapital code = true) : code ∉ capitals := by
  rw [isNoCapital, Bool.or_eq_true, decide_eq_true_eq, decide_eq_true_eq] at h
  rw [capitals, List.mem_range'_1]
  omega

theorem capitals_pos : ∀ capital ∈ capitals, 0 < capital := by
  decide

theorem isUpper_ofNat {code : Nat} (h : code ∉ capitals) : (Char.ofNat code).isUpper = false := by
  rw [← Bool.not_eq_true, mem_capitals]
  intro hmem
  have hpos := capitals_pos _ hmem
  rw [eq_of_toNat_ofNat (by omega)] at hmem
  exact h hmem

/-! ## Section 2: Folding -/

theorem foldRuns_capitals : capitals.all (fun image => foldRuns.all fun run =>
    !run.covers (image - run.shift).toNat) = true := by
  decide +kernel

/-- Pairs stand for characters beyond ASCII, and none of them for a capital. -/
theorem foldPairs_letters : foldPairs.all (fun pairs => (pairsIn pairs).all fun pair =>
    Nat.blt 0x7f pair.1 && isNoCapital pair.2) = true := by
  decide +kernel

theorem foldTexts_letters : foldTexts.all (fun chunk => chunk.all fun folding =>
    Nat.blt 0x7f folding.code && folding.folded.all isNoCapital) = true := by
  decide +kernel

/-- The runs map a capital to its small letter and leave that as it is. -/
theorem shifted_capitals : ∀ capital ∈ capitals,
    Text.shifted? foldRuns capital = some (capital + 32) ∧
      Text.shifted? foldRuns (capital + 32) = none := by
  decide +kernel

/-- Folding leaves no capitals. -/
theorem not_mem_capitals_of_mem_fold {code folded : Nat} (h : folded ∈ fold code) :
    folded ∉ capitals := by
  intro hcapital
  unfold fold at h
  split at h
  · -- The letters of a syllable lie far beyond ASCII.
    have hascii : ∀ capital ∈ capitals, capital < 0x80 := by decide
    have hlow := hascii folded hcapital
    simp only [foldSyllable, List.mem_append, List.mem_cons, List.not_mem_nil, or_false] at h
    rcases h with (h | h) | h
    · omega
    · omega
    · split at h
      · simp at h
      · simp only [List.mem_cons, List.not_mem_nil, or_false] at h
        omega
  · split at h
    · rename_i image himage
      obtain rfl := List.mem_singleton.1 h
      exact not_mem_images foldRuns_capitals capitals_pos himage hcapital
    · rename_i hnone
      split at h
      · rename_i image himage
        obtain rfl := List.mem_singleton.1 h
        obtain ⟨pairs, hpairs, hfound⟩ := List.exists_of_findSome?_eq_some himage
        have hchecked := List.all_eq_true.1 (List.all_eq_true.1 foldPairs_letters pairs hpairs)
          (code, folded) (mem_pairsIn_of_pairedWith? hfound)
        exact not_mem_capitals (Bool.and_eq_true_iff.1 hchecked).2 hcapital
      · split at h
        · rename_i folding hfolding
          obtain ⟨chunk, hchunk, hfound⟩ := List.exists_of_findSome?_eq_some hfolding
          have hchecked := List.all_eq_true.1 (List.all_eq_true.1 foldTexts_letters chunk hchunk)
            folding (List.mem_of_find?_eq_some hfound)
          have hfolded := List.all_eq_true.1 (Bool.and_eq_true_iff.1 hchecked).2 folded h
          exact not_mem_capitals hfolded hcapital
        · -- A capital has a folded form of its own.
          obtain rfl := List.mem_singleton.1 h
          rw [(shifted_capitals folded hcapital).1] at hnone
          cases hnone

/-- In ASCII nothing but the runs is folded. -/
theorem fold_of_ascii {code : Nat} (hascii : code < 0x80) :
    fold code = [(Text.shifted? foldRuns code).getD code] := by
  have hpairs : foldPairs.findSome? (pairedWith? code) = none := by
    rw [List.findSome?_eq_none_iff]
    intro pairs hpairs
    rw [Option.eq_none_iff_forall_ne_some]
    intro folded hfound
    have hchecked := List.all_eq_true.1 (List.all_eq_true.1 foldPairs_letters pairs hpairs)
      (code, folded) (mem_pairsIn_of_pairedWith? hfound)
    rw [Bool.and_eq_true, Nat.blt_eq] at hchecked
    omega
  have htexts : foldTexts.findSome? (fun chunk => chunk.find? (·.code == code)) = none := by
    rw [List.findSome?_eq_none_iff]
    intro chunk hchunk
    rw [List.find?_eq_none]
    intro folding hfolding hcode
    have hchecked := List.all_eq_true.1 (List.all_eq_true.1 foldTexts_letters chunk hchunk)
      folding hfolding
    rw [Bool.and_eq_true, Nat.blt_eq] at hchecked
    rw [beq_iff_eq] at hcode
    omega
  unfold fold
  rw [if_neg (by omega), hpairs, htexts]
  cases Text.shifted? foldRuns code <;> rfl

theorem fold_percent : fold 0x25 = [0x25] := by
  rw [fold_of_ascii (by decide)]
  rfl

/-! ## Section 3: Composing -/

/-- Nothing is composed with a percent sign. -/
theorem compositions_percent :
    [compositions0, compositions1, compositions2, compositions3, compositions4, compositions5,
      compositions6, compositions7].all (fun chunk => chunk.all fun entry =>
        entry.1 != 0x25 && entry.2.1 != 0x25) = true := by
  decide +kernel

theorem composePair?_percent {first second : Nat} (h : first = 0x25 ∨ second = 0x25) :
    composePair? first second = none := by
  have hhangul : composeHangul? first second = none := by
    unfold composeHangul?
    rw [if_neg (by omega), if_neg (by omega)]
  unfold composePair?
  rw [hhangul]
  dsimp only
  rw [Option.map_eq_none_iff, List.findSome?_eq_none_iff]
  intro chunk hchunk
  rw [List.find?_eq_none]
  intro entry hentry hmatch
  have hchecked := List.all_eq_true.1 (List.all_eq_true.1 compositions_percent chunk hchunk) entry
    hentry
  simp only [Bool.and_eq_true, beq_iff_eq, bne_iff_ne, ne_eq] at hmatch hchecked
  omega

theorem percent_mem_composeAfter {letter : Nat} {passed rest : List Nat}
    (h : 0x25 = letter ∨ 0x25 ∈ passed ∨ 0x25 ∈ rest) :
    0x25 ∈ composeAfter letter passed rest := by
  induction rest generalizing letter passed with
  | nil =>
    rw [composeAfter, List.mem_cons, List.mem_reverse]
    simpa using h
  | cons code rest ih =>
    rw [List.mem_cons] at h
    rcases composeAfter_cons letter passed code rest with ⟨joined, hjoined, hstep⟩ | hstep | hstep
    · -- Neither of the two that were composed is a percent sign.
      have hneither : ¬ (letter = 0x25 ∨ code = 0x25) := by
        intro hpercent
        rw [composePair?_percent hpercent] at hjoined
        cases hjoined
      rw [not_or] at hneither
      rw [hstep]
      refine ih (.inr ?_)
      rcases h with h | h | h | h
      · exact absurd h.symm hneither.1
      · exact .inl h
      · exact absurd h.symm hneither.2
      · exact .inr h
    · rw [hstep, List.mem_append, List.mem_cons, List.mem_reverse]
      rcases h with h | h | h | h
      · exact .inl (.inl h)
      · exact .inl (.inr h)
      · exact .inr (ih (.inl h))
      · exact .inr (ih (.inr (.inr h)))
    · rw [hstep]
      refine ih ?_
      rw [List.mem_cons]
      rcases h with h | h | h | h
      · exact .inl h
      · exact .inr (.inl (.inr h))
      · exact .inr (.inl (.inl h))
      · exact .inr (.inr h)

theorem percent_mem_compose {text : List Nat} (h : 0x25 ∈ text) : 0x25 ∈ compose text := by
  induction text with
  | nil => cases h
  | cons code rest ih =>
    rw [compose]
    split
    · exact percent_mem_composeAfter (by simpa using h)
    · rw [List.mem_cons] at h ⊢
      exact h.imp_right ih

/-! ## Section 4: Labels -/

variable {label encoded : List Char} {prepared : List Nat} {c : Char}

theorem not_mem_capitals_of_prepare? (h : prepare? label = some prepared) :
    ∀ capital ∈ capitals, capital ∉ prepared := by
  intro capital hcapital hmem
  have hascii : ∀ capital ∈ capitals, capital < 0x80 := by decide
  rw [prepared_eq h] at hmem
  have hfolded := mem_orderMarks.1 (mem_of_mem_compose hmem (hascii capital hcapital))
  obtain ⟨c, -, hfold⟩ := List.mem_flatMap.1 hfolded
  exact not_mem_capitals_of_mem_fold hfold hcapital

theorem percent_mem_prepare? (h : prepare? label = some prepared) (hmem : '%' ∈ label) :
    0x25 ∈ prepared := by
  rw [prepared_eq h]
  refine percent_mem_compose (mem_orderMarks.2 (List.mem_flatMap.2 ⟨'%', hmem, ?_⟩))
  show 0x25 ∈ fold 0x25
  rw [fold_percent]
  exact List.mem_singleton_self _

/-- What is not ASCII is put into lower case with all that stands around it. -/
theorem isLowered_of_not_isAscii (h : labelToAscii? label = some encoded)
    (hbeyond : isAscii label = false) : ∀ c ∈ encoded, Text.IsLowered c := by
  have hcode {prepared : List Nat} {code : Nat} (hprepared : prepare? label = some prepared)
      (hmem : code ∈ prepared) (hascii : code < 0x80) : Text.IsLowered (Char.ofNat code) := by
    refine (Text.isLowered_iff_of_ascii ?_).2 (isUpper_ofNat fun hcapital =>
      not_mem_capitals_of_prepare? hprepared code hcapital hmem)
    by_cases hzero : (Char.ofNat code).toNat = 0
    · omega
    · rwa [eq_of_toNat_ofNat hzero]
  intro c hc
  rcases (labelToAscii?_cases h).2 with ⟨hascii, -⟩ | ⟨-, prepared, hprepared, ⟨hall, rfl⟩ | rfl⟩
  · rw [hbeyond] at hascii
    cases hascii
  · obtain ⟨code, hmem, rfl⟩ := List.mem_map.1 hc
    exact hcode hprepared hmem (of_decide_eq_true (List.all_eq_true.1 hall code hmem))
  · rcases List.mem_append.1 hc with hc | hc
    · have hall : ∀ c ∈ marker, Text.IsLowered c := by decide
      exact hall c hc
    · rcases Punycode.mem_encode hc with ⟨code, hmem, hascii, rfl⟩ | rfl | hdigit
      · exact hcode hprepared hmem hascii
      · decide
      · -- A letter in lower case and a digit are no capitals.
        rw [Punycode.IsDigit, Text.isLower_iff, Char.isDigit_iff_toNat] at hdigit
        have hnine : '9'.toNat = 0x39 := rfl
        rw [Text.isLowered_iff_of_ascii (by omega), ← Bool.not_eq_true, Text.isUpper_iff]
        omega

theorem not_isUpper_labelToAscii? (h : labelToAscii? label = some encoded)
    (hlabel : ∀ c ∈ label, c.isUpper = false) : ∀ c ∈ encoded, c.isUpper = false := by
  intro c hc
  cases hascii : isAscii label with
  | false => exact (isLowered_of_not_isAscii h hascii c hc).not_isUpper
  | true =>
    rw [labelToAscii?, if_pos hascii] at h
    obtain ⟨rfl, -⟩ := eq_of_fitting? h
    exact hlabel c hc

theorem percent_mem_labelToAscii? (h : labelToAscii? label = some encoded) (hmem : '%' ∈ label) :
    '%' ∈ encoded := by
  rcases (labelToAscii?_cases h).2 with ⟨-, rfl⟩ | ⟨-, prepared, hprepared, ⟨-, rfl⟩ | rfl⟩
  · exact hmem
  · exact List.mem_map_of_mem (percent_mem_prepare? hprepared hmem)
  · exact List.mem_append_right _
      (Punycode.mem_encode_of_mem (percent_mem_prepare? hprepared hmem) (by decide))

/-! ## Section 5: Names -/

variable {name : List Char}

theorem not_isUpper_toAscii? (h : toAscii? name = some encoded)
    (hname : ∀ c ∈ name, c.isUpper = false) : ∀ c ∈ encoded, c.isUpper = false := by
  intro c hc
  rcases mem_toAscii? h hc with rfl | ⟨label, hlabel, form, hform, hc⟩
  · decide
  · refine not_isUpper_labelToAscii? hform (fun d hd => ?_) c hc
    rcases mem_of_mem_labels hlabel hd with rfl | hd
    · decide
    · exact hname d hd

theorem percent_mem_toAscii? (h : toAscii? name = some encoded) (hmem : '%' ∈ name) :
    '%' ∈ encoded := by
  have hmapped : '%' ∈ name.map fun c => if isLabelDot c then '.' else c :=
    List.mem_map.2 ⟨'%', hmem, rfl⟩
  rw [← Text.joinPieces_pieces '.' (name.map _)] at hmapped
  rcases Text.mem_joinPieces hmapped with hdot | ⟨label, hlabel, hpercent⟩
  · exact absurd hdot (by decide)
  · obtain ⟨form, hform, hsub⟩ := exists_form_subset h hlabel (List.ne_nil_of_mem hpercent)
    exact hsub (percent_mem_labelToAscii? hform hpercent)

end DenoBridge.Hostname
