import DenoBridge.Proofs.Hostname.Marks
import DenoBridge.Proofs.Results

/-! # The ASCII form of a host name holds no slash

    A label that can be prepared gets a slash only from a slash or an
    impostor; Punycode writes letters, digits and hyphens beside what it finds
    in the label.  So the ASCII form of a name with neither slashes nor
    impostors is free of slashes (`slash_not_mem_toAscii?`), and no name that
    has an ASCII form loses all its characters (`toAscii?_ne_nil`).
-/

namespace DenoBridge.Hostname

theorem eq_slash_of_ofNat {code : Nat} (h : Char.ofNat code = '/') : code = 0x2f := by
  have hcode : (Char.ofNat code).toNat = 0x2f := by rw [h]; rfl
  rw [eq_of_toNat_ofNat (by omega)] at hcode
  exact hcode

/-! ## Section 1: Punycode -/

namespace Punycode

/-- A digit of Punycode: a letter in lower case or a decimal digit. -/
def IsDigit (c : Char) : Prop :=
  c.isLower = true ∨ c.isDigit = true

theorem isDigit_digit : ∀ value < 36, IsDigit (digit value) := by
  unfold IsDigit
  decide

theorem isDigit_of_mem_digitsFrom {bias position number : Nat} {c : Char}
    (h : c ∈ digitsFrom bias position number) : IsDigit c := by
  fun_induction digitsFrom bias position number with
  | case1 position number least hlast =>
    obtain rfl := List.mem_singleton.1 h
    have hle := threshold_le bias position
    exact isDigit_digit number (by omega)
  | case2 position number least hmore ih =>
    rcases List.mem_cons.1 h with rfl | h
    · have hle := threshold_le bias position
      have hmod : (number - least) % (36 - least) < 36 - least := Nat.mod_lt _ (by omega)
      exact isDigit_digit _ (by omega)
    · exact ih h

theorem mem_visit (basic : Nat) {state : Progress} {code : Nat} {c : Char}
    (h : c ∈ (visit basic state code).output) : c ∈ state.output ∨ IsDigit c := by
  unfold visit at h
  split at h
  · exact .inl h
  · split at h
    · exact (List.mem_append.1 h).imp_right isDigit_of_mem_digitsFrom
    · exact .inl h

theorem mem_foldl_visit (basic : Nat) (label : List Nat) {state : Progress} {c : Char}
    (h : c ∈ (label.foldl (visit basic) state).output) : c ∈ state.output ∨ IsDigit c := by
  induction label generalizing state with
  | nil => exact .inl h
  | cons code rest ih =>
    rcases ih h with hvisit | hdigit
    · exact mem_visit basic hvisit
    · exact .inr hdigit

theorem mem_insertAll (label : List Nat) (basic code : Nat) {state : Progress} {c : Char}
    (h : c ∈ (insertAll label basic state code).output) : c ∈ state.output ∨ IsDigit c := by
  let start : Progress :=
    { state with
      code := code
      distance := state.distance + (code - state.code) * (state.done + 1) }
  have hfold : c ∈ start.output ∨ IsDigit c := mem_foldl_visit basic label h
  exact hfold

theorem mem_insertions (label : List Nat) (basic : Nat) (codes : List Nat) {state : Progress}
    {c : Char} (h : c ∈ (codes.foldl (insertAll label basic) state).output) :
    c ∈ state.output ∨ IsDigit c := by
  induction codes generalizing state with
  | nil => exact .inl h
  | cons code rest ih =>
    rcases ih h with hinserted | hdigit
    · exact mem_insertAll label basic code hinserted
    · exact .inr hdigit

/-- Punycode writes the ASCII characters of a label, a hyphen and digits. -/
theorem mem_encode {label : List Nat} {c : Char} (h : c ∈ encode label) :
    (∃ code ∈ label, code < 0x80 ∧ c = Char.ofNat code) ∨ c = '-' ∨ IsDigit c := by
  have hbasic (h : c ∈ (label.filter (· < 0x80)).map Char.ofNat) :
      ∃ code ∈ label, code < 0x80 ∧ c = Char.ofNat code := by
    obtain ⟨code, hcode, rfl⟩ := List.mem_map.1 h
    obtain ⟨hlabel, hascii⟩ := List.mem_filter.1 hcode
    exact ⟨code, hlabel, by simpa using hascii, rfl⟩
  have hinserted (h : c ∈ ((insertions label).foldl
      (insertAll label ((label.filter (· < 0x80)).map Char.ofNat).length)
      ⟨0x80, 0, 72, ((label.filter (· < 0x80)).map Char.ofNat).length, []⟩).output) :
      IsDigit c :=
    (mem_insertions label _ _ h).resolve_left (by simp)
  unfold encode at h
  dsimp only at h
  split at h
  · exact .inr (.inr (hinserted h))
  · rcases List.mem_append.1 h with h | h
    · exact .inl (hbasic h)
    · exact .inr ((List.mem_cons.1 h).imp_right hinserted)

/-- The ASCII characters of a label are kept. -/
theorem mem_encode_of_mem {label : List Nat} {code : Nat} (h : code ∈ label)
    (hascii : code < 0x80) : Char.ofNat code ∈ encode label := by
  have hbasic : Char.ofNat code ∈ (label.filter (· < 0x80)).map Char.ofNat :=
    List.mem_map_of_mem (List.mem_filter.2 ⟨h, by simpa using hascii⟩)
  unfold encode
  dsimp only
  rw [if_neg (by
    rw [List.isEmpty_iff]
    exact List.ne_nil_of_mem hbasic)]
  exact List.mem_append_left _ hbasic

theorem slash_not_mem_encode {label : List Nat} (h : 0x2f ∉ label) : '/' ∉ encode label := by
  intro hmem
  rcases mem_encode hmem with ⟨code, hcode, -, heq⟩ | heq | hdigit
  · obtain rfl := eq_slash_of_ofNat heq.symm
    exact h hcode
  · exact absurd heq (by decide)
  · exact absurd hdigit (by unfold IsDigit; decide)

end Punycode

/-! ## Section 2: Labels -/

variable {label encoded : List Char} {prepared : List Nat} {c : Char}

theorem prepared_eq (h : prepare? label = some prepared) :
    prepared = compose (orderMarks (label.flatMap fun c => fold c.toNat)) := by
  unfold prepare? at h
  dsimp only at h
  split at h
  · cases h
  · exact (Option.some.inj h).symm

theorem slash_not_mem_prepare? (h : prepare? label = some prepared)
    (hlabel : ∀ c ∈ label, IsHarmless c) : 0x2f ∉ prepared := by
  rw [prepared_eq h]
  intro hmem
  -- Composing makes nothing in ASCII, so the slash came out of the folding.
  have hfolded := mem_orderMarks.1 (mem_of_mem_compose hmem (by decide))
  obtain ⟨c, hc, hfold⟩ := List.mem_flatMap.1 hfolded
  rcases mark_mem_fold slash_mem_marks hfold with hslash | himpostor
  · exact (hlabel c hc).1 (Char.toNat_inj.1 hslash)
  · exact (hlabel c hc).2 himpostor

theorem eq_of_fitting? {fitted : List Char} (h : fitting? label = some fitted) :
    fitted = label ∧ label ≠ [] := by
  unfold fitting? at h
  split at h
  · rename_i hlength
    exact ⟨(Option.some.inj h).symm, List.length_pos_iff.1 hlength.1⟩
  · simp at h

/-- The ASCII form of a label is not empty.  It is the label itself, its
    prepared form if that is ASCII, or the Punycode of that. -/
theorem labelToAscii?_cases (h : labelToAscii? label = some encoded) : encoded ≠ [] ∧
    (isAscii label = true ∧ encoded = label ∨
      isAscii label = false ∧ ∃ prepared, prepare? label = some prepared ∧
        (prepared.all isAsciiCode = true ∧ encoded = prepared.map Char.ofNat ∨
          encoded = marker ++ Punycode.encode prepared)) := by
  unfold labelToAscii? at h
  split at h
  · rename_i hascii
    obtain ⟨rfl, hne⟩ := eq_of_fitting? h
    exact ⟨hne, .inl ⟨hascii, rfl⟩⟩
  · rename_i hbeyond
    rw [Bool.not_eq_true] at hbeyond
    obtain ⟨prepared, hprepared, hform⟩ := Option.bind_eq_some_iff.1 h
    split at hform
    · rename_i hall
      obtain ⟨rfl, hne⟩ := eq_of_fitting? hform
      exact ⟨hne, .inr ⟨hbeyond, prepared, hprepared, .inl ⟨hall, rfl⟩⟩⟩
    · split at hform
      · cases hform
      · obtain ⟨rfl, hne⟩ := eq_of_fitting? hform
        exact ⟨hne, .inr ⟨hbeyond, prepared, hprepared, .inr rfl⟩⟩

theorem slash_not_mem_labelToAscii? (h : labelToAscii? label = some encoded)
    (hlabel : ∀ c ∈ label, IsHarmless c) : '/' ∉ encoded := by
  intro hmem
  rcases (labelToAscii?_cases h).2 with ⟨-, rfl⟩ | ⟨-, prepared, hprepared, ⟨-, rfl⟩ | rfl⟩
  · exact (hlabel '/' hmem).1 rfl
  · obtain ⟨code, hcode, heq⟩ := List.mem_map.1 hmem
    obtain rfl := eq_slash_of_ofNat heq
    exact slash_not_mem_prepare? hprepared hlabel hcode
  · rcases List.mem_append.1 hmem with hmem | hmem
    · exact absurd hmem (by decide)
    · exact Punycode.slash_not_mem_encode (slash_not_mem_prepare? hprepared hlabel) hmem

/-! ## Section 3: Names -/

variable {name : List Char}

theorem mem_of_mem_labels (hlabel : label ∈ labels name) (hc : c ∈ label) : c = '.' ∨ c ∈ name := by
  obtain ⟨d, hd, rfl⟩ := List.mem_map.1 (Text.mem_of_mem_pieces hlabel hc)
  split
  · exact .inl rfl
  · exact .inr hd

/-- The characters of the ASCII form of a name are dots and those of the forms
    of its labels. -/
theorem mem_toAscii? (h : toAscii? name = some encoded) (hc : c ∈ encoded) :
    c = '.' ∨ ∃ label ∈ labels name, ∃ form, labelToAscii? label = some form ∧ c ∈ form := by
  obtain ⟨forms, hforms, rfl⟩ := Option.map_eq_some_iff.1 h
  rcases List.mem_append.1 hc with hc | hc
  · rcases Text.mem_joinPieces hc with hdot | ⟨form, hform, hc⟩
    · exact .inl (List.mem_singleton.1 hdot)
    · obtain ⟨label, hlabel, heq⟩ := (mem_of_mapM hforms).2 form hform
      refine .inr ⟨label, ?_, form, heq, hc⟩
      split at hlabel
      · exact List.dropLast_subset _ hlabel
      · exact hlabel
  · split at hc
    · exact .inl (List.mem_singleton.1 hc)
    · cases hc

/-- A label that is not empty has a form in that of the name. -/
theorem exists_form_subset (h : toAscii? name = some encoded) (hlabel : label ∈ labels name)
    (hne : label ≠ []) : ∃ form, labelToAscii? label = some form ∧ form ⊆ encoded := by
  obtain ⟨forms, hforms, rfl⟩ := Option.map_eq_some_iff.1 h
  -- The label that is left out at the end of a rooted name is empty.
  obtain ⟨form, hform, heq⟩ := (mem_of_mapM hforms).1 label (by
    split
    · rename_i hrooted
      rw [beq_iff_eq] at hrooted
      obtain ⟨front, hfront⟩ := List.getLast?_eq_some_iff.1 hrooted
      rw [hfront, List.mem_append, List.mem_singleton] at hlabel
      rw [hfront, List.dropLast_concat]
      exact hlabel.resolve_right hne
    · exact hlabel)
  refine ⟨form, heq, fun c hc => List.mem_append_left _ ?_⟩
  exact Text.mem_joinPieces_of_mem hform hc

theorem slash_not_mem_toAscii? (h : toAscii? name = some encoded)
    (hname : ∀ c ∈ name, IsHarmless c) : '/' ∉ encoded := by
  intro hmem
  rcases mem_toAscii? h hmem with hdot | ⟨label, hlabel, form, hform, hslash⟩
  · exact absurd hdot (by decide)
  · refine slash_not_mem_labelToAscii? hform (fun c hc => ?_) hslash
    rcases mem_of_mem_labels hlabel hc with rfl | hc
    · exact ⟨by decide, by decide⟩
    · exact hname c hc

/-- Even a name of dots alone leaves something. -/
theorem toAscii?_ne_nil (h : toAscii? name = some encoded) : encoded ≠ [] := by
  rintro rfl
  obtain ⟨forms, -, hencoded⟩ := Option.map_eq_some_iff.1 h
  have hne : labels name ≠ [] := Text.pieces_ne_nil '.' _
  -- The name is not rooted, so its last label is not empty.
  have hlast : (labels name).getLast hne ≠ [] := by
    intro hnil
    have hrooted : ((labels name).getLast? == some []) = true := by
      rw [List.getLast?_eq_some_getLast hne, hnil]
      rfl
    rw [if_pos hrooted] at hencoded
    simp at hencoded
  obtain ⟨form, hform, hsub⟩ := exists_form_subset h (List.getLast_mem hne) hlast
  exact (labelToAscii?_cases hform).1 (List.subset_nil.1 hsub)

end DenoBridge.Hostname
