import DenoBridge.Proofs.Hostname.Letters

/-! # Host names in other cases

    Host names with the same letters have ASCII forms both or neither.  A
    label that is not ASCII has the same form in every case of its letters; a
    label in ASCII is its own form and keeps them.  So the ASCII form of a
    name is in lower case if these labels are (`isLowered_toAscii?_iff`), and
    it is the same for two names if these labels are the same
    (`exists_toAscii?_of_sameLetters`).
-/

namespace DenoBridge.Hostname

open Text (SameLetters IgnoresCase asciiLower)

variable {label label' encoded name name' : List Char}
  {items items' forms forms' : List (List Char)}

/-! ## Section 1: Labels -/

/-- Folding makes no difference between the two cases of a letter. -/
theorem fold_asciiLower (c : Char) : fold (asciiLower c).toNat = fold c.toNat := by
  rcases Text.asciiLower_cases c with hsame | ⟨hupper, -⟩
  · rw [hsame]
  · have hbounds := Text.isUpper_iff.1 hupper
    obtain ⟨hcapital, hsmall⟩ := shifted_capitals _ (mem_capitals.1 hupper)
    rw [Text.toNat_asciiLower hupper, fold_of_ascii (by omega), fold_of_ascii (by omega),
      hcapital, hsmall]
    rfl

theorem isAscii_of_sameLetters (h : SameLetters label label') : isAscii label' = isAscii label :=
  h.all_eq (Text.ignoresCase_of_ascii (by decide))

theorem prepare?_asciiLower (label : List Char) :
    prepare? (label.map asciiLower) = prepare? label := by
  unfold prepare?
  rw [List.flatMap_map]
  simp only [fold_asciiLower]

theorem labelToAscii?_of_isAscii (h : isAscii label = true) :
    labelToAscii? label = fitting? label :=
  if_pos h

/-- A label beyond ASCII has one form in all cases. -/
theorem labelToAscii?_of_sameLetters (h : SameLetters label label')
    (hbeyond : isAscii label = false) : labelToAscii? label' = labelToAscii? label := by
  have hprepare : prepare? label' = prepare? label := h.eq_of prepare?_asciiLower
  unfold labelToAscii?
  rw [isAscii_of_sameLetters h, hbeyond, hprepare, if_neg (by simp), if_neg (by simp)]

/-- Labels with the same letters both have forms, which are equal unless the
    labels are in ASCII and differ. -/
theorem exists_form_of_sameLetters (h : SameLetters label label')
    (hform : labelToAscii? label = some encoded) :
    ∃ encoded', labelToAscii? label' = some encoded' ∧ encoded'.length = encoded.length ∧
      (encoded' = encoded ↔ isAscii label = true → label' = label) := by
  cases hascii : isAscii label with
  | true =>
    have hascii' := (isAscii_of_sameLetters h).trans hascii
    have hlength : label'.length = label.length := by simpa using (congrArg List.length h).symm
    rw [labelToAscii?_of_isAscii hascii] at hform
    obtain ⟨rfl, -⟩ := eq_of_fitting? hform
    refine ⟨label', ?_, hlength, by simp⟩
    rw [labelToAscii?_of_isAscii hascii']
    unfold fitting? at hform ⊢
    rw [hlength]
    split at hform
    · rename_i hfits
      exact if_pos hfits
    · cases hform
  | false =>
    exact ⟨encoded, (labelToAscii?_of_sameLetters h hascii).trans hform, rfl, by simp⟩

/-! ## Section 2: Lists of labels -/

theorem joinPieces_inj {sep : List Char} (h : forms'.map List.length = forms.map List.length) :
    Text.joinPieces sep forms' = Text.joinPieces sep forms ↔ forms' = forms := by
  refine ⟨fun heq => ?_, congrArg _⟩
  induction forms generalizing forms' with
  | nil => exact List.map_eq_nil_iff.1 h
  | cons form more ih =>
    obtain ⟨form', more', rfl, hform, hmore⟩ := List.map_eq_cons_iff.1 h
    by_cases hnil : more = []
    · subst hnil
      obtain rfl := List.map_eq_nil_iff.1 hmore
      exact congrArg (· :: []) heq
    · have hnil' : more' ≠ [] := by
        rintro rfl
        exact hnil (List.map_eq_nil_iff.1 hmore.symm)
      rw [Text.joinPieces_cons hnil, Text.joinPieces_cons hnil', List.append_assoc,
        List.append_assoc] at heq
      obtain ⟨rfl, hrest⟩ := List.append_inj heq hform
      rw [ih hmore (List.append_cancel_left hrest)]

/-- A form is found for each label in both cases; what may be different are
    the labels in ASCII. -/
theorem exists_forms_of_sameLetters
    (h : items.map (·.map asciiLower) = items'.map (·.map asciiLower))
    (hforms : items.mapM labelToAscii? = some forms) :
    ∃ forms', items'.mapM labelToAscii? = some forms' ∧
      forms'.map List.length = forms.map List.length ∧
      (forms' = forms ↔ items'.filter isAscii = items.filter isAscii) := by
  induction items generalizing items' forms with
  | nil =>
    obtain rfl := List.map_eq_nil_iff.1 h.symm
    obtain rfl : [] = forms := Option.some.inj hforms
    exact ⟨[], rfl, rfl, by simp⟩
  | cons label rest ih =>
    obtain ⟨label', rest', rfl, hlabel, hrest⟩ := List.map_eq_cons_iff.1 h.symm
    rw [List.mapM_cons] at hforms
    obtain ⟨form, hform, hforms⟩ := Option.bind_eq_some_iff.1 hforms
    obtain ⟨more, hmore, hforms⟩ := Option.bind_eq_some_iff.1 hforms
    obtain rfl := Option.some.inj hforms
    obtain ⟨form', hform', hlength, heq⟩ := exists_form_of_sameLetters hlabel.symm hform
    obtain ⟨more', hmore', hlengths, hmoreEq⟩ := ih hrest.symm hmore
    refine ⟨form' :: more', ?_, by rw [List.map_cons, List.map_cons, hlength, hlengths], ?_⟩
    · rw [List.mapM_cons, hform', hmore']
      rfl
    · have hsame : isAscii label' = isAscii label := isAscii_of_sameLetters hlabel.symm
      rw [List.cons.injEq, heq, hmoreEq]
      cases hascii : isAscii label with
      | true => simp [hascii, hsame]
      | false => simp [hascii, hsame]

/-! ## Section 3: Names -/

theorem labels_asciiLower (name : List Char) :
    labels (name.map asciiLower) = (labels name).map (·.map asciiLower) := by
  have hdot : IgnoresCase isLabelDot := Text.ignoresCase_of_ascii (by decide)
  unfold labels
  rw [← Text.pieces_asciiLower (by decide), List.map_map, List.map_map]
  congr 2
  funext c
  have hpoint : asciiLower '.' = '.' := by decide
  simp only [Function.comp_apply, hdot c]
  split
  · exact hpoint.symm
  · rfl

theorem labels_sameLetters (h : SameLetters name name') :
    (labels name).map (·.map asciiLower) = (labels name').map (·.map asciiLower) := by
  rw [← labels_asciiLower, h, labels_asciiLower]

/-- A name is rooted in all cases or in none. -/
theorem getLast?_of_sameLetters
    (h : items.map (·.map asciiLower) = items'.map (·.map asciiLower)) :
    (items'.getLast? == some []) = (items.getLast? == some []) := by
  have hlast (items : List (List Char)) :
      (items.map (·.map asciiLower)).getLast? = some [] ↔ items.getLast? = some [] := by
    simp [List.getLast?_map]
  rw [Bool.eq_iff_iff, beq_iff_eq, beq_iff_eq, ← hlast items', ← h, hlast]

theorem filter_isAscii_of_rooted (h : items.getLast? = some []) :
    items.filter isAscii = items.dropLast.filter isAscii ++ [[]] := by
  obtain ⟨front, rfl⟩ := List.getLast?_eq_some_iff.1 h
  rw [List.filter_append, List.dropLast_concat]
  rfl

/-- Names with the same letters both have ASCII forms, which are equal if the
    labels in ASCII are. -/
theorem exists_toAscii?_of_sameLetters (h : SameLetters name name')
    (hform : toAscii? name = some encoded) :
    ∃ encoded', toAscii? name' = some encoded' ∧
      (encoded' = encoded ↔ (labels name').filter isAscii = (labels name).filter isAscii) := by
  have hlabels := labels_sameLetters h
  have hrooted := getLast?_of_sameLetters hlabels
  unfold toAscii? at hform ⊢
  dsimp only at hform ⊢
  rw [hrooted]
  obtain ⟨forms, hforms, rfl⟩ := Option.map_eq_some_iff.1 hform
  -- The last label of a rooted name has no form, but as it is empty it is one in ASCII.
  cases hroot : (labels name).getLast? == some [] with
  | true =>
    have hdropped : (labels name).dropLast.map (·.map asciiLower) =
        (labels name').dropLast.map (·.map asciiLower) := by
      rw [List.map_dropLast, hlabels, List.map_dropLast]
    rw [hroot, if_pos rfl] at hforms
    obtain ⟨forms', hforms', hlengths, heq⟩ := exists_forms_of_sameLetters hdropped hforms
    rw [if_pos rfl, if_pos rfl, hforms']
    refine ⟨_, rfl, ?_⟩
    rw [filter_isAscii_of_rooted (beq_iff_eq.1 (hrooted.trans hroot)),
      filter_isAscii_of_rooted (beq_iff_eq.1 hroot), List.append_cancel_right_eq,
      List.append_cancel_right_eq, joinPieces_inj hlengths, heq]
  | false =>
    rw [hroot, if_neg (by simp)] at hforms
    obtain ⟨forms', hforms', hlengths, heq⟩ := exists_forms_of_sameLetters hlabels hforms
    rw [if_neg (by simp), if_neg (by simp), hforms']
    refine ⟨_, rfl, ?_⟩
    rw [List.append_cancel_right_eq, joinPieces_inj hlengths, heq]

/-- The ASCII form of a name is in lower case if its labels in ASCII are. -/
theorem isLowered_toAscii?_iff (h : toAscii? name = some encoded) :
    (∀ c ∈ encoded, Text.IsLowered c) ↔
      ∀ label ∈ (labels name).filter isAscii, ∀ c ∈ label, Text.IsLowered c := by
  constructor
  · intro hencoded label hlabel c hc
    obtain ⟨hmem, hascii⟩ := List.mem_filter.1 hlabel
    obtain ⟨form, hform, hsub⟩ := exists_form_subset h hmem (List.ne_nil_of_mem hc)
    rw [labelToAscii?_of_isAscii hascii] at hform
    obtain ⟨rfl, -⟩ := eq_of_fitting? hform
    exact hencoded c (hsub hc)
  · intro hlabels c hc
    rcases mem_toAscii? h hc with rfl | ⟨label, hlabel, form, hform, hc⟩
    · decide
    · cases hascii : isAscii label with
      | true =>
        rw [labelToAscii?_of_isAscii hascii] at hform
        obtain ⟨rfl, -⟩ := eq_of_fitting? hform
        exact hlabels form (List.mem_filter.2 ⟨hlabel, hascii⟩) c hc
      | false => exact isLowered_of_not_isAscii hform hascii c hc

end DenoBridge.Hostname
