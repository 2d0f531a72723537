import DenoBridge.Text.Glyph

/-! # Lone halves

    Joining the halves of a text that belong together leaves the others, and
    these stand alone: none is followed by the one that would complete it
    (`areLone_joinHalves`).  So joining once is enough
    (`joinHalves_joinHalves`).
-/

namespace DenoBridge.Glyph

variable {text after : List Glyph} {code high low : Nat}

/-- Is it the code of a half? -/
def isHalf (code : Nat) : Bool :=
  isHighHalf code || isLowHalf code

/-- The halves in the text are halves, and none stands right before the one
    that completes it. -/
structure AreLone (text : List Glyph) : Prop where
  halves : ∀ code, .half code ∈ text → isHalf code = true
  joined : joinHalves text = text

theorem joinHalves_char (c : Char) (rest : List Glyph) :
    joinHalves (.char c :: rest) = .char c :: joinHalves rest := by
  rw [joinHalves]
  intro _ _ _ habsurd
  cases habsurd

/-- A half stays where no half follows that completes it. -/
theorem joinHalves_half
    (h : ∀ low after, text = .half low :: after → (isHighHalf high && isLowHalf low) = false) :
    joinHalves (.half high :: text) = .half high :: joinHalves text := by
  cases text with
  | nil => rfl
  | cons glyph rest =>
    cases glyph with
    | char c =>
      rw [joinHalves]
      intro _ _ _ _ habsurd
      cases habsurd
    | half low =>
      rw [joinHalves, h low rest rfl]
      rfl

/-- A half that comes first after joining came first before. -/
theorem exists_cons_of_joinHalves (h : joinHalves text = .half low :: after) :
    ∃ rest, text = .half low :: rest := by
  fun_cases joinHalves text with
  | case1 => cases h
  | case2 high' low' rest hpair =>
    rw [joinHalves, if_pos hpair] at h
    cases h
  | case3 high' low' rest hpair =>
    rw [joinHalves, if_neg hpair] at h
    obtain ⟨hfirst, -⟩ := List.cons.inj h
    exact ⟨_, by rw [hfirst]⟩
  | case4 glyph rest hother =>
    have hjoined : joinHalves (glyph :: rest) = glyph :: joinHalves rest := by
      rw [joinHalves]
      exact hother
    rw [hjoined] at h
    obtain ⟨rfl, -⟩ := List.cons.inj h
    exact ⟨rest, rfl⟩

theorem joinHalves_joinHalves (text : List Glyph) :
    joinHalves (joinHalves text) = joinHalves text := by
  fun_induction joinHalves text with
  | case1 => rfl
  | case2 high low rest hpair ih => rw [joinHalves_char, ih]
  | case3 high low rest hpair ih =>
    rw [joinHalves_half, ih]
    intro low' after hjoined
    obtain ⟨rest', hrest⟩ := exists_cons_of_joinHalves hjoined
    obtain ⟨hlow, -⟩ := List.cons.inj hrest
    rw [← Glyph.half.inj hlow]
    exact eq_false_of_ne_true hpair
  | case4 glyph rest hother ih =>
    cases glyph with
    | char c => rw [joinHalves_char, ih]
    | half high =>
      rw [joinHalves_half, ih]
      intro low after hjoined
      obtain ⟨rest', rfl⟩ := exists_cons_of_joinHalves hjoined
      exact absurd rfl (hother high low rest' rfl)

/-- The halves that are left were there before. -/
theorem half_mem_of_joinHalves (h : .half code ∈ joinHalves text) : .half code ∈ text := by
  fun_induction joinHalves text with
  | case1 => exact h
  | case2 high low rest hpair ih =>
    have hrest := (List.mem_cons.1 h).resolve_left fun habsurd => nomatch habsurd
    exact List.mem_cons_of_mem _ (List.mem_cons_of_mem _ (ih hrest))
  | case3 high low rest hpair ih =>
    rcases List.mem_cons.1 h with hfirst | hrest
    · rw [hfirst]
      exact List.mem_cons_self
    · exact List.mem_cons_of_mem _ (ih hrest)
  | case4 glyph rest hother ih =>
    rcases List.mem_cons.1 h with hfirst | hrest
    · rw [hfirst]
      exact List.mem_cons_self
    · exact List.mem_cons_of_mem _ (ih hrest)

/-- The halves that joining leaves stand alone. -/
theorem areLone_joinHalves (h : ∀ code, .half code ∈ text → isHalf code = true) :
    AreLone (joinHalves text) where
  halves code hcode := h code (half_mem_of_joinHalves hcode)
  joined := joinHalves_joinHalves text

/-- A string holds no halves. -/
theorem areLone_ofString (text : String) : AreLone (ofString text) where
  halves code hcode := by
    obtain ⟨c, -, habsurd⟩ := List.mem_map.1 hcode
    cases habsurd
  joined := joinHalves_map_char text.toList

end DenoBridge.Glyph
