import DenoBridge.Proofs.Text.LowerCase

/-! # ASCII characters

    What holds of the first 128 code points holds of every ASCII character
    (`forall_ascii`), so that facts about classes of characters are checked
    code by code; letters are told by their bounds as well (`isUpper_iff`,
    `isLower_iff`).  In ASCII, lower case is core's (`toLower_eq`) and each
    character is lowered by itself (`lower_eq_map`).
-/

namespace DenoBridge.Text

variable {c : Char}

/-! ## Section 1: Characters one by one -/

/-- Only the characters of the text are looked at, even where there is a way
    to look at all characters. -/
instance (priority := high) decidableForallMem (text : List Char) (P : Char → Prop)
    [DecidablePred P] : Decidable (∀ c ∈ text, P c) :=
  List.decidableBAll P text

theorem forall_ascii {P : Char → Prop} (h : ∀ code < 0x80, P (Char.ofNat code))
    (hascii : c.toNat < 0x80) : P c := by
  have hcode := h c.toNat hascii
  rwa [Char.ofNat_toNat] at hcode

/-! ## Section 2: Classes by their bounds -/

theorem isUpper_iff : c.isUpper = true ↔ 0x41 ≤ c.toNat ∧ c.toNat ≤ 0x5a := by
  show decide (c.val ≥ 'A'.val ∧ c.val ≤ 'Z'.val) = true ↔ _
  rw [decide_eq_true_eq]
  exact Iff.rfl

theorem isLower_iff : c.isLower = true ↔ 0x61 ≤ c.toNat ∧ c.toNat ≤ 0x7a := by
  show (decide (c.val ≥ 'a'.val) && decide (c.val ≤ 'z'.val)) = true ↔ _
  rw [Bool.and_eq_true, decide_eq_true_eq, decide_eq_true_eq]
  exact Iff.rfl

theorem toNat_lt_of_isAlphanum (h : c.isAlphanum = true) : c.toNat < 0x80 := by
  change ((c.isUpper || c.isLower) || c.isDigit) = true at h
  rw [Bool.or_eq_true, Bool.or_eq_true, isUpper_iff, isLower_iff, Char.isDigit_iff_toNat] at h
  have hnine : '9'.toNat = 0x39 := rfl
  omega

/-! ## Section 3: Lower case -/

/-- Beyond ASCII there is nothing to lower. -/
theorem asciiLower_of_le (h : 0x80 ≤ c.toNat) : asciiLower c = c := by
  unfold asciiLower
  rw [if_neg]
  rintro ⟨-, hle⟩
  have hz : c.toNat ≤ 90 := hle
  omega

theorem toLower_eq (c : Char) : c.toLower = asciiLower c := by
  by_cases hascii : c.toNat < 0x80
  · refine forall_ascii (P := fun c => c.toLower = asciiLower c) ?_ hascii
    decide
  · rw [asciiLower_of_le (by omega)]
    refine dif_neg ?_
    rintro ⟨-, hle⟩
    have hz : c.toNat ≤ 90 := hle
    omega

theorem lowerAfter_cons (hascii : c.toNat < 0x80) (before rest : List Char) :
    lowerAfter before (c :: rest) = asciiLower c :: lowerAfter (c :: before) rest := by
  have hruled : c ≠ 'Σ' ∧ c ≠ 'İ' := by
    refine forall_ascii (P := fun c => c ≠ 'Σ' ∧ c ≠ 'İ') ?_ hascii
    decide
  rw [lowerAfter, lowerChar, if_pos hascii]
  · exact hruled.1
  · exact hruled.2

/-- In ASCII every character is lowered by itself. -/
theorem lower_eq_map {text : List Char} (h : ∀ c ∈ text, c.toNat < 0x80) :
    lower text = text.map asciiLower := by
  have hafter (before : List Char) : lowerAfter before text = text.map asciiLower := by
    induction text generalizing before with
    | nil => rfl
    | cons c rest ih =>
      rw [lowerAfter_cons (h c List.mem_cons_self), ih fun d hd => h d (List.mem_cons_of_mem _ hd)]
      rfl
  exact hafter []

theorem lower_of_ascii {text : List Char} (h : ∀ c ∈ text, c.toNat < 0x80 ∧ c.isUpper = false) :
    lower text = text := by
  rw [lower_eq_map fun c hc => (h c hc).1]
  refine (List.map_congr_left fun c hc => ?_).trans (List.map_id _)
  have hsame : ∀ code < 0x80, (Char.ofNat code).isUpper = false →
      asciiLower (Char.ofNat code) = Char.ofNat code := by decide
  obtain ⟨hascii, hupper⟩ := h c hc
  exact forall_ascii (P := fun c => c.isUpper = false → asciiLower c = c) hsame hascii hupper

end DenoBridge.Text
