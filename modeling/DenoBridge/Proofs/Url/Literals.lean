import DenoBridge.Proofs.Text.Letters
import DenoBridge.Proofs.Url.Faults

/-! # Addresses in brackets in other cases

    The case of hexadecimal digits does not count in an address, and that of a
    zone is not looked at (`isIPv6_asciiLower`).  Only the `v` of an address of
    a later version has to be small: in other cases an address is one still,
    unless it begins with a capital `V` (`isLiteral_iff_of_sameLetters`).
-/

namespace DenoBridge.Url

open Text (SameLetters IgnoresCase asciiLower)

variable {text text' first : List Char} {groups : List (List Char)} {place gap : Nat} {c : Char}

/-! ## Section 1: Numbers and groups -/

theorem isOctet_asciiLower (text : List Char) : isOctet (text.map asciiLower) = isOctet text := by
  have hdigit : IgnoresCase Char.isDigit := Text.ignoresCase_of_ascii (by decide)
  cases hall : text.all Char.isDigit with
  | true => rw [Text.asciiLower_of_isDigit hall]
  | false =>
    have hall' := (Text.all_asciiLower hdigit text).trans hall
    simp only [isOctet, hall, hall', Bool.and_false, Bool.false_and]

theorem isIPv4_asciiLower (text : List Char) : isIPv4 (text.map asciiLower) = isIPv4 text := by
  unfold isIPv4
  dsimp only
  rw [Text.pieces_asciiLower (by decide), List.length_map, List.all_map]
  simp only [Function.comp_def, isOctet_asciiLower]

theorem isGroup_asciiLower (text : List Char) : isGroup (text.map asciiLower) = isGroup text := by
  have hdigit : IgnoresCase fun c => (Digits.hexDigit? c).isSome :=
    Text.ignoresCase_of_ascii (by decide)
  unfold isGroup
  rw [Text.all_asciiLower hdigit, List.length_map, List.isEmpty_map]

theorem all_isGroup_asciiLower (groups : List (List Char)) :
    (groups.map (·.map asciiLower)).all isGroup = groups.all isGroup := by
  rw [List.all_map]
  simp only [Function.comp_def, isGroup_asciiLower]

/-! ## Section 2: IPv6 -/

theorem expandIPv4?_asciiLower (groups : List (List Char)) :
    expandIPv4? (groups.map (·.map asciiLower)) =
      (expandIPv4? groups).map (·.map (·.map asciiLower)) := by
  unfold expandIPv4?
  rw [List.getLast?_map]
  cases groups.getLast? with
  | none => rfl
  | some last =>
    dsimp only [Option.map_some]
    rw [Text.contains_asciiLower (by decide), isIPv4_asciiLower]
    split_ifs
    · rfl
    · rw [Option.map_some, List.map_append, List.map_dropLast]
      rfl
    · rfl

theorem gapsFrom_asciiLower (place : Nat) (groups : List (List Char)) :
    gapsFrom place (groups.map (·.map asciiLower)) = gapsFrom place groups := by
  fun_induction gapsFrom place groups with
  | case1 place group next more hempty ih =>
    rw [List.map_cons, List.map_cons, gapsFrom, List.isEmpty_map, if_pos hempty, ← ih]
    rfl
  | case2 place group next more hfull ih =>
    rw [List.map_cons, List.map_cons, gapsFrom, List.isEmpty_map, if_neg hfull, ← ih]
    rfl
  | case3 place groups hshort =>
    unfold gapsFrom
    split
    · rename_i heq
      obtain ⟨group, rest, rfl, -, hrest⟩ := List.map_eq_cons_iff.1 heq
      obtain ⟨next, more, rfl, -, -⟩ := List.map_eq_cons_iff.1 hrest
      exact absurd rfl (hshort group next more)
    · rfl

theorem isGappedAddress_asciiLower (before after : List (List Char)) :
    isGappedAddress (before.map (·.map asciiLower)) (after.map (·.map asciiLower)) =
      isGappedAddress before after := by
  have hempty (groups : List (List Char)) :
      (groups.map (·.map asciiLower) == [[]]) = (groups == [[]]) := by
    rw [Bool.eq_iff_iff, beq_iff_eq, beq_iff_eq]
    simp [List.map_eq_cons_iff]
  have hside (groups : List (List Char)) :
      (if groups == [[]] then [] else groups.map (·.map asciiLower)) =
        (if groups == [[]] then [] else groups).map (·.map asciiLower) := by
    split <;> rfl
  unfold isGappedAddress
  rw [hempty, hempty, hside, hside]
  simp only [List.length_map, all_isGroup_asciiLower]

theorem isIPv6Groups_asciiLower (text : List Char) :
    isIPv6Groups (text.map asciiLower) = isIPv6Groups text := by
  unfold isIPv6Groups
  dsimp only
  rw [Text.pieces_asciiLower (by decide), expandIPv4?_asciiLower, List.length_map]
  cases expandIPv4? (Text.pieces ':' text) with
  | none => rfl
  | some groups =>
    dsimp only [Option.map_some]
    rw [List.length_map, ← List.map_tail, gapsFrom_asciiLower]
    split_ifs
    · rfl
    · cases gapsFrom 1 groups.tail with
      | nil => simp only [isFullAddress, List.length_map, all_isGroup_asciiLower]
      | cons gap more =>
        cases more with
        | nil =>
          dsimp only
          rw [← List.map_take, ← List.map_drop, isGappedAddress_asciiLower]
        | cons other more => rfl

theorem isIPv6_asciiLower (text : List Char) : isIPv6 (text.map asciiLower) = isIPv6 text := by
  unfold isIPv6
  rw [Text.cutAt_asciiLower (Text.ignoresCase_beq (by decide))]
  cases hcut : Text.cutAt (· == '%') text with
  | mk groups zone =>
    cases zone with
    | none => exact isIPv6Groups_asciiLower groups
    | some zone =>
      dsimp only [Option.map_some]
      rw [List.isEmpty_map, Text.contains_asciiLower (by decide), isIPv6Groups_asciiLower]

/-! ## Section 3: The beginning of an address -/

theorem le_of_mem_gapsFrom (h : gap ∈ gapsFrom place groups) : place ≤ gap := by
  fun_induction gapsFrom place groups with
  | case1 place group next more hempty ih =>
    rcases List.mem_cons.1 h with rfl | h
    · exact Nat.le_refl _
    · exact Nat.le_of_succ_le (ih h)
  | case2 place group next more hfull ih => exact Nat.le_of_succ_le (ih h)
  | case3 => cases h

theorem head?_expandIPv4? {written : List (List Char)} (h : expandIPv4? written = some groups)
    (hlength : 2 ≤ written.length) : groups.head? = written.head? := by
  obtain ⟨first, rest, rfl⟩ : ∃ first rest, written = first :: rest := by
    refine List.exists_cons_of_ne_nil ?_
    rintro rfl
    simp at hlength
  have hrest : rest ≠ [] := by
    rintro rfl
    simp at hlength
  unfold expandIPv4? at h
  split at h
  · rw [← Option.some.inj h]
  · split_ifs at h
    · rw [← Option.some.inj h]
    · rw [← Option.some.inj h, List.dropLast_cons_of_ne_nil hrest]
      rfl

/-- The first group of an address is empty or is one of its groups. -/
theorem isGroup_of_isIPv6Groups (h : isIPv6Groups text = true)
    (hfirst : (Text.pieces ':' text).head? = some first) : first = [] ∨ isGroup first = true := by
  unfold isIPv6Groups at h
  dsimp only at h
  split at h
  · cases h
  · rename_i groups hexpanded
    split at h
    · cases h
    · rename_i hsize
      simp only [Bool.or_eq_true, decide_eq_true_eq, not_or, Nat.not_lt] at hsize
      obtain ⟨rest, rfl⟩ : ∃ rest, groups = first :: rest := by
        rw [← head?_expandIPv4? hexpanded (by omega)] at hfirst
        exact List.head?_eq_some_iff.1 hfirst
      split at h
      · have hall := (Bool.and_eq_true_iff.1 h).2
        exact .inr (List.all_eq_true.1 hall first List.mem_cons_self)
      · rename_i gap hgap
        -- The gap is behind the first group, which therefore has to be a full one.
        have hpos : 1 ≤ gap := le_of_mem_gapsFrom (by rw [hgap]; exact List.mem_singleton_self gap)
        obtain ⟨back, rfl⟩ : ∃ back, gap = back + 1 := ⟨gap - 1, by omega⟩
        by_cases hempty : first = []
        · exact .inl hempty
        · unfold isGappedAddress at h
          dsimp only at h
          rw [List.take_succ_cons, if_neg (by simp [hempty])] at h
          have hall := (Bool.and_eq_true_iff.1 (Bool.and_eq_true_iff.1 h).1).2
          exact .inr (List.all_eq_true.1 hall first List.mem_cons_self)
      · cases h

theorem isIPv6Groups_of_isIPv6 (h : isIPv6 text = true) :
    isIPv6Groups (Text.cutAt (· == '%') text).1 = true := by
  unfold isIPv6 at h
  split at h
  · rename_i hcut
    rw [hcut]
    exact h
  · rename_i hcut
    rw [hcut]
    exact (Bool.and_eq_true_iff.1 h).2

/-- An address begins with a colon or a digit. -/
theorem head?_of_isIPv6 (h : isIPv6 (c :: text) = true) :
    c = ':' ∨ (Digits.hexDigit? c).isSome = true := by
  have hgroups := isIPv6Groups_of_isIPv6 h
  by_cases hpercent : c = '%'
  · subst hpercent
    have hnone : isIPv6Groups [] = true := hgroups
    exact absurd hnone (by decide)
  · rw [Text.cutAt, if_neg (by simpa using hpercent)] at hgroups
    dsimp only at hgroups
    by_cases hcolon : c = ':'
    · exact .inl hcolon
    · obtain ⟨piece, more, hpieces⟩ :=
        List.exists_cons_of_ne_nil (Text.pieces_ne_nil ':' (Text.cutAt (· == '%') text).1)
      have hfirst : (Text.pieces ':' (c :: (Text.cutAt (· == '%') text).1)).head? =
          some (c :: piece) := by
        rw [Text.pieces, if_neg hcolon, hpieces]
        rfl
      rcases isGroup_of_isIPv6Groups hgroups hfirst with hnil | hgroup
      · cases hnil
      · have hall := (Bool.and_eq_true_iff.1 hgroup).2
        exact .inr (List.all_eq_true.1 hall c List.mem_cons_self)

/-! ## Section 4: Literals -/

theorem isFutureAddress_asciiLower (rest : List Char) :
    isFutureAddress ('v' :: rest.map asciiLower) = isFutureAddress ('v' :: rest) := by
  have hdigit : IgnoresCase fun c => (Digits.hexDigit? c).isSome :=
    Text.ignoresCase_of_ascii (by decide)
  simp only [isFutureAddress]
  rw [Text.takeWhile_asciiLower hdigit, List.length_map, ← List.map_drop, List.isEmpty_map]
  cases rest.drop (rest.takeWhile fun c => (Digits.hexDigit? c).isSome).length with
  | nil => rfl
  | cons c address =>
    by_cases hpoint : c = '.'
    · subst hpoint
      have hsame : asciiLower '.' = '.' := by decide
      have hbreak := Text.contains_asciiLower (show '\n'.isAlpha = false by decide) address
      simp only [List.map_cons, hsame, List.isEmpty_map, hbreak]
    · have hpoint' : asciiLower c ≠ '.' := mt (Text.asciiLower_eq_mark (by decide)).1 hpoint
      simp [hpoint, hpoint']

theorem asciiLower_eq_v : asciiLower c = 'v' ↔ c = 'v' ∨ c = 'V' := by
  constructor
  · intro h
    by_cases hascii : c.toNat < 0x80
    · refine Text.forall_ascii (P := fun c => asciiLower c = 'v' → c = 'v' ∨ c = 'V') ?_ hascii h
      decide
    · rw [Text.asciiLower_of_le (by omega)] at h
      exact .inl h
  · rintro (rfl | rfl) <;> decide

/-- In other cases, a text that may stand in brackets may stand there still,
    unless it begins with a capital `V`. -/
theorem isLiteral_iff_of_sameLetters (h : SameLetters text text') (hliteral : IsLiteral text) :
    IsLiteral text' ↔ text'.head? ≠ some 'V' := by
  have hcapital : ∀ rest : List Char, isIPv6 ('V' :: rest) = false := by
    intro rest
    rw [← Bool.not_eq_true]
    intro haddress
    exact absurd (head?_of_isIPv6 haddress) (by decide)
  cases text' with
  | nil =>
    obtain rfl : text = [] := List.map_eq_nil_iff.1 h
    simpa [IsLiteral] using hliteral
  | cons c' rest' =>
    obtain ⟨c, rest, rfl, hc, hrest⟩ := List.map_eq_cons_iff.1 h
    have hfirst : c = 'v' ∨ c = 'V' ↔ c' = 'v' ∨ c' = 'V' := by
      rw [← asciiLower_eq_v, hc, asciiLower_eq_v]
    simp only [IsLiteral, List.head?_cons, Option.some.injEq] at hliteral ⊢
    by_cases hcv : c = 'v' ∨ c = 'V'
    · -- Only a small `v` can have been there, and only that may be there again.
      obtain rfl : c = 'v' := by
        refine hcv.resolve_right ?_
        rintro rfl
        rw [if_neg (by decide), hcapital] at hliteral
        cases hliteral
      rw [if_pos rfl] at hliteral
      rcases hfirst.1 hcv with rfl | rfl
      · rw [if_pos rfl, ← isFutureAddress_asciiLower, ← hrest, isFutureAddress_asciiLower]
        simpa using hliteral
      · simp [hcapital]
    · have hcv' := mt hfirst.2 hcv
      rw [not_or] at hcv hcv'
      rw [if_neg hcv.1] at hliteral
      rw [if_neg hcv'.1, h.eq_of (f := isIPv6) isIPv6_asciiLower]
      simpa [hcv'.2] using hliteral

end DenoBridge.Url
