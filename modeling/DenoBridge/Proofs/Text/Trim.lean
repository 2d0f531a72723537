import Mathlib.Data.List.TakeWhile
import DenoBridge.Text.Blank

/-! # Trimmed text

    What trimming leaves begins and ends with characters that are not blank
    (`not_isBlank_of_trim`), so there is nothing to trim a second time
    (`trim_trim`); nothing is left of blanks alone (`trim_eq_nil_iff`).
-/

namespace DenoBridge.Text

variable {text front back : List Char} {c : Char}

/-! ## Section 1: The end of a text -/

/-- The end of a text is dropped from its rest, and from its first character
    only when nothing of the rest is left. -/
theorem dropTail_cons (drop : Char → Bool) (c : Char) (rest : List Char) :
    dropTail drop (c :: rest) =
      if dropTail drop rest = [] ∧ drop c = true then [] else c :: dropTail drop rest := by
  unfold dropTail
  rw [List.reverse_cons, List.dropWhile_append]
  by_cases hrest : rest.reverse.dropWhile drop = []
  · by_cases hc : drop c = true <;> simp [hrest, hc]
  · rw [if_neg (by simpa using hrest), if_neg (by simp [hrest])]
    simp

/-- The end of a text is trimmed behind the last character that stays. -/
theorem dropTail_append_cons {drop : Char → Bool} (hc : drop c = false) (front back : List Char) :
    dropTail drop (front ++ c :: back) = front ++ c :: dropTail drop back := by
  induction front with
  | nil => rw [List.nil_append, dropTail_cons, if_neg (by simp [hc]), List.nil_append]
  | cons d front ih => rw [List.cons_append, dropTail_cons, ih, if_neg (by simp), List.cons_append]

theorem dropTail_isPrefix (drop : Char → Bool) (text : List Char) :
    dropTail drop text <+: text := by
  have hsuffix := List.dropWhile_suffix drop (l := text.reverse)
  have hprefix := List.reverse_prefix.2 hsuffix
  rwa [List.reverse_reverse] at hprefix

/-! ## Section 2: Both ends -/

theorem dropWhile_eq_self {drop : Char → Bool} (h : ∀ c, text.head? = some c → drop c = false) :
    text.dropWhile drop = text := by
  cases text with
  | nil => rfl
  | cons c more =>
    have hc := h c rfl
    exact List.dropWhile_cons_of_neg (by simp [hc])

theorem not_of_head?_dropWhile {drop : Char → Bool} (h : (text.dropWhile drop).head? = some c) :
    drop c = false := by
  have hall := List.head?_dropWhile_not drop text
  rw [h] at hall
  simpa using hall

theorem trim_eq_self (h : ∀ c, text.head? = some c ∨ text.getLast? = some c →
    isBlank c = false) : trim text = text := by
  have hfirst : ∀ c, text.head? = some c → isBlank c = false := fun c hc => h c (.inl hc)
  have hlast : ∀ c, text.reverse.head? = some c → isBlank c = false := by
    intro c hc
    rw [List.head?_reverse] at hc
    exact h c (.inr hc)
  unfold trim trimStart trimEnd dropTail
  rw [dropWhile_eq_self hfirst, dropWhile_eq_self hlast, List.reverse_reverse]

/-- A trimmed text neither begins nor ends with a blank. -/
theorem not_isBlank_of_trim (h : (trim text).head? = some c ∨ (trim text).getLast? = some c) :
    isBlank c = false := by
  rcases h with hfirst | hlast
  · -- The end is trimmed last, and this takes no first character away.
    obtain ⟨rest, hrest⟩ := dropTail_isPrefix isBlank (trimStart text)
    have hhead : (trimStart text).head? = some c := by
      rw [← hrest, List.head?_append]
      show ((trim text).head?).or rest.head? = some c
      rw [hfirst]
      rfl
    exact not_of_head?_dropWhile hhead
  · unfold trim trimEnd dropTail at hlast
    rw [List.getLast?_reverse] at hlast
    exact not_of_head?_dropWhile hlast

theorem trim_isInfix (text : List Char) : trim text <:+: text :=
  (dropTail_isPrefix isBlank (trimStart text)).isInfix.trans (List.dropWhile_suffix isBlank).isInfix

/-- A text is what trimming leaves of it, with blanks around. -/
theorem exists_blanks_around (text : List Char) :
    ∃ front back, (∀ c ∈ front, isBlank c = true) ∧ (∀ c ∈ back, isBlank c = true) ∧
      text = front ++ (trim text ++ back) := by
  have hstart : text = text.takeWhile isBlank ++ trimStart text :=
    List.takeWhile_append_dropWhile.symm
  have hend : trimStart text =
      trim text ++ ((trimStart text).reverse.takeWhile isBlank).reverse := by
    have hreverse := List.takeWhile_append_dropWhile (p := isBlank) (l := (trimStart text).reverse)
    unfold trim trimEnd dropTail
    rw [← List.reverse_append, hreverse, List.reverse_reverse]
  refine ⟨_, _, fun c hc => List.mem_takeWhile_imp hc, ?_, hstart.trans (by rw [← hend])⟩
  intro c hc
  exact List.mem_takeWhile_imp (List.mem_reverse.1 hc)

theorem trim_trim (text : List Char) : trim (trim text) = trim text := by
  apply trim_eq_self
  intro c h
  exact not_isBlank_of_trim h

/-- Nothing is left of a text exactly when it is blank. -/
theorem trim_eq_nil_iff : trim text = [] ↔ ∀ c ∈ text, isBlank c = true := by
  unfold trim trimEnd trimStart dropTail
  rw [List.reverse_eq_nil_iff, List.dropWhile_eq_nil_iff]
  simp only [List.mem_reverse]
  constructor
  · intro h c hc
    -- Every character is trimmed at the start, or stands in what is left there.
    rw [← List.takeWhile_append_dropWhile (p := isBlank) (l := text), List.mem_append] at hc
    rcases hc with hstart | hleft
    · exact List.mem_takeWhile_imp hstart
    · exact h c hleft
  · intro h c hc
    exact h c (List.dropWhile_sublist isBlank |>.subset hc)

/-- Blanks in front go away, and those at the end up to a part that neither
    begins nor ends with a blank. -/
theorem trim_append {core : List Char} (hfront : ∀ c ∈ front, isBlank c = true) (hne : core ≠ [])
    (hhead : ∀ c, core.head? = some c → isBlank c = false)
    (hlast : ∀ c, core.getLast? = some c → isBlank c = false) (back : List Char) :
    trim (front ++ (core ++ back)) = core ++ trimEnd back := by
  have hstart : trimStart (front ++ (core ++ back)) = core ++ back := by
    unfold trimStart
    rw [List.dropWhile_append_of_pos hfront]
    apply dropWhile_eq_self
    intro c hc
    apply hhead
    obtain ⟨first, rest, rfl⟩ := List.exists_cons_of_ne_nil hne
    exact hc
  have hstay : isBlank (core.getLast hne) = false := hlast _ (List.getLast?_eq_some_getLast hne)
  rw [trim, hstart, ← List.dropLast_concat_getLast hne, List.append_assoc, List.append_assoc]
  exact dropTail_append_cons hstay core.dropLast back

end DenoBridge.Text
