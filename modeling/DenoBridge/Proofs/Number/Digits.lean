import DenoBridge.Number.Digits
import Mathlib.Data.List.TakeWhile

/-! # Runs of digits

    The digits at the start of a text and what follows them: together they are
    the text (`append_span`), and digits in front of anything else are found
    again (`span_append`).  A run of digits lies anywhere in a text
    (`IsRunOf`), and is still a run of it after the text was changed in
    characters that are no digits (`IsRunOf.of_map`).
-/

namespace DenoBridge.Digits

variable {text digits rest : List Char} {c : Char}

/-! ## Section 1: Digits at the start -/

/-- All of them are digits. -/
def AreDigits (digits : List Char) : Prop :=
  ∀ c ∈ digits, c.isDigit = true

/-- The text does not begin with a digit. -/
def NoDigitFirst (text : List Char) : Prop :=
  ∀ c, text.head? = some c → c.isDigit = false

theorem append_span (text : List Char) : (span text).1 ++ (span text).2 = text :=
  List.takeWhile_append_dropWhile

theorem areDigits_span (text : List Char) : AreDigits (span text).1 :=
  fun _ hc => List.mem_takeWhile_imp hc

theorem noDigitFirst_span (text : List Char) : NoDigitFirst (span text).2 := by
  intro c hc
  have hall := List.head?_dropWhile_not Char.isDigit text
  have hhead : (text.dropWhile Char.isDigit).head? = some c := hc
  rw [hhead] at hall
  simpa using hall

/-- Digits in front of something else are what is found at the start. -/
theorem span_append (hdigits : AreDigits digits) (hrest : NoDigitFirst rest) :
    span (digits ++ rest) = (digits, rest) := by
  unfold span
  rw [List.takeWhile_append_of_pos hdigits, List.dropWhile_append_of_pos hdigits]
  cases rest with
  | nil => simp
  | cons c more =>
    have hc : c.isDigit = false := hrest c rfl
    simp [hc]

theorem areDigits_nil : AreDigits [] :=
  List.forall_mem_nil _

theorem span_of_noDigitFirst (h : NoDigitFirst text) : span text = ([], text) :=
  span_append areDigits_nil h

theorem ne_of_isDigit {other : Char} (hc : c.isDigit = true) (hother : other.isDigit = false) :
    c ≠ other := by
  rintro rfl
  rw [hc] at hother
  cases hother

/-! ## Section 2: Runs -/

/-- Digits that stand side by side in a text. -/
structure IsRunOf (digits text : List Char) : Prop where
  areDigits : AreDigits digits
  inside : digits <:+: text

/-- No run of digits in the text is longer than a number may be. -/
def HasShortRuns (text : List Char) : Prop :=
  ∀ digits, IsRunOf digits text → digits.length ≤ digitLimit

theorem hasShortRuns_of_length (h : text.length ≤ digitLimit) : HasShortRuns text :=
  fun _ hrun => hrun.inside.length_le.trans h

theorem isRunOf_nil (text : List Char) : IsRunOf [] text :=
  ⟨areDigits_nil, List.nil_infix⟩

theorem isRunOf_span (text : List Char) : IsRunOf (span text).1 text :=
  ⟨areDigits_span text, (List.takeWhile_prefix Char.isDigit).isInfix⟩

theorem span_suffix (text : List Char) : (span text).2 <:+ text :=
  List.dropWhile_suffix Char.isDigit

theorem IsRunOf.of_isInfix (h : IsRunOf digits rest) (hrest : rest <:+: text) :
    IsRunOf digits text :=
  ⟨h.areDigits, h.inside.trans hrest⟩

/-- A change of characters that makes no new digits makes no new runs. -/
theorem IsRunOf.of_map {f : Char → Char} (hf : ∀ c, (f c).isDigit = true → f c = c)
    (h : IsRunOf digits (text.map f)) : IsRunOf digits text := by
  refine ⟨h.areDigits, ?_⟩
  obtain ⟨front, back, heq⟩ := h.inside
  obtain ⟨before, after, rfl, hbefore, hafter⟩ := List.map_eq_append_iff.1 heq.symm
  obtain ⟨first, second, rfl, hfirst, hsecond⟩ := List.map_eq_append_iff.1 hbefore
  have hsame : second = digits := by
    rw [← hsecond]
    symm
    refine (List.map_congr_left fun c hc => ?_).trans (List.map_id second)
    apply hf
    apply h.areDigits
    rw [← hsecond]
    exact List.mem_map_of_mem hc
  exact ⟨first, after, by rw [hsame]⟩

end DenoBridge.Digits
