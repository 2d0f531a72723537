import Mathlib.Data.List.Lex
import DenoBridge.Version.Order

/-! # Versions in order

    A version is at most another one when its key is (`le_iff_key`), in the
    lexicographic order of lists of lists of numbers.  That order is linear, so
    versions are preordered and any two of them can be compared
    (`comparable`); two that are each at most the other one still can
    differ, as `1` and `1.0` do (`key_padded`).
-/

namespace DenoBridge.Version

variable {v w : Version}

/-! ## Section 1: The order of keys -/

theorem numbersBefore_iff {xs ys : List Nat} : numbersBefore xs ys = true ↔ xs < ys := by
  unfold numbersBefore
  rw [List.lex_eq_true_iff_lex, ← List.lex_lt]
  simp only [decide_eq_true_eq]

theorem keyBefore_iff {xs ys : List (List Nat)} : keyBefore xs ys = true ↔ xs < ys := by
  unfold keyBefore
  rw [List.lex_eq_true_iff_lex, ← List.lex_lt]
  simp only [numbersBefore_iff]

theorem le_iff_key : v ≤ w ↔ v.key ≤ w.key := by
  show keyBefore w.key v.key = false ↔ v.key ≤ w.key
  rw [← not_lt, ← keyBefore_iff, Bool.not_eq_true]

instance : Preorder Version where
  le := (· ≤ ·)
  le_refl v := le_iff_key.2 le_rfl
  le_trans u v w huv hvw := le_iff_key.2 ((le_iff_key.1 huv).trans (le_iff_key.1 hvw))

theorem comparable (v w : Version) : v ≤ w ∨ w ≤ v := by
  rcases le_total v.key w.key with h | h
  · exact .inl (le_iff_key.2 h)
  · exact .inr (le_iff_key.2 h)

/-! ## Section 2: Zeros at the end of a release -/

/-- The version with one more zero in its release. -/
def padded (v : Version) : Version :=
  { v with release := v.release ++ [0] }

/-- A zero at the end of a release does not count. -/
theorem key_padded (v : Version) : v.padded.key = v.key := by
  have htrimmed : v.padded.trimmedRelease = v.trimmedRelease := by
    unfold trimmedRelease padded
    rw [List.reverse_append]
    rfl
  unfold key
  rw [htrimmed]
  rfl

theorem padded_le_iff : v.padded ≤ w ↔ v ≤ w := by
  rw [le_iff_key, le_iff_key, key_padded]

theorem le_padded_iff : v ≤ w.padded ↔ v ≤ w := by
  rw [le_iff_key, le_iff_key, key_padded]

end DenoBridge.Version
