import DenoBridge.Text.LowerCase
import DenoBridge.Proofs.Text.Split

/-! # Characters of a text in lower case

    Nearly every character is lowered by itself; the two rules that look
    further put one of four characters in place (`mem_lower`).
-/

namespace DenoBridge.Text

/-- What the rules for the capital sigma and the dotted capital I write. -/
def ruledLowers : List Char :=
  ['ς', 'σ', 'i', '\u0307']

theorem lowerSigma_mem (before after : List Char) : lowerSigma before after ∈ ruledLowers := by
  unfold lowerSigma
  split <;> decide

theorem mem_lowerAfter {before text : List Char} {c : Char} (h : c ∈ lowerAfter before text) :
    c ∈ ruledLowers ∨ ∃ d ∈ text, c = lowerChar d := by
  fun_induction lowerAfter before text with
  | case1 => simp at h
  | case2 before rest ih =>
    rcases List.mem_cons.1 h with rfl | h
    · exact .inl (lowerSigma_mem before rest)
    · exact (ih h).imp_right fun ⟨d, hd, hc⟩ => ⟨d, List.mem_cons_of_mem _ hd, hc⟩
  | case3 before rest ih =>
    rcases List.mem_cons.1 h with rfl | h
    · exact .inl (by decide)
    · rcases List.mem_cons.1 h with rfl | h
      · exact .inl (by decide)
      · exact (ih h).imp_right fun ⟨d, hd, hc⟩ => ⟨d, List.mem_cons_of_mem _ hd, hc⟩
  | case4 before first rest _ _ ih =>
    rcases List.mem_cons.1 h with rfl | h
    · exact .inr ⟨first, by simp, rfl⟩
    · exact (ih h).imp_right fun ⟨d, hd, hc⟩ => ⟨d, List.mem_cons_of_mem _ hd, hc⟩

theorem mem_lower {text : List Char} {c : Char} (h : c ∈ lower text) :
    c ∈ ruledLowers ∨ ∃ d ∈ text, c = lowerChar d :=
  mem_lowerAfter h

/-- No character is lost: its lower case is there, or what a rule puts in its
    place, which is not ASCII. -/
theorem exists_mem_lowerAfter {before text : List Char} {c : Char} (hc : c ∈ text) :
    ∃ d ∈ lowerAfter before text, d = lowerChar c ∨ 0x80 ≤ d.toNat := by
  fun_induction lowerAfter before text with
  | case1 => cases hc
  | case2 before rest ih =>
    rcases List.mem_cons.1 hc with rfl | hc
    · refine ⟨_, List.mem_cons_self, .inr ?_⟩
      unfold lowerSigma
      split <;> decide
    · obtain ⟨d, hd, heq⟩ := ih hc
      exact ⟨d, List.mem_cons_of_mem _ hd, heq⟩
  | case3 before rest ih =>
    rcases List.mem_cons.1 hc with rfl | hc
    · exact ⟨'\u0307', by simp, .inr (by decide)⟩
    · obtain ⟨d, hd, heq⟩ := ih hc
      exact ⟨d, List.mem_cons_of_mem _ (List.mem_cons_of_mem _ hd), heq⟩
  | case4 before first rest _ _ ih =>
    rcases List.mem_cons.1 hc with rfl | hc
    · exact ⟨_, List.mem_cons_self, .inl rfl⟩
    · obtain ⟨d, hd, heq⟩ := ih hc
      exact ⟨d, List.mem_cons_of_mem _ hd, heq⟩

theorem exists_mem_lower {text : List Char} {c : Char} (hc : c ∈ text) :
    ∃ d ∈ lower text, d = lowerChar c ∨ 0x80 ≤ d.toNat :=
  exists_mem_lowerAfter hc

end DenoBridge.Text
