import DenoBridge.Proofs.Path.Normal

/-! # Containment of paths

    One path is at or below another when both start at the same place and the
    names of the second begin the names of the first (`isAtOrBelow_iff`).
    For texts the test compares the paths in normal form
    (`isWithin_of_ne_empty`).
-/

namespace DenoBridge

namespace Path

/-! ## Section 1: Paths -/

theorem mem_parents {path base : Path} :
    base ∈ path.parents ↔ ∃ n < path.names.length, ⟨path.anchor, path.names.take n⟩ = base := by
  simp [parents]

/-- Name by name: a path is at or below another exactly when it continues
    it. -/
theorem isAtOrBelow_iff {candidate base : Path} :
    candidate.isAtOrBelow base = true ↔
      candidate.anchor = base.anchor ∧ base.names <+: candidate.names := by
  obtain ⟨anchor, names⟩ := candidate
  obtain ⟨baseAnchor, baseNames⟩ := base
  rw [isAtOrBelow, Bool.or_eq_true, decide_eq_true_iff, List.contains_iff_mem, mem_parents]
  constructor
  · rintro (heq | ⟨n, -, heq⟩)
    · obtain ⟨rfl, rfl⟩ := Path.mk.inj heq
      exact ⟨rfl, List.prefix_rfl⟩
    · obtain ⟨rfl, rfl⟩ := Path.mk.inj heq
      exact ⟨rfl, List.take_prefix n names⟩
  · rintro ⟨hanchor, more, hnames⟩
    obtain rfl : anchor = baseAnchor := hanchor
    obtain rfl : baseNames ++ more = names := hnames
    by_cases hmore : more = []
    · subst hmore
      exact .inl (by simp)
    · refine .inr ⟨baseNames.length, ?_, by simp⟩
      have : 0 < more.length := List.length_pos_iff.2 hmore
      simp only [List.length_append]
      omega

/-! ## Section 2: Texts -/

theorem normalize?_of_ne_empty {text : String} (h : text ≠ "") :
    normalize? (some text) = .ok (normalForm text) := by
  unfold normalize?
  split
  · rename_i hnone
    simp at hnone
  · rename_i hempty
    exact absurd (Option.some.inj hempty) h
  · rename_i text' _ htext
    obtain rfl : text = text' := Option.some.inj htext
    rfl

theorem isWithin_of_ne_empty {path root : String} (hpath : path ≠ "") (hroot : root ≠ "") :
    isWithin (some path) (some root) = .ok ((normalForm path).isAtOrBelow (normalForm root)) := by
  unfold isWithin
  split
  · rename_i hnone
    simp at hnone
  · rename_i hempty
    exact absurd (Option.some.inj hempty) hpath
  · rename_i path' _ htext
    obtain rfl : path = path' := Option.some.inj htext
    rw [normalize?_of_ne_empty hroot]

theorem isWithin_text {path root : Path} (h : path.IsProper) (hroot : root.IsProper) :
    isWithin (some path.text) (some root.text) =
      .ok (path.normalize.isAtOrBelow root.normalize) :=
  isWithin_of_ne_empty (text_ne_empty path h) (text_ne_empty root hroot)

end Path

end DenoBridge
