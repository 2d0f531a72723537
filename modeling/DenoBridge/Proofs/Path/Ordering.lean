import Mathlib.Order.Defs.PartialOrder
import DenoBridge.Proofs.Path.Containment

/-! # The order of containment

    A path is at most another one when it is at or below it.  This orders
    paths (`le_iff`), and although two paths need not be comparable, all that
    contain a third one are (`comparable_of_le`): they form a chain.  Texts are
    compared by their normal forms (`isWithin_eq_true_iff`), so the test on
    texts is reflexive, transitive, antisymmetric up to the normal form, and
    linear above any text (`within_orders_texts`).
-/

namespace DenoBridge

namespace Path

/-! ## Section 1: Paths -/

variable {path other base : Path}

instance : PartialOrder Path where
  le path base := path.isAtOrBelow base = true
  le_refl path := isAtOrBelow_iff.2 ⟨rfl, List.prefix_rfl⟩
  le_trans path base top hbase htop := by
    obtain ⟨hanchor, hnames⟩ := isAtOrBelow_iff.1 hbase
    obtain ⟨hanchor', hnames'⟩ := isAtOrBelow_iff.1 htop
    exact isAtOrBelow_iff.2 ⟨hanchor.trans hanchor', hnames'.trans hnames⟩
  le_antisymm path base hbelow habove := by
    obtain ⟨hanchor, hnames⟩ := isAtOrBelow_iff.1 hbelow
    obtain ⟨-, hnames'⟩ := isAtOrBelow_iff.1 habove
    -- Each list of names begins the other one, so neither has more names.
    have hsame : path.names = base.names :=
      hnames'.eq_of_length (Nat.le_antisymm hnames'.length_le hnames.length_le)
    cases path
    cases base
    exact congrArg₂ Path.mk hanchor hsame

theorem le_iff : path ≤ base ↔ path.anchor = base.anchor ∧ base.names <+: path.names :=
  isAtOrBelow_iff

/-- Of two paths that contain a third one, the one with fewer names contains
    the other. -/
theorem comparable_of_le (hbase : path ≤ base) (hother : path ≤ other) :
    base ≤ other ∨ other ≤ base := by
  obtain ⟨hanchor, hnames⟩ := le_iff.1 hbase
  obtain ⟨hanchor', hnames'⟩ := le_iff.1 hother
  have hstart : base.anchor = other.anchor := hanchor.symm.trans hanchor'
  rcases List.prefix_or_prefix_of_prefix hnames hnames' with hlonger | hlonger
  · right
    exact le_iff.2 ⟨hstart.symm, hlonger⟩
  · left
    exact le_iff.2 ⟨hstart, hlonger⟩

/-! ## Section 2: Texts -/

variable {a b c : String}

/-- A text lies within another one when its normal form is at most the other's. -/
theorem isWithin_eq_true_iff (ha : a ≠ "") (hb : b ≠ "") :
    isWithin (some a) (some b) = .ok true ↔ normalForm a ≤ normalForm b := by
  rw [isWithin_of_ne_empty ha hb]
  constructor
  · intro h
    exact Except.ok.inj h
  · intro h
    exact congrArg Except.ok h

theorem normalize?_eq_iff (ha : a ≠ "") (hb : b ≠ "") :
    normalize? (some a) = normalize? (some b) ↔ normalForm a = normalForm b := by
  rw [normalize?_of_ne_empty ha, normalize?_of_ne_empty hb, Except.ok.injEq]

/-- Containment of texts that are not empty always has an answer.  A text
    lies within itself and within whatever contains a text that contains it;
    two texts lie within each other exactly when they have the same normal
    form; and of two texts that contain a third one, one contains the other. -/
theorem within_orders_texts (ha : a ≠ "") (hb : b ≠ "") (hc : c ≠ "") :
    (∃ inside, isWithin (some a) (some b) = .ok inside) ∧
    isWithin (some a) (some a) = .ok true ∧
    (isWithin (some a) (some b) = .ok true → isWithin (some b) (some c) = .ok true →
      isWithin (some a) (some c) = .ok true) ∧
    (isWithin (some a) (some b) = .ok true ∧ isWithin (some b) (some a) = .ok true ↔
      normalize? (some a) = normalize? (some b)) ∧
    (isWithin (some a) (some b) = .ok true → isWithin (some a) (some c) = .ok true →
      isWithin (some b) (some c) = .ok true ∨ isWithin (some c) (some b) = .ok true) := by
  have hanswer : ∃ inside, isWithin (some a) (some b) = .ok inside :=
    ⟨_, isWithin_of_ne_empty ha hb⟩
  refine ⟨hanswer, ?_⟩
  -- From here on the texts matter only through their normal forms.
  simp only [isWithin_eq_true_iff, normalize?_eq_iff, ha, hb, hc, ne_eq, not_false_eq_true]
  refine ⟨le_rfl, ?_, ?_, ?_⟩
  · intro hab hbc
    exact le_trans hab hbc
  · constructor
    · intro h
      exact le_antisymm h.1 h.2
    · intro h
      exact ⟨le_of_eq h, le_of_eq h.symm⟩
  · intro hab hac
    exact comparable_of_le hab hac

/-- A climb lies within each shorter one, and so within the place that all of
    them start from. -/
theorem climbs_in_a_chain : "../../x" ≠ "" ∧ "./.." ≠ "" ∧ "." ≠ "" ∧
    isWithin (some "../../x") (some "./..") = .ok true ∧
    isWithin (some "./..") (some ".") = .ok true ∧
    isWithin (some "../../x") (some ".") = .ok true := by
  obtain ⟨-, -, htrans, -, -⟩ := @within_orders_texts "../../x" "./.." "." (by decide) (by decide)
    (by decide)
  have hfirst : isWithin (some "../../x") (some "./..") = .ok true := by decide
  have hsecond : isWithin (some "./..") (some ".") = .ok true := by decide
  exact ⟨by decide, by decide, by decide, hfirst, hsecond, htrans hfirst hsecond⟩

end Path

end DenoBridge
