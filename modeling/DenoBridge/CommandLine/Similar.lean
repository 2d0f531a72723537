/-! # Similar words

    How much two words have in common: the longest stretch that both contain,
    and in the same way what lies to its left and to its right.  A word that
    nobody knows is answered with the known words that are most similar to
    it.
-/

namespace DenoBridge.Similar

/-! ## Section 1: Common stretches -/

/-- The number of characters at the start that two words share. -/
def commonStart : List Char → List Char → Nat
  | a :: as, b :: bs => if a = b then commonStart as bs + 1 else 0
  | _, _ => 0

/-- A stretch that two words share: where it starts in each, and its
    length. -/
structure Stretch where
  left : Nat
  right : Nat
  length : Nat
  deriving Repr, DecidableEq

/-- All pairs of places at which a shared stretch may start. -/
def stretches (a b : List Char) : List Stretch :=
  (List.range a.length).flatMap fun i =>
    (List.range b.length).map fun j => ⟨i, j, commonStart (a.drop i) (b.drop j)⟩

/-- The longest shared stretch, of several the one that starts first. -/
def longest (a b : List Char) : Stretch :=
  (stretches a b).foldl
    (fun best next => if best.length < next.length then next else best) ⟨0, 0, 0⟩

/-- The number of characters in the stretches that two words share. -/
def common (a b : List Char) : Nat :=
  match longest a b with
  | ⟨left, right, length⟩ =>
    if _h : 0 < length ∧ left < a.length then
      length + common (a.take left) (b.take right) +
        common (a.drop (left + length)) (b.drop (right + length))
    else 0
termination_by a.length
decreasing_by
  · simp only [List.length_take]
    omega
  · simp only [List.length_drop]
    omega

/-! ## Section 2: Similarity -/

/-- The similarity of two words: twice what they share, over the characters
    of both. -/
structure Score where
  twice : Nat
  total : Nat
  word : String
  deriving Repr, DecidableEq

/-- The score of a known word. -/
def score (word known : String) : Score :=
  ⟨2 * common known.toList word.toList, known.length + word.length, known⟩

/-- Is at least three fifths of both words shared? -/
def Score.isClose (s : Score) : Bool :=
  3 * s.total ≤ 5 * s.twice

/-- Does a score stand before another one?  The more similar word does, and
    of two that are equally similar the later one in the alphabet. -/
def Score.before (a b : Score) : Bool :=
  if a.twice * b.total = b.twice * a.total then b.word ≤ a.word
  else b.twice * a.total < a.twice * b.total

/-- How many similar words are told at most. -/
def limit : Nat := 3

/-- The known words that are most similar to a word. -/
def among (known : List String) (word : String) : List String :=
  (((known.map (score word)).filter Score.isClose).mergeSort Score.before).take limit
    |>.map (·.word)

end DenoBridge.Similar
