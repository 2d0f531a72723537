import DenoBridge.Terminal.Cells
import DenoBridge.Text.Blank

/-! # Breaking a line into rows

    A line is broken between words.  A word takes the blanks after it along,
    and those may hang over the edge; a word that is wider than a whole row is
    chopped, or hangs over too.  Main statement: the rows put together are the
    line (`flatten_rows`).
-/

namespace DenoBridge.Terminal

/-! ## Section 1: Words -/

/-- The words after a part of a word: each one with the blanks after it.
    `ended` says that the part ends in a blank. -/
def wordsAfter (word : List Char) (ended : Bool) : List Char → List (List Char)
  | [] => [word]
  | c :: rest =>
    if Text.isBlank c then wordsAfter (word ++ [c]) true rest
    else if ended then word :: wordsAfter [c] false rest
    else wordsAfter (word ++ [c]) false rest

/-- The words of a line.  Blanks at its start belong to the first one. -/
def words (line : List Char) : List (List Char) :=
  wordsAfter (line.takeWhile Text.isBlank) false (line.dropWhile Text.isBlank)

theorem flatten_wordsAfter (word : List Char) (ended : Bool) (text : List Char) :
    (wordsAfter word ended text).flatten = word ++ text := by
  induction text generalizing word ended with
  | nil => simp [wordsAfter]
  | cons c rest ih =>
    unfold wordsAfter
    split
    · simp [ih]
    · split <;> simp [ih]

theorem flatten_words (line : List Char) : (words line).flatten = line := by
  simp [words, flatten_wordsAfter]

/-! ## Section 2: Rows -/

/-- What becomes of a word that is wider than a row. -/
inductive Overflow where
  /-- It is chopped and fills several rows. -/
  | fold
  /-- It has a row of its own, whose end gives way to an ellipsis. -/
  | ellipsis
  deriving Repr, DecidableEq

/-- Rows in progress. -/
structure Rows where
  /-- The rows that are full, the last one first. -/
  full : List (List Char)
  row : List Char
  /-- The cells that the row takes. -/
  used : Nat

namespace Rows

/-- All text so far. -/
def text (s : Rows) : List Char :=
  s.full.reverse.flatten ++ s.row

/-- The rows with a part of a word that starts a row of its own. -/
def startRow (s : Rows) (part : List Char) : Rows :=
  if s.full.isEmpty && s.row.isEmpty then ⟨[], part, width part⟩
  else ⟨s.row :: s.full, part, width part⟩

/-- The rows with one more word. -/
def addWord (overflow : Overflow) (cells : Nat) (s : Rows) (word : List Char) : Rows :=
  if s.used + width (Text.trimEnd word) ≤ cells then
    ⟨s.full, s.row ++ word, s.used + width word⟩
  else if width (Text.trimEnd word) ≤ cells then ⟨s.row :: s.full, word, width word⟩
  else
    match overflow with
    | .fold => (chop cells word).foldl startRow s
    | .ellipsis => s.startRow word

theorem text_startRow (s : Rows) (part : List Char) : (s.startRow part).text = s.text ++ part := by
  unfold startRow
  split <;> simp_all [text]

theorem text_foldl_startRow (parts : List (List Char)) (s : Rows) :
    (parts.foldl startRow s).text = s.text ++ parts.flatten := by
  induction parts generalizing s with
  | nil => simp
  | cons part parts ih => simp [ih, text_startRow]

theorem text_addWord (overflow : Overflow) (cells : Nat) (s : Rows) (word : List Char) :
    (addWord overflow cells s word).text = s.text ++ word := by
  unfold addWord
  split
  · simp [text]
  · split
    · simp [text]
    · cases overflow
      · rw [text_foldl_startRow, flatten_chop]
      · rw [text_startRow]

theorem text_foldl_addWord (overflow : Overflow) (cells : Nat) (list : List (List Char))
    (s : Rows) :
    (list.foldl (addWord overflow cells) s).text = s.text ++ list.flatten := by
  induction list generalizing s with
  | nil => simp
  | cons word list ih => simp [ih, text_addWord]

end Rows

/-- The rows that a line fills.  But for what hangs over they have at most the
    given cells. -/
def rows (overflow : Overflow) (cells : Nat) (line : List Char) : List (List Char) :=
  let s := (words line).foldl (Rows.addWord overflow cells) ⟨[], [], 0⟩
  (s.row :: s.full).reverse

theorem flatten_rows (overflow : Overflow) (cells : Nat) (line : List Char) :
    (rows overflow cells line).flatten = line := by
  have h := Rows.text_foldl_addWord overflow cells (words line) ⟨[], [], 0⟩
  simpa [rows, Rows.text, flatten_words] using h

end DenoBridge.Terminal
