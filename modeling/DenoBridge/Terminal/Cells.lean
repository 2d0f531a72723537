import DenoBridge.Terminal.CellClasses

/-! # Cells of a terminal

    A terminal shows text in cells.  A character takes no cell, one or two;
    a joiner merges the character after it into the one before, and a
    selector makes some narrow characters wide.  A text can be fitted to a
    number of cells, or chopped into rows that fit.  Main statements: neither
    taking a text apart (`flatMap_clusters`) nor chopping it (`flatten_chop`)
    loses anything.
-/

namespace DenoBridge.Terminal

/-! ## Section 1: Width -/

/-- The character that joins its two neighbours. -/
def joiner : Char := '\u200d'

/-- The character that asks for a wide form of the one before it. -/
def wideSelector : Char := '\ufe0f'

/-- Is the character a control? -/
def isControl (c : Char) : Bool :=
  c.toNat < 0x20 || (0x7f ≤ c.toNat && c.toNat < 0xa0)

/-- Can a selector make the character wide? -/
def isWidenable (c : Char) : Bool :=
  Text.insideTurns widenableTurns c.toNat

/-- The cells that a character takes by itself. -/
def charWidth (c : Char) : Nat :=
  if 0x20 ≤ c.toNat ∧ c.toNat < 0x7f then 1
  else if isControl c || Text.insideTurns cellFreeTurns c.toNat then 0
  else if Text.insideTurns wideTurns c.toNat then 2
  else 1

/-- The cells that a selector adds to the character that was shown last. -/
def widening : Option Char → Nat
  | some c => if isWidenable c then 1 else 0
  | none => 0

/-- The cells of the text that follows a character with cells, unless that
    one had its selector already. -/
def widthAfter (shown : Option Char) : List Char → Nat
  | [] => 0
  | '\u200d' :: _ :: rest => widthAfter shown rest
  | '\ufe0f' :: rest => widening shown + widthAfter none rest
  | c :: rest => charWidth c + widthAfter (if charWidth c = 0 then shown else some c) rest

/-- The cells that a text takes. -/
def width (text : List Char) : Nat :=
  widthAfter none text

/-- Is the character one that rings or moves the cursor back or down, and is
    never shown? -/
def isDropped (c : Char) : Bool :=
  ['\x07', '\x08', '\x0b', '\x0c', '\r'].contains c

/-- The text without the characters that are never shown. -/
def shown (text : List Char) : List Char :=
  text.filter (!isDropped ·)

/-! ## Section 2: Clusters -/

/-- Characters that share their cells. -/
structure Cluster where
  text : List Char
  width : Nat
  deriving Repr, DecidableEq

/-- Clusters that were found so far, the last one first, and the character
    that a selector would apply to. -/
structure Clusters where
  found : List Cluster
  shown : Option Char

namespace Clusters

/-- The clusters with one more. -/
def push (s : Clusters) (c : Char) : Clusters :=
  ⟨⟨[c], charWidth c⟩ :: s.found, if charWidth c = 0 then s.shown else some c⟩

/-- The clusters with characters that join the last one. -/
def extend (s : Clusters) (more : List Char) : Clusters :=
  match s.found with
  | [] => ⟨[⟨more, 0⟩], s.shown⟩
  | last :: before => ⟨⟨last.text ++ more, last.width⟩ :: before, s.shown⟩

/-- The clusters after a selector. -/
def widen (s : Clusters) : Clusters :=
  match s.found with
  | [] => s.extend [wideSelector]
  | last :: before =>
    ⟨⟨last.text ++ [wideSelector], last.width + widening s.shown⟩ :: before,
      if widening s.shown = 0 then s.shown else none⟩

/-- The clusters after a text. -/
def read (s : Clusters) : List Char → Clusters
  | [] => s
  | '\ufe0f' :: rest => s.widen.read rest
  | '\u200d' :: next :: rest =>
    if s.found.isEmpty then (s.extend [joiner]).read (next :: rest)
    else (s.extend [joiner, next]).read rest
  | c :: rest => if charWidth c = 0 then (s.extend [c]).read rest else (s.push c).read rest

/-- The text in the clusters. -/
def text (s : Clusters) : List Char :=
  s.found.reverse.flatMap (·.text)

theorem text_push (s : Clusters) (c : Char) : (s.push c).text = s.text ++ [c] := by
  simp [text, push]

theorem text_extend (s : Clusters) (more : List Char) : (s.extend more).text = s.text ++ more := by
  unfold extend
  split <;> simp_all [text]

theorem text_widen (s : Clusters) : s.widen.text = s.text ++ [wideSelector] := by
  unfold widen
  split
  · exact text_extend s _
  · simp_all [text]

theorem text_read (s : Clusters) (more : List Char) : (s.read more).text = s.text ++ more := by
  fun_induction read s more with
  | case1 => simp
  | case2 s rest ih => simp [ih, text_widen, wideSelector]
  | case3 s next rest _ ih => rw [ih, text_extend]; simp [joiner]
  | case4 s next rest _ ih => rw [ih, text_extend]; simp [joiner]
  | case5 s c rest _ _ _ ih => simp [ih, text_extend]
  | case6 s c rest _ _ _ ih => simp [ih, text_push]

end Clusters

/-- The clusters of a text, in order. -/
def clusters (text : List Char) : List Cluster :=
  (Clusters.read ⟨[], none⟩ text).found.reverse

theorem flatMap_clusters (text : List Char) : (clusters text).flatMap (·.text) = text := by
  simpa [clusters, Clusters.text] using Clusters.text_read ⟨[], none⟩ text

/-! ## Section 3: Fitting and chopping -/

/-- The clusters that fit into some cells.  A wide one that would stand half
    outside gives way to a space. -/
def takeCells (cells : Nat) : List Cluster → List Char
  | [] => []
  | cluster :: rest =>
    if cells = 0 then []
    else if cluster.width ≤ cells then cluster.text ++ takeCells (cells - cluster.width) rest
    else [' ']

/-- A text cut or filled with spaces to take exactly the given cells. -/
def fit (cells : Nat) (text : List Char) : List Char :=
  if cells = 0 then []
  else if width text ≤ cells then text ++ List.replicate (cells - width text) ' '
  else takeCells cells (clusters text)

/-- A text cut to at most the given cells, its end replaced by an ellipsis
    when something is missing. -/
def abridge (cells : Nat) (text : List Char) : List Char :=
  if width text ≤ cells then text else fit (cells - 1) text ++ ['…']

/-- The rows from a row in progress on, which takes `used` of the cells. -/
def chopAfter (cells : Nat) (row : List Char) (used : Nat) : List Cluster → List (List Char)
  | [] => [row]
  | cluster :: rest =>
    if used + cluster.width ≤ cells then
      chopAfter cells (row ++ cluster.text) (used + cluster.width) rest
    else row :: chopAfter cells cluster.text cluster.width rest

/-- The rows of at most the given cells that a text fills. -/
def chop (cells : Nat) (text : List Char) : List (List Char) :=
  chopAfter cells [] 0 (clusters text)

theorem flatten_chopAfter (cells : Nat) (row : List Char) (used : Nat) (list : List Cluster) :
    (chopAfter cells row used list).flatten = row ++ list.flatMap (·.text) := by
  induction list generalizing row used with
  | nil => simp [chopAfter]
  | cons cluster rest ih => unfold chopAfter; split <;> simp [ih]

theorem flatten_chop (cells : Nat) (text : List Char) : (chop cells text).flatten = text := by
  simp [chop, flatten_chopAfter, flatMap_clusters]

end DenoBridge.Terminal
