/-! # Punycode

    A label as letters, digits and hyphens: its ASCII characters, a hyphen,
    and then the other code points in ascending order, each as the distance
    that leads from one insertion to the next.  Distances are numbers with
    digits of variable base; the base adapts to the distances met so far.
-/

namespace DenoBridge.Hostname.Punycode

/-! ## Section 1: Numbers of variable base -/

/-- The digit with this value. -/
def digit (value : Nat) : Char :=
  Char.ofNat (if value < 26 then 'a'.toNat + value else '0'.toNat + (value - 26))

/-- The least value that a digit at a position shares with further digits. -/
def threshold (bias position : Nat) : Nat :=
  max 1 (min 26 (36 * position - bias))

theorem threshold_pos (bias position : Nat) : 0 < threshold bias position := by
  simp only [threshold]
  omega

theorem threshold_le (bias position : Nat) : threshold bias position ≤ 26 := by
  simp only [threshold]
  omega

/-- The digits of a number from a position on, the least significant first. -/
def digitsFrom (bias position number : Nat) : List Char :=
  let least := threshold bias position
  if number < least then [digit number]
  else
    digit (least + (number - least) % (36 - least)) ::
      digitsFrom bias (position + 1) ((number - least) / (36 - least))
termination_by number
decreasing_by
  have h₁ := threshold_pos bias position
  have h₂ := Nat.div_le_self (number - threshold bias position) (36 - threshold bias position)
  simp only [least] at *
  omega

/-- The digits of a number. -/
def digits (bias number : Nat) : List Char :=
  digitsFrom bias 1 number

/-! ## Section 2: The bias -/

/-- Divides a distance down to the range of one digit, counting the
    divisions. -/
def settle (distance divisions : Nat) : Nat × Nat :=
  if h : distance > 455 then settle (distance / 35) (divisions + 1) else (distance, divisions)
termination_by distance
decreasing_by exact Nat.div_lt_self (by omega) (by omega)

/-- The bias after a distance was written as the `count`-th insertion. -/
def adapt (distance count : Nat) (first : Bool) : Nat :=
  let scaled := if first then distance / 700 else distance / 2
  let (rest, divisions) := settle (scaled + scaled / count) 0
  36 * divisions + 36 * rest / (rest + 38)

/-! ## Section 3: Insertions -/

/-- How far writing has come. -/
structure Progress where
  /-- The code point to insert next is at least this one. -/
  code : Nat
  distance : Nat
  bias : Nat
  /-- The number of characters written or inserted. -/
  done : Nat
  output : List Char

/-- One character of the label seen while `state.code` is being inserted. -/
def visit (basic : Nat) (state : Progress) (code : Nat) : Progress :=
  if code < state.code then { state with distance := state.distance + 1 }
  else if code = state.code then
    { code := state.code
      distance := 0
      bias := adapt state.distance (state.done + 1) (state.done == basic)
      done := state.done + 1
      output := state.output ++ digits state.bias state.distance }
  else state

/-- All insertions of one code point. -/
def insertAll (label : List Nat) (basic : Nat) (state : Progress) (code : Nat) : Progress :=
  let start :=
    { state with
      code := code
      distance := state.distance + (code - state.code) * (state.done + 1) }
  let finish := label.foldl (visit basic) start
  { finish with code := code + 1, distance := finish.distance + 1 }

/-- The code points of a label that are not ASCII, ascending, each once. -/
def insertions (label : List Nat) : List Nat :=
  ((label.filter (· ≥ 0x80)).mergeSort (· ≤ ·)).eraseReps

/-- The Punycode form of a label. -/
def encode (label : List Nat) : List Char :=
  let basic := (label.filter (· < 0x80)).map Char.ofNat
  let state : Progress := ⟨0x80, 0, 72, basic.length, []⟩
  let inserted := ((insertions label).foldl (insertAll label basic.length) state).output
  if basic.isEmpty then inserted else basic ++ '-' :: inserted

end DenoBridge.Hostname.Punycode
