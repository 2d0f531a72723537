import DenoBridge.Number.Binary64

/-! # The shortest decimal that reads back

    A floating-point number is written with the fewest digits from which it
    is read back; of several such decimals the nearest is taken.  Positional
    notation is used from one ten-thousandth up to, and without, ten to the
    sixteenth.
-/

namespace DenoBridge.Binary64

/-- The decimals that are read as one number: those between `low` and `high`
    (in the same unit fractions as the number itself, `value`), the ends
    included when `closed` holds. -/
structure Basin where
  low : Nat
  value : Nat
  high : Nat
  unit : Nat
  closed : Bool

/-- The basin of `mantissa * 2 ^ exponent`. -/
def basin (mantissa : Nat) (exponent : Int) : Basin :=
  let below := if mantissa = Nat.pow 2 52 ∧ exponent > leastExponent then 1 else 2
  let scale := if 0 ≤ exponent then Nat.pow 2 exponent.natAbs else 1
  let unit := if 0 ≤ exponent then 4 else 4 * Nat.pow 2 exponent.natAbs
  ⟨(4 * mantissa - below) * scale, 4 * mantissa * scale, (4 * mantissa + 2) * scale, unit,
    mantissa % 2 = 0⟩

/-- Does `digits * num / den` lie in the basin? -/
def Basin.holds (b : Basin) (digits num den : Nat) : Bool :=
  let point := digits * num * b.unit
  let low := b.low * den
  let high := b.high * den
  (low < point && point < high) || (b.closed && (point == low || point == high))

/-- The number of digits before the point of `num / den`; 0 or negative when
    zeros follow the point. -/
def digitsBefore (num den : Nat) : Int :=
  if den ≤ num then (Nat.toDigits 10 (num / den)).length
  else 1 - (Nat.toDigits 10 ((den - 1) / num)).length

/-- The best decimal of `count` digits in the basin: its digits and the power
    of ten they count. -/
def Basin.bestOf (b : Basin) (place : Int) (count : Nat) : Option (Nat × Int) :=
  let power : Int := place - count
  let num := if 0 ≤ power then Nat.pow 10 power.natAbs else 1
  let den := if 0 ≤ power then 1 else Nat.pow 10 power.natAbs
  let below := b.value * den / (num * b.unit)
  let rest := b.value * den - below * num * b.unit
  let aboveIsNearer := 2 * rest > num * b.unit
  let order := if aboveIsNearer then [below + 1, below] else [below, below + 1]
  (order.find? fun digits => b.holds digits num den).map (·, power)

/-- The shortest decimal in the basin. -/
def Basin.shortest (b : Basin) : Nat × Int :=
  let place := digitsBefore b.value b.unit
  ((List.range 17).findSome? fun n => b.bestOf place (n + 1)).getD (0, 0)

/-- Digits and a power of ten in positional or scientific notation. -/
def layOut (digits : Nat) (power : Int) : String :=
  let figures := (Nat.toDigits 10 digits).reverse.dropWhile (· == '0') |>.reverse
  let point : Int := (Nat.toDigits 10 digits).length + power
  if -4 < point ∧ point ≤ 16 then
    if point ≤ 0 then
      "0." ++ String.ofList (List.replicate point.natAbs '0' ++ figures)
    else if figures.length ≤ point.natAbs then
      String.ofList (figures ++ List.replicate (point.natAbs - figures.length) '0') ++ ".0"
    else
      String.ofList (figures.take point.natAbs) ++ "." ++ String.ofList (figures.drop point.natAbs)
  else
    let exponent := point - 1
    let tail := if figures.length ≤ 1 then "" else "." ++ String.ofList (figures.drop 1)
    let width := Nat.toDigits 10 exponent.natAbs
    String.ofList (figures.take 1) ++ tail ++ (if exponent < 0 then "e-" else "e+") ++
      String.ofList (List.replicate (2 - width.length) '0' ++ width)

/-- The text of a number. -/
def text : Binary64 → String
  | .notANumber => "nan"
  | .infinite negative => if negative then "-inf" else "inf"
  | .finite negative mantissa exponent =>
    let magnitude :=
      if mantissa = 0 then "0.0"
      else
        let (digits, power) := (basin mantissa exponent).shortest
        layOut digits power
    if negative then "-" ++ magnitude else magnitude

end DenoBridge.Binary64
