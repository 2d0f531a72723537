/-! # Binary floating-point numbers

    Numbers with a 53-bit mantissa, as exact values: a mantissa times a power
    of two, an infinity, or not a number.  A decimal is read as the nearest
    such number, a tie going to the even mantissa.
-/

namespace DenoBridge

/-- A binary floating-point number of 64 bits.  In `finite negative m q` the
    magnitude is `m * 2 ^ q` with `m < 2 ^ 53`. -/
inductive Binary64 where
  | finite (negative : Bool) (mantissa : Nat) (exponent : Int)
  | infinite (negative : Bool)
  | notANumber
  deriving Repr, DecidableEq

namespace Binary64

/-- The smallest exponent. -/
def leastExponent : Int := -1074

/-- The largest exponent. -/
def greatestExponent : Int := 971

/-- The quotient rounded to the nearest whole number, a half to the even
    neighbour. -/
def divideToEven (num den : Nat) : Nat :=
  let quotient := num / den
  let twice := 2 * (num % den)
  if twice > den ∨ (twice = den ∧ quotient % 2 = 1) then quotient + 1 else quotient

/-- `num / den` in units of `2 ^ exponent`: a fraction with the same value. -/
def inUnits (num den : Nat) (exponent : Int) : Nat × Nat :=
  let scale := Nat.pow 2 exponent.natAbs
  if exponent < 0 then (num * scale, den) else (num, den * scale)

/-- The exponent at which the quotient, cut to a whole number, has 53 bits;
    never below the smallest exponent. -/
def exponentOf (num den : Nat) : Int :=
  let guess : Int := (Nat.log2 num : Int) - Nat.log2 den - 53
  let (n, d) := inUnits num den guess
  max leastExponent (if n / d < Nat.pow 2 53 then guess else guess + 1)

/-- The number nearest to the quotient. -/
def ofQuotient (negative : Bool) (num den : Nat) : Binary64 :=
  if num = 0 then .finite negative 0 leastExponent
  else
    let exponent := exponentOf num den
    let (n, d) := inUnits num den exponent
    let mantissa := divideToEven n d
    let (mantissa, exponent) :=
      if mantissa = Nat.pow 2 53 then (Nat.pow 2 52, exponent + 1) else (mantissa, exponent)
    if exponent > greatestExponent then .infinite negative
    else .finite negative mantissa exponent

/-- The number nearest to `digits * 10 ^ exponent`, where `digits` is written
    with `width` digits.  Decimals far outside the range are not computed. -/
def ofDecimal (negative : Bool) (digits width : Nat) (exponent : Int) : Binary64 :=
  if digits = 0 then .finite negative 0 leastExponent
  else if exponent + width > 400 ∧ exponent > 400 then .infinite negative
  else if exponent + width < -400 then .finite negative 0 leastExponent
  else if exponent < 0 then ofQuotient negative digits (Nat.pow 10 exponent.natAbs)
  else ofQuotient negative (digits * Nat.pow 10 exponent.natAbs) 1

/-- The whole number that this number is, if it is one. -/
def integer? : Binary64 → Option Int
  | .finite negative mantissa exponent =>
    let scale := Nat.pow 2 exponent.natAbs
    let magnitude? :=
      if 0 ≤ exponent then some (mantissa * scale)
      else if mantissa % scale = 0 then some (mantissa / scale)
      else none
    magnitude?.map fun magnitude => if negative then -(magnitude : Int) else magnitude
  | _ => none

end Binary64

end DenoBridge
