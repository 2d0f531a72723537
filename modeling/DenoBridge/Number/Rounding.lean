/-! # Rounded quotients

    A quotient of whole numbers rounded to the nearest whole number, and to
    the even one when two are equally near.  Main statement: it is at most
    half of the divisor away (`roundQuotient_near`).
-/

namespace DenoBridge

/-- A quotient rounded to the nearest whole number, to the even one of two. -/
def roundQuotient (num den : Nat) : Nat :=
  let q := num / den
  let twice := 2 * (num % den)
  if twice < den then q else if den < twice then q + 1 else q + q % 2

theorem roundQuotient_near (num : Nat) {den : Nat} (h₀ : 0 < den) :
    2 * (roundQuotient num den * den) ≤ 2 * num + den ∧
      2 * num ≤ 2 * (roundQuotient num den * den) + den := by
  have hsplit : den * (num / den) + num % den = num := Nat.div_add_mod num den
  have hlt : num % den < den := Nat.mod_lt _ h₀
  have hswap : num / den * den = den * (num / den) := Nat.mul_comm _ _
  have hnext : (num / den + 1) * den = den * (num / den) + den := by
    rw [Nat.add_mul, hswap, Nat.one_mul]
  unfold roundQuotient
  dsimp only
  split
  · rw [hswap]
    omega
  · split
    · rw [hnext]
      omega
    · rcases Nat.mod_two_eq_zero_or_one (num / den) with h | h
      · rw [h, Nat.add_zero, hswap]
        omega
      · rw [h, hnext]
        omega

end DenoBridge
