/-! # Decimal digits

    Whole numbers as the digits that write them.  A number that is written
    with more than `digitLimit` digits is refused before it is computed,
    since the conversion takes quadratic time.
-/

namespace DenoBridge.Digits

/-- The greatest number of digits that is converted. -/
def digitLimit : Nat := 4300

/-- A run of digits over the limit, by its length. -/
structure TooMany where
  count : Nat
  deriving Repr, DecidableEq

/-- The wording of a refusal. -/
def TooMany.message (refusal : TooMany) : String :=
  s!"Exceeds the limit ({digitLimit} digits) for integer string conversion: value has " ++
    s!"{refusal.count} digits; use sys.set_int_max_str_digits() to increase the limit"

/-- The number that digits write, the most significant first. -/
def value (digits : List Char) : Nat :=
  digits.foldl (fun n c => 10 * n + (c.toNat - '0'.toNat)) 0

/-- The number that digits write, unless there are too many of them. -/
def value? (digits : List Char) : Except TooMany Nat :=
  if digits.length > digitLimit then .error ⟨digits.length⟩ else .ok (value digits)

/-- The leading digits of a text and what follows them. -/
def span (text : List Char) : List Char × List Char :=
  (text.takeWhile Char.isDigit, text.dropWhile Char.isDigit)

theorem length_span_le (text : List Char) : (span text).2.length ≤ text.length := by
  simpa [span] using (List.dropWhile_sublist Char.isDigit (l := text)).length_le

theorem length_span_lt {text : List Char} (h : (span text).1 ≠ []) :
    (span text).2.length < text.length := by
  have hlen := congrArg List.length <|
    List.takeWhile_append_dropWhile (p := Char.isDigit) (l := text)
  have : 0 < (span text).1.length := List.length_pos_iff.2 h
  simp only [span, List.length_append] at *
  omega

/-- The value of a hexadecimal digit. -/
def hexDigit? (c : Char) : Option Nat :=
  if c.isDigit then some (c.toNat - '0'.toNat)
  else if 'a' ≤ c ∧ c ≤ 'f' then some (c.toNat - 'a'.toNat + 10)
  else if 'A' ≤ c ∧ c ≤ 'F' then some (c.toNat - 'A'.toNat + 10)
  else none

end DenoBridge.Digits
