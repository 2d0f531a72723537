import DenoBridge.Number.Digits
import DenoBridge.Text.DigitChar
import DenoBridge.Text.Quoted

/-! # Numerals

    A whole number that is written with decimal digits of any scripts.  A
    text that holds something else is refused with a message that quotes its
    beginning, one that starts with too many digits before it is looked at
    any further.
-/

namespace DenoBridge.Numeral

/-- Why a text is no numeral. -/
inductive Fault where
  | tooMany (e : Digits.TooMany)
  /-- The text is empty or holds a character that is no decimal digit. -/
  | notDecimal (text : List Char)
  deriving Repr, DecidableEq

/-- How many characters of a quoted text a message shows. -/
def shownLimit : Nat := 200

/-- The wording of a fault. -/
def Fault.message : Fault → String
  | .tooMany e => e.message
  | .notDecimal text =>
    "invalid literal for int() with base 10: " ++
      String.ofList ((Text.quote (String.ofList text)).toList.take shownLimit)

/-- The number that decimal digits write, the most significant first. -/
def value (digits : List Char) : Nat :=
  digits.foldl (fun n c => 10 * n + (Text.decimal? c).getD 0) 0

/-- The number that a text writes. -/
def read (text : List Char) : Except Fault Nat :=
  let digits := text.takeWhile Text.isDecimal
  if Digits.digitLimit < digits.length then .error (.tooMany ⟨digits.length⟩)
  else if digits.isEmpty || digits.length < text.length then .error (.notDecimal text)
  else .ok (value digits)

end DenoBridge.Numeral
