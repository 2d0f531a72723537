/-! # Character classes by turning points

    A class of characters is stored as the ascending list of code points at
    which membership changes, starting outside the class.  A code point
    belongs to the class when an odd number of turns lies at or below it.
-/

namespace DenoBridge.Text

/-- Is the code point inside the class with these turning points? -/
def insideTurns : List Nat → Nat → Bool
  | [], _ => false
  | turn :: more, code => if code < turn then false else !insideTurns more code

end DenoBridge.Text
