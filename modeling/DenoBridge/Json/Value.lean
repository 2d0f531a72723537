import DenoBridge.Number.Binary64
import DenoBridge.Text.Glyph

/-! # JSON values

    Whole numbers and floating-point numbers are told apart, a text may hold
    half a surrogate pair, and an object keeps all its members in the order
    they were written; where a name comes twice, the last member counts.
-/

namespace DenoBridge

/-- A JSON value. -/
inductive Json where
  | null
  | bool (value : Bool)
  | integer (value : Int)
  | real (value : Binary64)
  | string (value : List Glyph)
  | array (items : List Json)
  | object (members : List (List Glyph × Json))
  deriving Repr

namespace Json

/-- The value of the last member with this name. -/
def member? (members : List (List Glyph × Json)) (name : String) : Option Json :=
  members.reverse.lookup (Glyph.ofString name)

/-- The members of an object; another value has none. -/
def members : Json → List (List Glyph × Json)
  | object members => members
  | _ => []

/-- The value under a name in an object. -/
def get? (value : Json) (name : String) : Option Json :=
  member? value.members name

/-- The string that a value is. -/
def string? : Json → Option String
  | string glyphs => Glyph.string? glyphs
  | _ => none

/-- The text that a value is, with the halves in it. -/
def text? : Json → Option (List Glyph)
  | string glyphs => some glyphs
  | _ => none

theorem text?_eq_some_iff {value : Json} {text : List Glyph} :
    value.text? = some text ↔ value = .string text := by
  cases value with
  | string glyphs => rw [text?, Option.some.injEq, string.injEq]
  | _ => simp [text?]

theorem string?_eq_some_iff {value : Json} {text : String} :
    value.string? = some text ↔ value = .string (Glyph.ofString text) := by
  cases value with
  | string glyphs =>
    rw [string?, Glyph.string?_eq_some_iff, string.injEq]
  | _ => simp [string?]

/-- Is the value an object? -/
def isObject : Json → Bool
  | object _ => true
  | _ => false

/-- What messages call values of this kind. -/
def typeName : Json → String
  | null => "NoneType"
  | bool _ => "bool"
  | integer _ => "int"
  | real _ => "float"
  | string _ => "str"
  | array _ => "list"
  | object _ => "dict"

end Json

end DenoBridge
