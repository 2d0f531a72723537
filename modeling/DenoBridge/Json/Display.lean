import DenoBridge.Json.Value
import DenoBridge.Number.Shortest
import DenoBridge.Text.Quoted

/-! # JSON values in messages

    The text of a value in diagnostics: texts are quoted, members stand in
    the order in which their names first came, and constants are written as
    `None`, `True` and `False`.
-/

namespace DenoBridge.Json

/-- The members that count, each name once, at the place where it first came
    and with the value that came last. -/
def settle (members : List (List Glyph × String)) : List (List Glyph × String) :=
  members.foldl (fun settled member =>
    if settled.any (·.1 == member.1) then
      settled.map fun other => if other.1 == member.1 then member else other
    else settled ++ [member]) []

mutual

/-- The text of a value. -/
def display : Json → String
  | null => "None"
  | bool value => if value then "True" else "False"
  | integer value => toString value
  | real value => value.text
  | string value => Text.quoteGlyphs value
  | array items => "[" ++ ", ".intercalate (displayItems items) ++ "]"
  | object members =>
    let entries := (settle (displayMembers members)).map fun member =>
      Text.quoteGlyphs member.1 ++ ": " ++ member.2
    "\x7b" ++ ", ".intercalate entries ++ "\x7d"

/-- The texts of the items of an array. -/
def displayItems : List Json → List String
  | [] => []
  | item :: rest => display item :: displayItems rest

/-- The names of an object with the texts of their values. -/
def displayMembers : List (List Glyph × Json) → List (List Glyph × String)
  | [] => []
  | (name, value) :: rest => (name, display value) :: displayMembers rest

end

end DenoBridge.Json
