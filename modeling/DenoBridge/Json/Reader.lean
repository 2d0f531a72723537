import DenoBridge.Json.Token

/-! # Reading JSON

    The structural half of reading JSON: a machine that takes one token at a
    time.  Its state says which token may come next and holds the brackets
    that are open, so that no recursion is needed.  Reading is refused for
    three reasons: the text is malformed, a number has too many digits, or
    more brackets are open at once than a limit allows.  The first reason met
    wins.
-/

namespace DenoBridge.Json

/-! ## Section 1: States -/

/-- Why a text is not read. -/
inductive Failure where
  | malformed
  | tooManyDigits (refusal : Digits.TooMany)
  | tooDeep (shape : Shape)
  deriving Repr, DecidableEq

/-- A bracketed value that is not closed yet: the items so far, the last one
    first; for an object also the name whose value is being read. -/
inductive Frame where
  | array (items : List Json)
  | object (members : List (List Glyph × Json)) (name : List Glyph)

/-- What has been read and what may follow. -/
inductive State where
  /-- A value must follow. -/
  | wantValue (around : List Frame)
  /-- A bracket was opened: an item follows, or the closing bracket. -/
  | wantItem (around : List Frame)
  /-- A name follows, or the closing bracket if no member was read yet. -/
  | wantName (members : List (List Glyph × Json)) (around : List Frame)
  /-- A name was read: a colon follows. -/
  | wantColon (members : List (List Glyph × Json)) (name : List Glyph) (around : List Frame)
  /-- A value was read inside a bracket: a comma follows, or the closing one. -/
  | wantMore (frame : Frame) (around : List Frame)
  /-- The whole value was read. -/
  | done (value : Json)

/-- The state after a value was read inside the open brackets. -/
def State.supply (value : Json) : List Frame → State
  | [] => .done value
  | .array items :: rest => .wantMore (.array (value :: items)) rest
  | .object members name :: rest => .wantMore (.object ((name, value) :: members) name) rest

/-! ## Section 2: Steps -/

/-- The state after the first token of a value. -/
def State.begin (limit : Nat) (around : List Frame) : Token → Except Failure State
  | .atom value => .ok (.supply value around)
  | .whole negative digits =>
    match Digits.value? digits with
    | .ok n => .ok (.supply (.integer (if negative then -(n : Int) else n)) around)
    | .error refusal => .error (.tooManyDigits refusal)
  | .opening shape =>
    if around.length ≥ limit then .error (.tooDeep shape)
    else
      match shape with
      | .array => .ok (.wantItem around)
      | .object => .ok (.wantName [] around)
  | _ => .error .malformed

/-- The state after one more token. -/
def State.step (limit : Nat) : State → Token → Except Failure State
  | .wantValue around, token => begin limit around token
  | .wantItem around, .closing .array => .ok (.supply (.array []) around)
  | .wantItem around, token => begin limit (.array [] :: around) token
  | .wantName members around, .atom (.string name) => .ok (.wantColon members name around)
  | .wantName [] around, .closing .object => .ok (.supply (.object []) around)
  | .wantColon members name around, .colon => .ok (.wantValue (.object members name :: around))
  | .wantMore (.array items) around, .comma => .ok (.wantValue (.array items :: around))
  | .wantMore (.array items) around, .closing .array =>
    .ok (.supply (.array items.reverse) around)
  | .wantMore (.object members _) around, .comma => .ok (.wantName members around)
  | .wantMore (.object members _) around, .closing .object =>
    .ok (.supply (.object members.reverse) around)
  | _, _ => .error .malformed

/-- The value that tokens spell. -/
def ofTokens (limit : Nat) (tokens : List Token) : Except Failure Json :=
  match tokens.foldlM (State.step limit) (.wantValue []) with
  | .ok (.done value) => .ok value
  | .ok _ => .error .malformed
  | .error failure => .error failure

/-- The value that a text spells, with at most `limit` brackets open at once. -/
def read (limit : Nat) (text : List Char) : Except Failure Json :=
  ofTokens limit (lex text)

end DenoBridge.Json
