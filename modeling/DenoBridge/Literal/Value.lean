import DenoBridge.Literal.Reader

/-! # Values

    An expression writes a value when it is made of numbers, quotations and a
    few words, or of tuples, sets and dictionaries of values.  What can change
    is no element of a set and no key of a dictionary.
-/

namespace DenoBridge.Literal

/-! ## Section 1: Values -/

/-- A value, as far as it matters where it can stand. -/
inductive Value where
  | number (imaginary : Bool)
  /-- A truth value, a text, bytes or one of the other words. -/
  | simple
  | tuple (items : List Value)
  | set
  | dictionary

/-- Why an expression writes no value. -/
inductive ValueFault where
  /-- Values of this kind can be no elements or keys. -/
  | changeable (kind : String)
  /-- A dictionary is unpacked into another one. -/
  | unpacked
  /-- The expression would have to be computed. -/
  | computed
  deriving Repr, DecidableEq

/-- The wording of a fault. -/
def ValueFault.message : ValueFault → String
  | changeable kind => s!"unhashable type: '{kind}'"
  | unpacked => "malformed node or string: None"
  | computed => "malformed node or string on line 1"

/-- The kind of the part of a value that can change. -/
def Value.changeable? : Nat → Value → Option String
  | _, .set => some "set"
  | _, .dictionary => some "dict"
  | fuel + 1, .tuple items => items.findSome? (changeable? fuel)
  | _, _ => none

/-! ## Section 2: Numbers -/

/-- Does a number end in the mark of an imaginary one? -/
def isImaginary (token : Token) : Bool :=
  token.text.getLast?.any fun c => c == 'j' || c == 'J'

/-- The number that an expression without signs is: whether it is imaginary. -/
def number? : Node → Option Bool
  | .expression .number [.token token] => some (isImaginary token)
  | _ => none

/-- Is a token a sign? -/
def isSign (token : Token) : Bool :=
  token.text == ['+'] || token.text == ['-']

/-- The number that an expression is, perhaps with a sign before it. -/
def signed? : Node → Option Bool
  | .expression .operation [.token sign, operand] => if isSign sign then number? operand else none
  | node => number? node

/-- The number that an expression writes; a complex one has a real part and an
    imaginary one. -/
def complex? : Node → Option Bool
  | .expression .operation [left, .token sign, right] =>
    match isSign sign, signed? left, number? right with
    | true, some false, some true => some true
    | _, _, _ => none
  | node => signed? node

/-! ## Section 3: Evaluation -/

/-- Is a node a quotation in which braces enclose expressions? -/
def isTemplate : Node → Bool
  | .token token => (Quotation.ofText token.text).isTemplate
  | _ => false

mutual

/-- The value that an expression writes. -/
def evaluate : Nat → Node → Except ValueFault Value
  | 0, _ => .error .computed
  | fuel + 1, node =>
    match node with
    | .expression (.truth _) _ | .expression .absence _ | .expression .dots _ => .ok .simple
    | .expression .quotation [.many items] =>
      if items.any isTemplate then .error .computed else .ok .simple
    | .expression .tuple items => (evaluateAll fuel items).map .tuple
    | .expression .set items => evaluateElements fuel items
    | .expression .dictionary items => evaluatePairs fuel items
    | .expression .call [.expression .name [.token name], _, .nothing, _] =>
      if name.text = "set".toList then .ok .set else .error .computed
    | node =>
      match complex? node with
      | some imaginary => .ok (.number imaginary)
      | none => .error .computed

/-- The values of expressions. -/
def evaluateAll : Nat → List Node → Except ValueFault (List Value)
  | 0, _ => .error .computed
  | _, [] => .ok []
  | fuel + 1, node :: nodes => do
    let value ← evaluate fuel node
    return value :: (← evaluateAll fuel nodes)

/-- A set of elements. -/
def evaluateElements : Nat → List Node → Except ValueFault Value
  | 0, _ => .error .computed
  | _, [] => .ok .set
  | fuel + 1, node :: nodes => do
    match (← evaluate fuel node).changeable? fuel with
    | some kind => throw (.changeable kind)
    | none => evaluateElements fuel nodes

/-- A dictionary of pairs. -/
def evaluatePairs : Nat → List Node → Except ValueFault Value
  | 0, _ => .error .computed
  | _, [] => .ok .dictionary
  | fuel + 1, pair :: pairs => do
    match pair with
    | .many [key, _, value] => do
      let key ← evaluate fuel key
      let _ ← evaluate fuel value
      match key.changeable? fuel with
      | some kind => throw (.changeable kind)
      | none => evaluatePairs fuel pairs
    | _ => throw .unpacked

end

/-- Is the value of an expression with so many tokens known? -/
def valueFault? (fuel : Nat) (node : Node) : Option ValueFault :=
  match evaluate fuel node with
  | .ok _ => none
  | .error fault => some fault

end DenoBridge.Literal
