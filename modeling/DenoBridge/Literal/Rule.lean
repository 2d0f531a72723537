import DenoBridge.Literal.Token

/-! # Rules

    What expressions are made of is said by rules.  A rule lists choices, and
    the first one that fits counts.  Some choices are hints: they fit what is
    wrong in a common way, and are looked at only to say so.
-/

namespace DenoBridge.Literal

/-! ## Section 1: Expressions -/

/-- The kinds of expressions. -/
inductive Kind where
  | name
  | truth (value : Bool)
  | absence
  | dots
  | number
  | quotation
  | tuple
  | set
  | dictionary
  /-- An operator before an expression, or between two. -/
  | operation
  | comparison
  | conditional
  | assignment
  | lambda
  | attribute
  | call
  | starred
  | awaited
  | yielded
  | generator
  | setComprehension
  | dictionaryComprehension
  deriving Repr, DecidableEq

/-- What messages call expressions of a kind. -/
def Kind.text : Kind → String
  | .name => "name"
  | .truth value => if value then "True" else "False"
  | .absence => "None"
  | .dots => "ellipsis"
  | .number | .quotation => "literal"
  | .tuple => "tuple"
  | .set => "set display"
  | .dictionary => "dict literal"
  | .operation => "expression"
  | .comparison => "comparison"
  | .conditional => "conditional expression"
  | .assignment => "named expression"
  | .lambda => "lambda"
  | .attribute => "attribute"
  | .call => "function call"
  | .starred => "starred"
  | .awaited => "await expression"
  | .yielded => "yield expression"
  | .generator => "generator expression"
  | .setComprehension => "set comprehension"
  | .dictionaryComprehension => "dict comprehension"

/-- What a part of a rule stands for. -/
inductive Node where
  | nothing
  | token (token : Token)
  | many (items : List Node)
  | expression (kind : Kind) (parts : List Node)

/-- The items of a node that has any. -/
def Node.items : Node → List Node
  | .many items => items
  | _ => []

/-- The node at a place in a list. -/
def nodeAt (place : Nat) (nodes : List Node) : Node :=
  (nodes[place]?).getD .nothing

/-! ## Section 2: Rules -/

/-- The rules. -/
inductive Rule where
  | whole
  | expressions
  | expression
  | quietExpression
  | lambda
  | lambdaParameters
  | lambdaParameter
  | lambdaDefault
  | parameterDefault
  | lambdaStars
  | lambdaLast
  | starExpressions
  | starExpression
  | starNamedExpressions
  | starNamedExpression
  | assignment
  | namedExpression
  | namedHint
  | disjunction
  | conjunction
  | inversion
  | comparison
  | bitOr
  | bitXor
  | bitAnd
  | shift
  | sum
  | term
  | factor
  | power
  | awaited
  | primary
  | atom
  | quotations
  | tuple
  | group
  | yielded
  | generator
  | set
  | setComprehension
  | dictionary
  | dictionaryComprehension
  | pairs
  | pair
  | faultyPairs
  | faultyPair
  | clauses
  | clause
  | targets
  | target
  | targetAtom
  | targetPrimary
  | arguments
  | argumentList
  | keywordArguments
  | keywordOrStarred
  | keywordOrUnpacked
  | starredExpression
  deriving Repr, DecidableEq

/-- A part of a choice. -/
inductive Part where
  /-- An operator or a reserved word. -/
  | word (text : String)
  | token (kind : TokenKind)
  /-- One of these names. -/
  | name (texts : List String)
  | rule (rule : Rule)
  /-- One of several sequences, the first that fits. -/
  | either (choices : List (List Part))
  /-- A sequence, or nothing. -/
  | maybe (part : List Part)
  /-- A sequence as often as it fits, but at least so often. -/
  | many (least : Nat) (part : List Part)
  /-- A sequence at least once, with a separator between each two. -/
  | listed (separator : String) (part : List Part)
  /-- Whether a sequence fits here, which takes nothing. -/
  | ahead (wanted : Bool) (part : List Part)
  /-- From here on no other choice counts. -/
  | committed

/-- What becomes of a choice whose parts fit. -/
inductive Outcome where
  | accept (node : Node)
  /-- The choice does not count. -/
  | decline
  /-- The text is wrong, with a message. -/
  | complain (message : String)

/-- A choice of a rule. -/
structure Choice where
  /-- Does it count only when hints are wanted? -/
  isHint : Bool
  parts : List Part
  /-- The outcome for the nodes of the parts, and the number of brackets that
      are open behind the last token. -/
  outcome : List Node → Nat → Outcome

/-- The body of a rule. -/
structure Body where
  choices : List Choice
  /-- Choices that go on with the node of the rule itself, as often as one of
      them fits. -/
  steps : List Choice
  /-- Is what was found at a place kept? -/
  isKept : Bool
  /-- Are hints left out in all parts? -/
  isQuiet : Bool

end DenoBridge.Literal
