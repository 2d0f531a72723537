import DenoBridge.Literal.Quotation
import DenoBridge.Literal.Rule

/-! # The rules of expressions

    `Rule.body` says what each rule consists of.  An operator takes its
    operands from the rule of the operators that bind more tightly; hints
    stand where the mistakes are made that they speak of.
-/

namespace DenoBridge.Literal

/-! ## Section 1: Outcomes -/

/-- The node of one part. -/
def pick (place : Nat) (nodes : List Node) (_ : Nat) : Outcome :=
  .accept (nodeAt place nodes)

/-- The nodes of all parts. -/
def keep (nodes : List Node) (_ : Nat) : Outcome :=
  .accept (.many nodes)

/-- An expression made of all parts. -/
def make (kind : Kind) (nodes : List Node) (_ : Nat) : Outcome :=
  .accept (.expression kind nodes)

/-- The first part, or an expression if others follow it. -/
def chain (kind : Kind) (nodes : List Node) (_ : Nat) : Outcome :=
  if (nodeAt 1 nodes).items.isEmpty then .accept (nodeAt 0 nodes)
  else .accept (.expression kind nodes)

/-- A single item without a comma after it, or a tuple. -/
def series (nodes : List Node) (_ : Nat) : Outcome :=
  match (nodeAt 0 nodes).items, nodeAt 1 nodes with
  | [item], .nothing => .accept item
  | items, _ => .accept (.expression .tuple items)

/-- A tuple between brackets. -/
def bracketed (nodes : List Node) (_ : Nat) : Outcome :=
  match (nodeAt 1 nodes).items with
  | first :: _ :: others => .accept (.expression .tuple (first :: (nodeAt 0 others).items))
  | _ => .accept (.expression .tuple [])

/-- An expression made of the items of its second part. -/
def itemsOf (kind : Kind) (nodes : List Node) (_ : Nat) : Outcome :=
  .accept (.expression kind (nodeAt 1 nodes).items)

/-- Quotations side by side. -/
def quotationsOf (nodes : List Node) (_ : Nat) : Outcome :=
  let texts := (nodeAt 0 nodes).items.filterMap fun
    | .token token => some token.text
    | _ => none
  match quotationsFault? texts with
  | some fault => .complain fault.message
  | none => .accept (.expression .quotation nodes)

/-- The message. -/
def say (message : String) (_ : List Node) (_ : Nat) : Outcome :=
  .complain message

/-- What messages call a node. -/
def Node.text : Node → String
  | .expression kind _ => kind.text
  | _ => ""

/-- The message about the kind of the expression at a place. -/
def sayKind (place : Nat) (before after : String) (nodes : List Node) (_ : Nat) : Outcome :=
  .complain (before ++ (nodeAt place nodes).text ++ after)

/-- The text of a name, whether it stands alone or as an expression. -/
def Node.name? : Node → Option String
  | .token t => some (String.ofList t.text)
  | .expression .name [.token t] => some (String.ofList t.text)
  | _ => none

/-- Names that were once followed by expressions without brackets. -/
def statementNames : List String :=
  ["print", "exec"]

/-- The hint to a comma, inside brackets. -/
def forgottenComma (nodes : List Node) (level : Nat) : Outcome :=
  if level = 0 || (nodeAt 1 nodes).name?.any statementNames.contains then .decline
  else .complain "invalid syntax. Perhaps you forgot a comma?"

/-- The hint to brackets behind a name. -/
def forgottenBrackets (nodes : List Node) (_ : Nat) : Outcome :=
  match (nodeAt 0 nodes).name?.filter statementNames.contains with
  | some name =>
    .complain s!"Missing parentheses in call to '{name}'. Did you mean {name}(...)?"
  | none => .decline

/-- The first expression inside another one to which nothing can be
    assigned. -/
def invalidTarget? : Nat → Node → Option Node
  | fuel + 1, .expression kind parts =>
    match kind, parts with
    | .name, _ | .attribute, _ => none
    | .tuple, items => items.findSome? (invalidTarget? fuel)
    | .starred, [_, inner] => invalidTarget? fuel inner
    | .comparison, [left, .many (.many [.token op, _] :: _)] =>
      if op.text = "in".toList then invalidTarget? fuel left
      else some (.expression .comparison parts)
    | kind, parts => some (.expression kind parts)
  | _, _ => none

/-- The hint to what is assigned to. -/
def badTarget (nodes : List Node) (_ : Nat) : Outcome :=
  match invalidTarget? 100 (nodeAt 2 nodes) with
  | some found => .complain ("cannot assign to " ++ found.text)
  | none => .complain "invalid syntax"

/-- Does a node hold something that is unpacked into keyword arguments? -/
def unpacks : Nat → Node → Bool
  | fuel + 1, .many items =>
    (match items with
      | .token star :: _ => star.text == "**".toList
      | _ => false) || items.any (unpacks fuel)
  | _, _ => false

/-- The hint to the order of arguments. -/
def badOrder (nodes : List Node) (_ : Nat) : Outcome :=
  .complain ("positional argument follows keyword argument" ++
    if unpacks 5 (nodeAt 0 nodes) then " unpacking" else "")

/-- The hint to brackets around a generator, if it is not the only argument. -/
def bareGenerator (nodes : List Node) (_ : Nat) : Outcome :=
  if (nodeAt 0 (nodeAt 0 nodes).items).items.length ≤ 1 then .decline
  else .complain "Generator expression must be parenthesized"

/-! ## Section 2: Choices -/

open DenoBridge.Literal.Part

/-- A choice. -/
def choice (parts : List Part) (outcome : List Node → Nat → Outcome) : Choice :=
  ⟨false, parts, outcome⟩

/-- A hint. -/
def hint (parts : List Part) (outcome : List Node → Nat → Outcome) : Choice :=
  ⟨true, parts, outcome⟩

/-- A rule that is nothing but another one. -/
def only (other : Rule) : Choice :=
  choice [rule other] (pick 0)

/-- A rule. -/
def plain (choices : List Choice) : Body :=
  ⟨choices, [], false, false⟩

/-- A rule whose findings are kept. -/
def kept (choices : List Choice) : Body :=
  ⟨choices, [], true, false⟩

/-- The rule of operators that bind to the left, over the rule of their
    operands. -/
def leftward (operand : Rule) (operators : List String) : Body :=
  ⟨[only operand], operators.map fun operator =>
    choice [word operator, rule operand] (make .operation), true, false⟩

/-- A comma that may follow a list. -/
def lastComma : Part := maybe [word ","]

/-- No sign of an assignment. -/
def noAssignment : Part := ahead false [either [[word "="], [word ":="]]]

/-- One expression that may be given a name. -/
def element : List Part :=
  [either [[rule .assignment], [rule .expression, ahead false [word ":="]]]]

/-- The end of a parameter. -/
def parameterEnd : Part := either [[word ","], [ahead true [word ":"]]]

/-- A parameter with or without a default value. -/
def anyParameter : List Part :=
  [token .name, maybe [rule .parameterDefault], parameterEnd]

/-- Parameters without default values, and a slash behind them. -/
def requiredSlash : List Part :=
  [many 1 [rule .lambdaParameter], word "/", parameterEnd]

/-- Parameters of which some have default values, and a slash behind them. -/
def optionalSlash : List Part :=
  [many 0 [rule .lambdaParameter], many 1 [rule .lambdaDefault], word "/", parameterEnd]

/-- All parameters. -/
def parameters : List Choice :=
  let required := many 0 [rule .lambdaParameter]
  let optional := many 0 [rule .lambdaDefault]
  let stars := maybe [rule .lambdaStars]
  [choice (requiredSlash ++ [required, optional, stars]) keep,
    choice (optionalSlash ++ [optional, stars]) keep,
    choice [many 1 [rule .lambdaParameter], optional, stars] keep,
    choice [many 1 [rule .lambdaDefault], stars] keep,
    choice [rule .lambdaStars] keep]

/-- The hints to the order of parameters. -/
def parameterHints : List Choice :=
  let slashed := either [requiredSlash, optionalSlash]
  [hint [many 0 [rule .lambdaParameter], either [optionalSlash, [many 1 [rule .lambdaDefault]]],
      rule .lambdaParameter] (say "non-default argument follows default argument"),
    hint [many 0 [rule .lambdaParameter], word "(", listed "," [token .name], lastComma, word ")"]
      (say "Lambda expression parameters cannot be parenthesized"),
    hint [word "/", word ","] (say "at least one argument must precede /"),
    hint [slashed, many 0 anyParameter, word "/"] (say "/ may appear only once"),
    hint [maybe [slashed], many 0 anyParameter, word "*",
      either [[word ","], [rule .lambdaParameter]], many 0 anyParameter, word "/"]
      (say "/ must be ahead of *"),
    hint [many 1 anyParameter, word "/", word "*"] (say "expected comma between / and *")]

/-- The hints to the parameter that takes all others by their places. -/
def starHints : List Choice :=
  let starred := either [[rule .lambdaParameter], [word ","]]
  [hint [word "*", either [[word ":"], [word ",", either [[word ":"], [word "**"]]]]]
      (say "named arguments must follow bare *"),
    hint [word "*", token .name, word "="]
      (say "var-positional argument cannot have default value"),
    hint [word "*", starred, many 0 anyParameter, word "*", starred]
      (say "* argument may appear only once")]

/-- The hints to the parameter that takes all others by their names. -/
def lastParameterHints : List Choice :=
  let follows := say "arguments cannot follow var-keyword argument"
  [hint [word "**", token .name, word "="]
      (say "var-keyword argument cannot have default value"),
    hint [word "**", token .name, word ",", token .name] follows,
    hint [word "**", token .name, word ",", either [[word "*"], [word "**"], [word "/"]]] follows]

/-- What tells that a target goes on. -/
def targetGoesOn : List Part := [either [[word "("], [word "."]]]

/-- The hints to comprehensions. -/
def comprehensionHints : List Choice :=
  let target := say "did you forget parentheses around the comprehension target?"
  [hint [either [[word "("], [word "\x7b"]], rule .starredExpression, rule .clauses]
      (say "iterable unpacking cannot be used in comprehension"),
    hint [word "\x7b", rule .starNamedExpression, word ",", rule .starNamedExpressions,
      rule .clauses] target,
    hint [word "\x7b", rule .starNamedExpression, word ",", rule .clauses] target]

/-- What is told about a value that is missing from a dictionary. -/
def valueFaults : List Choice :=
  [choice [rule .expression, word ":", word "*", rule .bitOr]
      (say "cannot use a starred expression in a dictionary value"),
    choice [rule .expression, word ":", ahead true [either [[word "\x7d"], [word ","]]]]
      (say "expression expected after dictionary key and ':'")]

/-- The message about a sign of an assignment after a name. -/
def nameAssigned : String :=
  "invalid syntax. Maybe you meant '==' or ':=' instead of '='?"

/-- The hints to keyword arguments. -/
def keywordHints : List Choice :=
  [hint [word "True", word "="] (say "cannot assign to True"),
    hint [word "False", word "="] (say "cannot assign to False"),
    hint [word "None", word "="] (say "cannot assign to None"),
    hint [token .name, word "=", rule .expression, rule .clauses] (say nameAssigned),
    hint [ahead false [token .name, word "="], rule .expression, word "="]
      (say "expression cannot contain assignment, perhaps you meant \"==\"?")]

/-- The hints to arguments. -/
def argumentHints : List Choice :=
  let generator := "Generator expression must be parenthesized"
  [hint [rule .argumentList, word ",", word "*"]
      (say "iterable argument unpacking follows keyword argument unpacking"),
    hint [rule .expression, rule .clauses, word ",",
      maybe [either [[rule .argumentList], [rule .expression, rule .clauses]]]] (say generator),
    hint [token .name, word "=", rule .expression, rule .clauses] (say nameAssigned),
    hint [rule .argumentList, rule .clauses] bareGenerator,
    hint [rule .argumentList, word ",", rule .expression, rule .clauses] (say generator),
    hint [rule .argumentList, word ",", rule .argumentList] badOrder]

/-- The parts of a clause behind its first word. -/
def clauseParts : List Part :=
  [word "for", rule .targets, word "in", committed, rule .disjunction,
    many 0 [word "if", rule .disjunction]]

/-- The operators of comparisons. -/
def comparisons : List (List Part) :=
  [[word "=="], [word "!="], [word "<="], [word "<"], [word ">="], [word ">"],
    [word "not", word "in"], [word "in"], [word "is", word "not"], [word "is"]]

/-! ## Section 3: Rules -/

/-- What the rules consist of. -/
def Rule.body : Rule → Body
  | whole => plain [choice [rule expressions, many 0 [token .lineEnd], token .textEnd] (pick 0)]
  | expressions => plain [choice [listed "," [rule expression], lastComma] series]
  | expression => kept
      [hint [ahead false [either [[token .name, token .quotation], [name ["_", "case", "match"]]]],
          rule disjunction, rule quietExpression] forgottenComma,
        hint [rule disjunction, word "if", rule disjunction,
          ahead false [either [[word "else"], [word ":"]]]]
          (say "expected 'else' after 'if' expression"),
        hint [token .name, ahead false [word "("], rule starExpressions] forgottenBrackets,
        choice [rule disjunction, word "if", rule disjunction, word "else", rule expression]
          (make .conditional),
        only disjunction,
        only lambda]
  | quietExpression =>
      ⟨[choice [rule disjunction, word "if", rule disjunction, word "else", rule expression]
          (make .conditional),
        only disjunction,
        only lambda], [], false, true⟩
  | lambda => plain
      [choice [word "lambda", maybe [rule lambdaParameters], word ":", rule expression]
        (make .lambda)]
  | lambdaParameters => plain (parameterHints ++ parameters)
  | lambdaParameter => plain [choice [token .name, parameterEnd] keep]
  | lambdaDefault => plain [choice [token .name, rule parameterDefault, parameterEnd] keep]
  | parameterDefault => plain
      [choice [word "=", rule expression] keep,
        hint [word "=", ahead true [either [[word ")"], [word ","]]]]
          (say "expected default value expression")]
  | lambdaStars => plain
      (starHints ++
        [choice [word "*", rule lambdaParameter, many 0 anyParameter, maybe [rule lambdaLast]] keep,
          choice [word "*", word ",", many 1 anyParameter, maybe [rule lambdaLast]] keep,
          only lambdaLast])
  | lambdaLast => plain (lastParameterHints ++ [choice [word "**", rule lambdaParameter] keep])
  | starExpressions => plain [choice [listed "," [rule starExpression], lastComma] series]
  | starExpression => kept
      [choice [word "*", rule bitOr] (make .starred), only expression]
  | starNamedExpressions => plain
      [choice [listed "," [rule starNamedExpression], lastComma] (pick 0)]
  | starNamedExpression => plain
      [choice [word "*", rule bitOr] (make .starred), only namedExpression]
  | assignment => plain
      [choice [token .name, word ":=", committed, rule expression] (make .assignment)]
  | namedExpression => plain
      [only assignment,
        hint [rule namedHint] (pick 0),
        choice [rule expression, ahead false [word ":="]] (pick 0)]
  | namedHint => kept
      [hint [rule expression, word ":=", rule expression]
          (sayKind 0 "cannot use assignment expressions with " ""),
        hint [token .name, word "=", rule bitOr, noAssignment] (say nameAssigned),
        hint [ahead false [either [[rule tuple], [rule generator], [word "True"], [word "None"],
            [word "False"]]],
          rule bitOr, word "=", rule bitOr, noAssignment]
          (sayKind 1 "cannot assign to " " here. Maybe you meant '==' instead of '='?")]
  | disjunction => kept
      [choice [rule conjunction, many 0 [word "or", rule conjunction]] (chain .operation)]
  | conjunction => kept
      [choice [rule inversion, many 0 [word "and", rule inversion]] (chain .operation)]
  | inversion => kept
      [choice [word "not", rule inversion] (make .operation), only comparison]
  | comparison => plain
      [choice [rule bitOr, many 0 [either comparisons, rule bitOr]] (chain .comparison)]
  | bitOr => leftward bitXor ["|"]
  | bitXor => leftward bitAnd ["^"]
  | bitAnd => leftward shift ["&"]
  | shift => leftward sum ["<<", ">>"]
  | sum => leftward term ["+", "-"]
  | term => leftward factor ["*", "/", "//", "%", "@"]
  | factor => kept
      [choice [word "+", rule factor] (make .operation),
        choice [word "-", rule factor] (make .operation),
        choice [word "~", rule factor] (make .operation),
        only power]
  | power => plain
      [choice [rule awaited, word "**", rule factor] (make .operation), only awaited]
  | awaited => kept
      [choice [word "await", rule primary] (make .awaited), only primary]
  | primary =>
      ⟨[only atom],
        [choice [word ".", token .name] (make .attribute),
          choice [rule generator] (make .call),
          choice [word "(", maybe [rule arguments], word ")"] (make .call)], true, false⟩
  | atom => plain
      [choice [token .name] (make .name),
        choice [word "True"] (make (.truth true)),
        choice [word "False"] (make (.truth false)),
        choice [word "None"] (make .absence),
        choice [ahead true [token .quotation], rule quotations] (pick 1),
        choice [token .number] (make .number),
        choice [ahead true [word "("], either [[rule tuple], [rule group], [rule generator]]]
          (pick 1),
        choice [ahead true [word "\x7b"], either [[rule dictionary], [rule set],
          [rule dictionaryComprehension], [rule setComprehension]]] (pick 1),
        choice [word "..."] (make .dots)]
  | quotations => kept [choice [many 1 [token .quotation]] quotationsOf]
  | tuple => plain
      [choice [word "(", maybe [rule starNamedExpression, word ",",
        maybe [rule starNamedExpressions]], word ")"] bracketed]
  | group => plain
      [choice [word "(", either [[rule yielded], [rule namedExpression]], word ")"] (pick 1),
        hint [word "(", rule starredExpression, word ")"]
          (say "cannot use starred expression here"),
        hint [word "(", word "**", rule expression, word ")"]
          (say "cannot use double starred expression here")]
  | yielded => plain
      [choice [word "yield", word "from", rule expression] (make .yielded),
        choice [word "yield", maybe [rule starExpressions]] (make .yielded)]
  | generator => plain
      (choice ([word "("] ++ element ++ [rule clauses, word ")"]) (make .generator) ::
        comprehensionHints)
  | set => plain [choice [word "\x7b", rule starNamedExpressions, word "\x7d"] (itemsOf .set)]
  | setComprehension => plain
      (choice [word "\x7b", rule namedExpression, rule clauses, word "\x7d"]
        (make .setComprehension) :: comprehensionHints)
  | dictionary => plain
      [choice [word "\x7b", maybe [rule pairs], word "\x7d"] (itemsOf .dictionary),
        choice [word "\x7b", rule faultyPairs, word "\x7d"] (pick 1)]
  | dictionaryComprehension => plain
      [choice [word "\x7b", rule expression, word ":", rule expression, rule clauses, word "\x7d"]
          (make .dictionaryComprehension),
        hint [word "\x7b", word "**", rule bitOr, rule clauses, word "\x7d"]
          (say "dict unpacking cannot be used in dict comprehension")]
  | pairs => plain [choice [listed "," [rule pair], lastComma] (pick 0)]
  | pair => plain
      [choice [word "**", rule bitOr] keep,
        choice [rule expression, word ":", rule expression] keep]
  | faultyPairs => plain
      (choice [listed "," [rule pair], word ",", rule faultyPair] (pick 0) :: valueFaults)
  | faultyPair => plain
      (choice [rule expression, ahead false [word ":"]] (say "':' expected after dictionary key") ::
        valueFaults)
  | clauses => plain [choice [many 1 [rule clause]] (pick 0)]
  | clause => plain
      [choice (word "async" :: clauseParts) keep,
        choice clauseParts keep,
        hint [maybe [word "async"], word "for", rule starExpressions] badTarget]
  | targets => plain
      [choice [rule target, ahead false [word ","]] keep,
        choice [rule target, many 0 [word ",", rule target], lastComma] keep]
  | target => kept
      [choice [word "*", ahead false [word "*"], rule target] keep, only targetAtom]
  | targetAtom => kept
      [choice [rule targetPrimary, word ".", token .name, ahead false targetGoesOn] keep,
        choice [token .name] keep,
        choice [word "(", rule targetAtom, word ")"] keep,
        choice [word "(", maybe [either [[rule target, many 1 [word ",", rule target], lastComma],
          [rule target, word ","]]], word ")"] keep]
  | targetPrimary =>
      ⟨[choice [rule atom, ahead true targetGoesOn] (pick 0)],
        [choice [word ".", token .name, ahead true targetGoesOn] keep,
          choice [rule generator, ahead true targetGoesOn] keep,
          choice [word "(", maybe [rule arguments], word ")", ahead true targetGoesOn] keep],
        true, false⟩
  | arguments => kept
      (choice [rule argumentList, lastComma, ahead true [word ")"]] (pick 0) :: argumentHints)
  | argumentList => plain
      [choice [listed "," [either [[rule starredExpression], element ++ [ahead false [word "="]]]],
          maybe [word ",", rule keywordArguments]] keep,
        only keywordArguments]
  | keywordArguments => plain
      [choice [listed "," [rule keywordOrStarred], word ",", listed "," [rule keywordOrUnpacked]]
          keep,
        choice [listed "," [rule keywordOrStarred]] keep,
        choice [listed "," [rule keywordOrUnpacked]] keep]
  | keywordOrStarred => plain
      (keywordHints ++
        [choice [token .name, word "=", rule expression] keep, only starredExpression])
  | keywordOrUnpacked => plain
      (keywordHints ++
        [choice [token .name, word "=", rule expression] keep,
          choice [word "**", rule expression] keep])
  | starredExpression => plain [choice [word "*", rule expression] (make .starred)]

end DenoBridge.Literal
