import DenoBridge.Literal.Grammar

/-! # Reading expressions

    The rules are tried on the tokens of a text from its start.  When they do
    not fit, they are tried once more with their hints, and a hint that fits
    says what is wrong; if none does, nothing more is known.  A token is
    looked at only when a rule comes to it.
-/

namespace DenoBridge.Literal

/-! ## Section 1: Steps -/

/-- What a rule found: a node, and the place behind it. -/
abbrev Found := Option (Node × Nat)

/-- What is remembered while rules are tried. -/
structure Memory where
  /-- What kept rules found, by their places. -/
  found : List ((Rule × Nat) × Found)
  /-- Are hints wanted? -/
  hints : Bool
  /-- How many tokens were looked at. -/
  reached : Nat

/-- Why a text is no expression. -/
structure Complaint where
  message : String
  /-- How many tokens were looked at. -/
  reached : Nat
  /-- Did the tokens end with it? -/
  isLast : Bool

/-- Work on tokens. -/
abbrev Try (α : Type) := StateT Memory (Except Complaint) α

/-- The token at a place. -/
def lookAt (tokens : Tokens) (place : Nat) : Try (Option Token) := do
  match tokens.list[place]?, tokens.fault with
  | some token, _ =>
    modify fun memory => { memory with reached := max memory.reached (place + 1) }
    return some token
  | none, some fault => throw ⟨fault.message, (← get).reached, true⟩
  | none, none => return none

/-- The token at a place, if it is of a class. -/
def expect (tokens : Tokens) (place : Nat) (holds : Token → Bool) : Try Found := do
  return ((← lookAt tokens place).filter holds).map fun token => (.token token, place + 1)

/-- How many brackets are open behind the token before a place. -/
def levelAt (tokens : Tokens) (place : Nat) : Nat :=
  match tokens.list[place - 1]? with
  | some token => token.level
  | none => 0

/-- What becomes of a choice whose parts fit up to a place. -/
def conclude (tokens : Tokens) (choice : Choice) (nodes : List Node) (place : Nat) : Try Found := do
  match choice.outcome nodes (levelAt tokens place) with
  | .accept node => return some (node, place)
  | .decline => return none
  | .complain message => throw ⟨message, (← get).reached, false⟩

/-! ## Section 2: Rules -/

mutual

/-- Tries a rule at a place. -/
def tryRule (tokens : Tokens) : Nat → Rule → Nat → Try Found
  | 0, _, _ => return none
  | fuel + 1, rule, place => do
    let memory ← get
    let body := rule.body
    match if body.isKept then memory.found.lookup (rule, place) else none with
    | some found => return found
    | none =>
      if body.isQuiet then set { memory with hints := false }
      let seed ← tryChoices tokens fuel [] body.choices place
      let found ←
        match seed with
        | some (node, after) => trySteps tokens fuel body.steps node after
        | none => pure none
      modify fun now => { now with
        hints := memory.hints
        found := if body.isKept then ((rule, place), found) :: now.found else now.found }
      return found

/-- Goes on with a node as often as a choice fits. -/
def trySteps (tokens : Tokens) : Nat → List Choice → Node → Nat → Try Found
  | 0, _, node, place => return some (node, place)
  | fuel + 1, steps, node, place => do
    match ← tryChoices tokens fuel [node] steps place with
    | some (node, after) => trySteps tokens fuel steps node after
    | none => return some (node, place)

/-- Tries choices in turn, behind nodes that were found already. -/
def tryChoices (tokens : Tokens) : Nat → List Node → List Choice → Nat → Try Found
  | 0, _, _, _ => return none
  | _, _, [], _ => return none
  | fuel + 1, before, choice :: choices, place => do
    if choice.isHint && !(← get).hints then tryChoices tokens fuel before choices place
    else
      match ← tryParts tokens fuel choice.parts place false with
      | (some (nodes, after), _) =>
        match ← conclude tokens choice (before ++ nodes) after with
        | some found => return some found
        | none => tryChoices tokens fuel before choices place
      | (none, true) => return none
      | (none, false) => tryChoices tokens fuel before choices place

/-- Tries parts one after the other.  The second answer says whether other
    choices are ruled out. -/
def tryParts (tokens : Tokens) :
    Nat → List Part → Nat → Bool → Try (Option (List Node × Nat) × Bool)
  | 0, _, _, committed => return (none, committed)
  | _, [], place, committed => return (some ([], place), committed)
  | fuel + 1, .committed :: parts, place, _ => tryParts tokens fuel parts place true
  | fuel + 1, part :: parts, place, committed => do
    match ← tryPart tokens fuel part place with
    | none => return (none, committed)
    | some (node, after) =>
      let (rest, committed) ← tryParts tokens fuel parts after committed
      return (rest.map fun (nodes, stop) => (node :: nodes, stop), committed)

/-- Tries a sequence of parts; a single part is its own node. -/
def trySequence (tokens : Tokens) : Nat → List Part → Nat → Try Found
  | 0, _, _ => return none
  | fuel + 1, parts, place => do
    match (← tryParts tokens fuel parts place false).1 with
    | some ([node], after) => return some (node, after)
    | some (nodes, after) => return some (.many nodes, after)
    | none => return none

/-- Tries one part. -/
def tryPart (tokens : Tokens) : Nat → Part → Nat → Try Found
  | 0, _, _ => return none
  | fuel + 1, part, place =>
    match part with
    | .word text =>
      expect tokens place fun token => token.kind == .mark && token.text == text.toList
    | .token kind => expect tokens place fun token => token.kind == kind
    | .name texts =>
      expect tokens place fun token =>
        token.kind == .name && texts.contains (String.ofList token.text)
    | .rule rule => tryRule tokens fuel rule place
    | .either choices => tryEither tokens fuel choices place
    | .maybe part => do
      match ← trySequence tokens fuel part place with
      | some found => return some found
      | none => return some (.nothing, place)
    | .many least part => do
      let (items, after) ← tryMany tokens fuel [] part place
      return if items.length < least then none else some (.many items, after)
    | .listed separator part => do
      match ← trySequence tokens fuel part place with
      | some (first, after) => do
        let (others, after) ← tryMany tokens fuel [.word separator] part after
        return some (.many (first :: others), after)
      | none => return none
    | .ahead wanted part => do
      let found ← trySequence tokens fuel part place
      return if found.isSome = wanted then some (.nothing, place) else none
    | .committed => return some (.nothing, place)

/-- Tries sequences in turn. -/
def tryEither (tokens : Tokens) : Nat → List (List Part) → Nat → Try Found
  | 0, _, _ => return none
  | _, [], _ => return none
  | fuel + 1, parts :: choices, place => do
    match ← trySequence tokens fuel parts place with
    | some found => return some found
    | none => tryEither tokens fuel choices place

/-- Tries a sequence as often as it fits, each time behind some parts. -/
def tryMany (tokens : Tokens) : Nat → List Part → List Part → Nat → Try (List Node × Nat)
  | 0, _, _, place => return ([], place)
  | fuel + 1, before, part, place => do
    match (← tryParts tokens fuel before place false).1 with
    | none => return ([], place)
    | some (_, start) =>
      match ← trySequence tokens fuel part start with
      | none => return ([], place)
      | some (node, after) =>
        let (nodes, stop) ← tryMany tokens fuel before part after
        return (node :: nodes, stop)

end

/-! ## Section 3: Texts -/

/-- How deep rules can lie in each other in a text of so many tokens. -/
def depth (count : Nat) : Nat :=
  200 * (count + 2)

/-- The expression that tokens make. -/
def tryWhole (tokens : Tokens) (hints : Bool) : Except Complaint (Found × Memory) :=
  (tryRule tokens (depth tokens.list.length) .whole 0).run ⟨[], hints, 0⟩

/-- The last token that was looked at, of so many. -/
def lastOf? (tokens : Tokens) (reached : Nat) : Option Token :=
  tokens.list[reached - 1]?

/-- What is told about the tokens behind the last one that was looked at. -/
def reportBehind? (tokens : Tokens) (reached : Nat) : Option String :=
  tokens.fault.bind (·.reportAfter? (((lastOf? tokens reached).map (·.line)).getD 0))

/-- What is said in the end: a fault of the tokens stands above a complaint
    that was made before they ended. -/
def finalMessage (tokens : Tokens) (complaint : Complaint) : String :=
  if complaint.isLast || (lastOf? tokens complaint.reached).any (·.isFinal) then complaint.message
  else (reportBehind? tokens complaint.reached).getD complaint.message

/-- What is said about a text about which nothing more is known.  It ends with
    the first of two numbers of tokens; the second one is that of those that
    were looked at. -/
def unknownFault (tokens : Tokens) (last reached : Nat) : String :=
  if (lastOf? tokens last).any (·.kind == .indent) then "unexpected indent"
  else (reportBehind? tokens reached).getD "invalid syntax"

/-- The expression that a text writes, or what is wrong with it. -/
def read (text : List Char) : Except String Node :=
  let tokens := tokens text
  match tryWhole tokens false with
  | .error complaint => .error (finalMessage tokens complaint)
  | .ok (some (node, _), _) => .ok node
  | .ok (none, first) =>
    match tryWhole tokens true with
    | .error complaint => .error (finalMessage tokens complaint)
    | .ok (_, second) => .error (unknownFault tokens first.reached second.reached)

end DenoBridge.Literal
