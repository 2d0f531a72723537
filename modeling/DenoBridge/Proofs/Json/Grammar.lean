import DenoBridge.Json.Reader
import DenoBridge.Proofs.Number.Digits

/-! # How JSON is written

    The grammar of JSON in two halves.  Each token is written in a certain way
    (`Lexeme`), and a text is written with blanks between its tokens
    (`Written`).  Tokens spell a value, with the brackets around it counted
    (`Spells`).  A text is the document of a value when it is written with
    tokens that spell it (`Document`); numbers with too many digits and brackets
    nested deeper than a limit allows are in no document.
-/

namespace DenoBridge.Json

open Digits (AreDigits)

/-! ## Section 1: Texts and numbers -/

/-- How glyphs are written between quotation marks: as they are, behind a
    backslash, or by the four hexadecimal digits of their code. -/
inductive Quoted : List Glyph → List Char → Prop where
  | nil : Quoted [] []
  | plain {c : Char} {glyphs : List Glyph} {text : List Char} :
    c ≠ '"' → c ≠ '\\' → ¬c < ' ' → Quoted glyphs text → Quoted (.char c :: glyphs) (c :: text)
  | escape {letter c : Char} {glyphs : List Glyph} {text : List Char} :
    escaped? letter = some c → Quoted glyphs text →
      Quoted (.char c :: glyphs) ('\\' :: letter :: text)
  | code {a b c d : Char} {code : Nat} {glyphs : List Glyph} {text : List Char} :
    hex4? a b c d = some code → Quoted glyphs text →
      Quoted (.ofCode code :: glyphs) ('\\' :: 'u' :: a :: b :: c :: d :: text)

/-- How the whole part of a number is written: no zero comes before other
    digits. -/
def IsWhole (digits : List Char) : Prop :=
  digits = ['0'] ∨ digits ≠ [] ∧ AreDigits digits ∧ digits.head? ≠ some '0'

/-- How the digits behind a point are written. -/
def pointText (fraction : List Char) : List Char :=
  if fraction = [] then [] else '.' :: fraction

/-- How exponents are written. -/
inductive Exponent : Option Int → List Char → Prop where
  | none : Exponent none []
  | some {e : Char} {sign digits : List Char} :
    e ∈ ['e', 'E'] → sign ∈ [[], ['+'], ['-']] → digits ≠ [] → AreDigits digits →
      Exponent (some (if sign = ['-'] then -(Digits.value digits : Int) else Digits.value digits))
        (e :: (sign ++ digits))

/-- The token of a number, which is whole if it has neither a fraction nor an
    exponent. -/
def numberToken (negative : Bool) (whole fraction : List Char) (power : Option Int) : Token :=
  if fraction = [] ∧ power = none then .whole negative whole
  else
    .atom (.real (.ofDecimal negative (Digits.value (whole ++ fraction))
      (whole ++ fraction).length (power.getD 0 - fraction.length)))

/-- The sign of a number. -/
def signText (negative : Bool) : List Char :=
  if negative then ['-'] else []

/-! ## Section 2: Tokens -/

/-- How a token is written. -/
inductive Lexeme : Token → List Char → Prop where
  | mark {c : Char} {token : Token} : mark? c = some token → Lexeme token [c]
  | word {word : List Char} {value : Json} : (word, value) ∈ words → Lexeme (.atom value) word
  | text {glyphs : List Glyph} {text : List Char} :
    Quoted glyphs text → Lexeme (.atom (.string (Glyph.joinHalves glyphs))) ('"' :: (text ++ ['"']))
  | number {negative : Bool} {whole fraction exponent : List Char} {power : Option Int} :
    IsWhole whole → AreDigits fraction → Exponent power exponent →
      Lexeme (numberToken negative whole fraction power)
        (signText negative ++ (whole ++ (pointText fraction ++ exponent)))

/-- How tokens are written one after the other, with blanks around them. -/
inductive Written : List Token → List Char → Prop where
  | nil {blanks : List Char} : (∀ c ∈ blanks, isSpace c = true) → Written [] blanks
  | cons {blanks lexeme rest : List Char} {token : Token} {tokens : List Token} :
    (∀ c ∈ blanks, isSpace c = true) → Lexeme token lexeme → Written tokens rest →
      Written (token :: tokens) (blanks ++ (lexeme ++ rest))

/-- No blanks need to stand between tokens. -/
theorem Written.of_lexeme {lexeme rest : List Char} {token : Token} {tokens : List Token}
    (hlexeme : Lexeme token lexeme) (hrest : Written tokens rest) :
    Written (token :: tokens) (lexeme ++ rest) := by
  have hblanks : ∀ c ∈ [], isSpace c = true := List.forall_mem_nil _
  exact .cons hblanks hlexeme hrest

theorem written_nil : Written [] [] :=
  .nil (List.forall_mem_nil _)

/-! ## Section 3: Values -/

/-- What tokens spell: a value, or what stands between brackets. -/
inductive Phrase where
  | value (value : Json)
  | items (values : List Json)
  | members (members : List (List Glyph × Json))

/-- Tokens spell a phrase inside so many open brackets, with at most `limit` open
    at once. -/
inductive Spells (limit : Nat) : Nat → Phrase → List Token → Prop where
  | atom {depth : Nat} {value : Json} : Spells limit depth (.value value) [.atom value]
  | whole {depth : Nat} {negative : Bool} {digits : List Char} :
    digits.length ≤ Digits.digitLimit →
      Spells limit depth
        (.value (.integer (if negative then -(Digits.value digits : Int) else Digits.value digits)))
        [.whole negative digits]
  | emptyArray {depth : Nat} :
    depth < limit → Spells limit depth (.value (.array [])) [.opening .array, .closing .array]
  | array {depth : Nat} {values : List Json} {tokens : List Token} :
    depth < limit → Spells limit (depth + 1) (.items values) tokens →
      Spells limit depth (.value (.array values)) (.opening .array :: (tokens ++ [.closing .array]))
  | emptyObject {depth : Nat} :
    depth < limit → Spells limit depth (.value (.object [])) [.opening .object, .closing .object]
  | object {depth : Nat} {members : List (List Glyph × Json)} {tokens : List Token} :
    depth < limit → Spells limit (depth + 1) (.members members) tokens →
      Spells limit depth (.value (.object members))
        (.opening .object :: (tokens ++ [.closing .object]))
  | item {depth : Nat} {value : Json} {tokens : List Token} :
    Spells limit depth (.value value) tokens → Spells limit depth (.items [value]) tokens
  | nextItem {depth : Nat} {values : List Json} {value : Json} {before tokens : List Token} :
    Spells limit depth (.items values) before → Spells limit depth (.value value) tokens →
      Spells limit depth (.items (values ++ [value])) (before ++ .comma :: tokens)
  | member {depth : Nat} {name : List Glyph} {value : Json} {tokens : List Token} :
    Spells limit depth (.value value) tokens →
      Spells limit depth (.members [(name, value)]) (.atom (.string name) :: .colon :: tokens)
  | nextMember {depth : Nat} {members : List (List Glyph × Json)} {name : List Glyph}
      {value : Json} {before tokens : List Token} :
    Spells limit depth (.members members) before → Spells limit depth (.value value) tokens →
      Spells limit depth (.members (members ++ [(name, value)]))
        (before ++ .comma :: .atom (.string name) :: .colon :: tokens)

/-- The text is a document of the value. -/
def Document (limit : Nat) (value : Json) (text : List Char) : Prop :=
  ∃ tokens, Spells limit 0 (.value value) tokens ∧ Written tokens text

end DenoBridge.Json
