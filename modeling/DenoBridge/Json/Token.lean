import DenoBridge.Json.Value
import DenoBridge.Number.Digits

/-! # JSON tokens

    The lexical half of reading JSON: brackets, commas and colons, texts,
    words and numbers, with blanks between them.  Lexing never fails; where
    no token begins it yields `junk` and stops, and it is for the reader to
    refuse that.  Main statement: every token uses up characters
    (`length_nextToken_le`).
-/

namespace DenoBridge.Json

/-- The two kinds of bracketed value. -/
inductive Shape where
  | array
  | object
  deriving Repr, DecidableEq

/-- A token. -/
inductive Token where
  | opening (shape : Shape)
  | closing (shape : Shape)
  | comma
  | colon
  /-- A value that one word or one quoted text stands for. -/
  | atom (value : Json)
  /-- A whole number, by its digits. -/
  | whole (negative : Bool) (digits : List Char)
  /-- Something that begins no token. -/
  | junk
  deriving Repr

/-! ## Section 1: Texts -/

/-- What a backslash and a letter stand for. -/
def escaped? : Char → Option Char
  | '"' => some '"'
  | '\\' => some '\\'
  | '/' => some '/'
  | 'b' => some '\x08'
  | 'f' => some '\x0c'
  | 'n' => some '\n'
  | 'r' => some '\r'
  | 't' => some '\t'
  | _ => none

/-- The number that four hexadecimal digits write. -/
def hex4? (a b c d : Char) : Option Nat := do
  let a ← Digits.hexDigit? a
  let b ← Digits.hexDigit? b
  let c ← Digits.hexDigit? c
  let d ← Digits.hexDigit? d
  return ((a * 16 + b) * 16 + c) * 16 + d

/-- The text up to the next quotation mark and what follows the mark.
    Control characters may not stand in a text. -/
def scanText : List Char → Option (List Glyph × List Char)
  | [] => none
  | '"' :: rest => some ([], rest)
  | '\\' :: 'u' :: a :: b :: c :: d :: rest =>
    match hex4? a b c d, scanText rest with
    | some code, some (text, after) => some (.ofCode code :: text, after)
    | _, _ => none
  | '\\' :: letter :: rest =>
    match escaped? letter, scanText rest with
    | some c, some (text, after) => some (.char c :: text, after)
    | _, _ => none
  | c :: rest =>
    if c < ' ' then none
    else (scanText rest).map fun (text, after) => (.char c :: text, after)

/-! ## Section 2: Numbers -/

/-- The digits after a point, when a point and a digit come next, and what
    follows them. -/
def scanFraction : List Char → List Char × List Char
  | '.' :: c :: rest => if c.isDigit then Digits.span (c :: rest) else ([], '.' :: c :: rest)
  | text => ([], text)

/-- Does a text begin with a minus sign, and what follows its sign. -/
def scanSign : List Char → Bool × List Char
  | '-' :: rest => (true, rest)
  | '+' :: rest => (false, rest)
  | rest => (false, rest)

/-- The exponent, when one comes next, and what follows it. -/
def scanExponent : List Char → Option (Int × List Char)
  | [] => none
  | e :: rest =>
    let signed := scanSign rest
    let digits := Digits.span signed.2
    if (e ≠ 'e' ∧ e ≠ 'E') ∨ digits.1 = [] then none
    else
      let size : Int := Digits.value digits.1
      some (if signed.1 then -size else size, digits.2)

/-- The digits before the point: a single zero, or digits that begin with
    none. -/
def scanWhole : List Char → List Char × List Char
  | '0' :: rest => (['0'], rest)
  | text => Digits.span text

/-- A number without its sign, and what follows it. -/
def scanNumber (negative : Bool) (text : List Char) : Token × List Char :=
  let whole := scanWhole text
  let fraction := scanFraction whole.2
  let digits := whole.1 ++ fraction.1
  if whole.1 = [] then (.junk, [])
  else
    match scanExponent fraction.2 with
    | some (power, after) => (realNumber negative digits (power - fraction.1.length), after)
    | none =>
      if fraction.1 = [] then (.whole negative whole.1, fraction.2)
      else (realNumber negative digits (-fraction.1.length), fraction.2)
where
  /-- The token of a number with a point or an exponent. -/
  realNumber (negative : Bool) (digits : List Char) (power : Int) : Token :=
    .atom (.real (.ofDecimal negative (Digits.value digits) digits.length power))

/-! ## Section 3: Words -/

/-- The words and the values they stand for. -/
def words : List (List Char × Json) :=
  [("null".toList, .null), ("true".toList, .bool true), ("false".toList, .bool false),
    ("NaN".toList, .real .notANumber), ("Infinity".toList, .real (.infinite false)),
    ("-Infinity".toList, .real (.infinite true))]

/-- The word at the start of a text, as its value and its length. -/
def word? (text : List Char) : Option (Json × Nat) :=
  (words.find? fun entry => entry.1.isPrefixOf text).map fun entry => (entry.2, entry.1.length)

/-! ## Section 4: Token after token -/

/-- May the character stand between tokens? -/
def isSpace (c : Char) : Bool :=
  c == ' ' || c == '\t' || c == '\n' || c == '\r'

/-- The token that a bracket, a comma or a colon is. -/
def mark? : Char → Option Token
  | '[' => some (.opening .array)
  | ']' => some (.closing .array)
  | '\x7b' => some (.opening .object)
  | '\x7d' => some (.closing .object)
  | ',' => some .comma
  | ':' => some .colon
  | _ => none

/-- The token that a quoted text is, from behind its first mark. -/
def textToken (rest : List Char) : Token × List Char :=
  match scanText rest with
  | some (text, after) => (.atom (.string (Glyph.joinHalves text)), after)
  | none => (.junk, [])

/-- The token of a word or a number that begins with `c`. -/
def wordOrNumber (c : Char) (rest : List Char) : Token × List Char :=
  match word? (c :: rest) with
  | some (value, length) => (.atom value, rest.drop (length - 1))
  | none => if c = '-' then scanNumber true rest else scanNumber false (c :: rest)

/-- The token that begins with `c`, and what follows it. -/
def nextToken (c : Char) (rest : List Char) : Token × List Char :=
  match mark? c with
  | some token => (token, rest)
  | none => if c = '"' then textToken rest else wordOrNumber c rest

/-! ## Section 5: What is left is shorter -/

theorem length_scanText_le {text : List Char} {found : List Glyph} {after : List Char}
    (h : scanText text = some (found, after)) : after.length ≤ text.length := by
  fun_induction scanText text generalizing found after with
  | case1 => simp at h
  | case2 rest => simp_all
  | case3 a b c d rest code _ _ hafter hcode ih =>
    simp only [Option.some.injEq, Prod.mk.injEq] at h
    have := ih hafter
    simp only [← h.2, List.length_cons]
    omega
  | case4 => simp at h
  | case5 letter rest _ c _ _ hafter hletter ih =>
    simp only [Option.some.injEq, Prod.mk.injEq] at h
    have := ih hafter
    simp only [← h.2, List.length_cons]
    omega
  | case6 => simp at h
  | case7 => simp at h
  | case8 c rest _ _ _ _ ih =>
    obtain ⟨⟨found', after'⟩, hrest, heq⟩ := Option.map_eq_some_iff.1 h
    have := ih hrest
    simp only [Prod.mk.injEq] at heq
    simp only [← heq.2, List.length_cons]
    omega

theorem length_scanFraction_le (text : List Char) :
    (scanFraction text).2.length ≤ text.length := by
  fun_cases scanFraction text with
  | case1 c rest _ => simpa using Nat.le_succ_of_le (Digits.length_span_le (c :: rest))
  | case2 c rest _ => simp
  | case3 => simp

theorem length_scanSign_le (text : List Char) : (scanSign text).2.length ≤ text.length := by
  fun_cases scanSign text <;> simp

theorem length_scanExponent_le {text after : List Char} {power : Int}
    (h : scanExponent text = some (power, after)) : after.length ≤ text.length := by
  cases text with
  | nil => simp [scanExponent] at h
  | cons e rest =>
    simp only [scanExponent] at h
    split at h
    · simp at h
    · simp only [Option.some.injEq, Prod.mk.injEq] at h
      have h₁ := Digits.length_span_le (scanSign rest).2
      have h₂ := length_scanSign_le rest
      rw [← h.2, List.length_cons]
      omega

theorem length_scanWhole_lt {text : List Char} (h : (scanWhole text).1 ≠ []) :
    (scanWhole text).2.length < text.length := by
  fun_cases scanWhole text with
  | case1 rest => simp
  | case2 => exact Digits.length_span_lt (by simpa [scanWhole] using h)

theorem length_scanNumber_lt (negative : Bool) {text : List Char} (h : text ≠ []) :
    (scanNumber negative text).2.length < text.length := by
  unfold scanNumber
  have hpos : 0 < text.length := List.length_pos_iff.2 h
  by_cases hw : (scanWhole text).1 = []
  · simpa [hw] using hpos
  · have h₁ := length_scanWhole_lt hw
    have h₂ := length_scanFraction_le (scanWhole text).2
    simp only [hw, if_false]
    split
    · rename_i hexp
      have h₃ := length_scanExponent_le hexp
      simp only
      omega
    · split <;> simp only <;> omega

theorem length_textToken_le (rest : List Char) : (textToken rest).2.length ≤ rest.length := by
  unfold textToken
  split
  · rename_i h
    exact length_scanText_le h
  · simp

theorem length_wordOrNumber_le (c : Char) (rest : List Char) :
    (wordOrNumber c rest).2.length ≤ rest.length := by
  unfold wordOrNumber
  split
  · simp
  · split
    · by_cases h : rest = []
      · subst h; decide
      · exact Nat.le_of_lt (length_scanNumber_lt true h)
    · have := length_scanNumber_lt false (List.cons_ne_nil c rest)
      simpa [Nat.lt_succ_iff] using this

theorem length_nextToken_le (c : Char) (rest : List Char) :
    (nextToken c rest).2.length ≤ rest.length := by
  unfold nextToken
  split
  · simp
  · split
    · exact length_textToken_le rest
    · exact length_wordOrNumber_le c rest

/-! ## Section 6: Lexing -/

/-- The tokens of a text. -/
def lex : List Char → List Token
  | [] => []
  | c :: rest =>
    if isSpace c then lex rest
    else (nextToken c rest).1 :: lex (nextToken c rest).2
termination_by text => text.length
decreasing_by
  · simp
  · have := length_nextToken_le c rest
    simp only [List.length_cons]
    omega

end DenoBridge.Json
