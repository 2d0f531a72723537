import Mathlib.Data.List.Chain
import DenoBridge.Proofs.Json.Reading

/-! # What is written is read

    Tokens are found in a text exactly as they were written.  A quoted text and
    a word end by themselves; a number ends where a blank or a mark stands, or
    at the end (`Stops`).  In what the machine takes a mark stands on at least
    one side between two tokens (`separated_of_foldlM`), so no token runs into the next,
    and the values that are read are those that have documents
    (`read_iff_document`).
-/

namespace DenoBridge.Json

open Digits (AreDigits NoDigitFirst)

variable {text after rest : List Char} {token : Token}

/-! ## Section 1: Quoted texts -/

theorem scanText_append {glyphs : List Glyph} (h : Quoted glyphs text) (rest : List Char) :
    scanText (text ++ '"' :: rest) = some (glyphs, rest) := by
  induction h with
  | nil => rfl
  | plain hquote hbackslash hcontrol _ ih =>
    rw [List.cons_append, scanText, if_neg hcontrol, ih]
    · rfl
    · exact hquote
    · intro _ _ _ _ _ habsurd
      exact absurd habsurd hbackslash
    · intro _ _ habsurd
      exact absurd habsurd hbackslash
  | @escape letter c glyphs text hletter _ ih =>
    have hu : letter ≠ 'u' := by
      rintro rfl
      cases hletter
    rw [List.cons_append, List.cons_append, scanText, hletter, ih]
    intro _ _ _ _ _ habsurd
    exact absurd habsurd hu
  | code hcode _ ih =>
    simp only [List.cons_append]
    rw [scanText, hcode, ih]

theorem quoted_of_scanText {glyphs : List Glyph} (h : scanText text = some (glyphs, after)) :
    ∃ inner, text = inner ++ '"' :: after ∧ Quoted glyphs inner := by
  fun_induction scanText text generalizing glyphs after with
  | case1 => cases h
  | case2 rest =>
    obtain ⟨rfl, rfl⟩ := Prod.mk.inj (Option.some.inj h)
    exact ⟨[], rfl, .nil⟩
  | case3 a b c d rest code found behind hrest hcode ih =>
    obtain ⟨rfl, rfl⟩ := Prod.mk.inj (Option.some.inj h)
    obtain ⟨inner, rfl, hinner⟩ := ih hrest
    exact ⟨_, rfl, .code hcode hinner⟩
  | case4 => cases h
  | case5 letter rest _ c found behind hrest hletter ih =>
    obtain ⟨rfl, rfl⟩ := Prod.mk.inj (Option.some.inj h)
    obtain ⟨inner, rfl, hinner⟩ := ih hrest
    exact ⟨_, rfl, .escape hletter hinner⟩
  | case6 => cases h
  | case7 => cases h
  | case8 c rest hquote hcode hbackslash hcontrol ih =>
    obtain ⟨⟨found, behind⟩, hrest, heq⟩ := Option.map_eq_some_iff.1 h
    obtain ⟨rfl, rfl⟩ := Prod.mk.inj heq
    obtain ⟨inner, rfl, hinner⟩ := ih hrest
    refine ⟨c :: inner, rfl, .plain hquote ?_ hcontrol hinner⟩
    -- A backslash with a character behind it is an escape.
    intro hc
    obtain ⟨letter, more, hmore⟩ := List.exists_cons_of_ne_nil
      (List.append_ne_nil_of_right_ne_nil inner (List.cons_ne_nil '"' behind))
    exact hbackslash letter more hc hmore

/-! ## Section 2: Numbers -/

/-- The text ends, or a blank or a mark comes next. -/
def Stops (text : List Char) : Prop :=
  ∀ c, text.head? = some c → isSpace c = true ∨ (mark? c).isSome = true

/-- Blanks and marks are in no number. -/
theorem of_stops {c : Char} (h : isSpace c = true ∨ (mark? c).isSome = true) :
    c.isDigit = false ∧ c ≠ '.' ∧ c ≠ 'e' ∧ c ≠ 'E' := by
  rcases h with hspace | hmark
  · simp only [isSpace, Bool.or_eq_true, beq_iff_eq] at hspace
    rcases hspace with ((rfl | rfl) | rfl) | rfl <;> decide
  · unfold mark? at hmark
    split at hmark
    case h_7 => cases hmark
    all_goals decide

theorem Stops.noDigitFirst (h : Stops text) : NoDigitFirst text :=
  fun c hc => (of_stops (h c hc)).1

theorem IsWhole.exists_cons {digits : List Char} (h : IsWhole digits) :
    ∃ c more, digits = c :: more ∧ c.isDigit = true := by
  rcases h with rfl | ⟨hne, hdigits, -⟩
  · exact ⟨'0', [], rfl, by decide⟩
  · obtain ⟨c, more, rfl⟩ := List.exists_cons_of_ne_nil hne
    exact ⟨c, more, rfl, hdigits c List.mem_cons_self⟩

theorem scanWhole_append {digits : List Char} (h : IsWhole digits) (hrest : NoDigitFirst rest) :
    scanWhole (digits ++ rest) = (digits, rest) := by
  rcases h with rfl | ⟨hne, hdigits, hzero⟩
  · rfl
  · have hspan := Digits.span_append hdigits hrest
    unfold scanWhole
    split
    · rename_i heq
      obtain ⟨c, more, rfl⟩ := List.exists_cons_of_ne_nil hne
      rw [(List.cons.inj heq).1] at hzero
      exact absurd rfl hzero
    · exact hspan

theorem isWhole_scanWhole (h : (scanWhole text).1 ≠ []) :
    IsWhole (scanWhole text).1 ∧ text = (scanWhole text).1 ++ (scanWhole text).2 := by
  fun_cases scanWhole text with
  | case1 rest => exact ⟨.inl rfl, rfl⟩
  | case2 _ hzero =>
    refine ⟨.inr ⟨?_, Digits.areDigits_span text, ?_⟩, (Digits.append_span text).symm⟩
    · simpa [scanWhole] using h
    · intro hhead
      obtain ⟨more, hmore⟩ := List.head?_eq_some_iff.1 hhead
      have htext := Digits.append_span text
      rw [hmore] at htext
      exact hzero _ htext.symm

theorem scanFraction_append {fraction : List Char} (hdigits : AreDigits fraction)
    (hrest : NoDigitFirst rest) (hpoint : rest.head? ≠ some '.') :
    scanFraction (pointText fraction ++ rest) = (fraction, rest) := by
  cases fraction with
  | nil =>
    show scanFraction rest = ([], rest)
    unfold scanFraction
    split
    · exact absurd rfl hpoint
    · rfl
  | cons c more =>
    have hc : c.isDigit = true := hdigits c List.mem_cons_self
    show scanFraction ('.' :: c :: (more ++ rest)) = _
    rw [scanFraction, if_pos hc]
    exact Digits.span_append hdigits hrest

theorem pointText_scanFraction (text : List Char) :
    text = pointText (scanFraction text).1 ++ (scanFraction text).2 ∧
      AreDigits (scanFraction text).1 := by
  fun_cases scanFraction text with
  | case1 c rest hc =>
    have hne : (Digits.span (c :: rest)).1 ≠ [] := by
      unfold Digits.span
      simp [hc]
    refine ⟨?_, Digits.areDigits_span _⟩
    rw [pointText, if_neg hne, List.cons_append, Digits.append_span]
  | case2 c rest hc => exact ⟨rfl, Digits.areDigits_nil⟩
  | case3 => exact ⟨rfl, Digits.areDigits_nil⟩

theorem scanSign_append {sign digits : List Char} (hsign : sign ∈ [[], ['+'], ['-']])
    (hne : digits ≠ []) (hdigits : AreDigits digits) (rest : List Char) :
    scanSign (sign ++ (digits ++ rest)) = (decide (sign = ['-']), digits ++ rest) := by
  simp only [List.mem_cons, List.not_mem_nil, or_false] at hsign
  rcases hsign with rfl | rfl | rfl
  · obtain ⟨c, more, rfl⟩ := List.exists_cons_of_ne_nil hne
    have hc : c.isDigit = true := hdigits c List.mem_cons_self
    show scanSign (c :: (more ++ rest)) = (false, c :: (more ++ rest))
    unfold scanSign
    split
    · rename_i heq
      exact absurd (List.cons.inj heq).1 (Digits.ne_of_isDigit hc (by decide))
    · rename_i heq
      exact absurd (List.cons.inj heq).1 (Digits.ne_of_isDigit hc (by decide))
    · rfl
  · rfl
  · rfl

theorem exists_sign (text : List Char) :
    ∃ sign ∈ [[], ['+'], ['-']], text = sign ++ (scanSign text).2 ∧
      (scanSign text).1 = decide (sign = ['-']) := by
  fun_cases scanSign text with
  | case1 rest => exact ⟨['-'], by simp, rfl, rfl⟩
  | case2 rest => exact ⟨['+'], by simp, rfl, rfl⟩
  | case3 => exact ⟨[], by simp, rfl, rfl⟩

theorem scanExponent_append {power : Option Int} (h : Exponent power text) (hrest : Stops rest) :
    scanExponent (text ++ rest) = power.map (·, rest) := by
  cases h with
  | none =>
    cases rest with
    | nil => rfl
    | cons c more =>
      obtain ⟨-, -, hsmall, hcapital⟩ := of_stops (hrest c rfl)
      rw [List.nil_append, scanExponent]
      simp [hsmall, hcapital]
  | @some e sign digits he hsign hne hdigits =>
    have hspan := Digits.span_append hdigits hrest.noDigitFirst
    have hletter : e = 'e' ∨ e = 'E' := by simpa using he
    rw [List.cons_append, List.append_assoc, scanExponent, scanSign_append hsign hne hdigits, hspan]
    dsimp only
    rw [if_neg]
    · simp only [decide_eq_true_eq, Option.map_some]
    · rintro (⟨hsmall, hcapital⟩ | hnil)
      · exact hletter.elim hsmall hcapital
      · exact hne hnil

theorem exponent_of_scanExponent {power : Int} (h : scanExponent text = some (power, after)) :
    ∃ exponent, text = exponent ++ after ∧ Exponent (some power) exponent := by
  cases text with
  | nil => cases h
  | cons e rest =>
    unfold scanExponent at h
    dsimp only at h
    split at h
    · cases h
    · rename_i hfound
      obtain ⟨sign, hsign, hrest, hnegative⟩ := exists_sign rest
      obtain ⟨rfl, rfl⟩ := Prod.mk.inj (Option.some.inj h)
      have hletter : e ∈ ['e', 'E'] := by
        simp only [not_or, not_and_or, not_not] at hfound
        simpa using hfound.1
      have hdigits : (Digits.span (scanSign rest).2).1 ≠ [] := fun hnil => hfound (.inr hnil)
      refine ⟨e :: (sign ++ (Digits.span (scanSign rest).2).1), ?_, ?_⟩
      · rw [List.cons_append, List.append_assoc, Digits.append_span, ← hrest]
      · rw [hnegative]
        simpa using Exponent.some hletter hsign hdigits (Digits.areDigits_span _)

/-- An exponent and what stops a number begin with no digit and no point. -/
theorem head_of_exponent {power : Option Int} {exponent : List Char}
    (h : Exponent power exponent) (hrest : Stops rest) {c : Char}
    (hc : (exponent ++ rest).head? = some c) : c.isDigit = false ∧ c ≠ '.' := by
  cases h with
  | none =>
    obtain ⟨hdigit, hpoint, -⟩ := of_stops (hrest c hc)
    exact ⟨hdigit, hpoint⟩
  | @some e sign digits he _ _ _ =>
    obtain rfl : e = c := Option.some.inj hc
    have hletter : e = 'e' ∨ e = 'E' := by simpa using he
    rcases hletter with rfl | rfl
    · decide
    · decide

/-- The token of what was found of a number. -/
theorem scanNumber_eq {negative : Bool} {whole fraction : List Char} {power : Option Int}
    (hne : whole ≠ []) (hwhole : (scanWhole text).1 = whole)
    (hfraction : (scanFraction (scanWhole text).2).1 = fraction)
    (hexponent : scanExponent (scanFraction (scanWhole text).2).2 = power.map (·, rest))
    (hnone : power = none → (scanFraction (scanWhole text).2).2 = rest) :
    scanNumber negative text = (numberToken negative whole fraction power, rest) := by
  unfold scanNumber
  dsimp only
  rw [hfraction, hwhole, if_neg hne, hexponent]
  cases power with
  | none =>
    by_cases hnil : fraction = []
    · simp [numberToken, hnil, hnone rfl]
    · simp [numberToken, scanNumber.realNumber, hnil, hnone rfl]
  | some power => simp [numberToken, scanNumber.realNumber]

/-- A number that ends where it stops is found as it is written. -/
theorem scanNumber_append {negative : Bool} {whole fraction exponent : List Char}
    {power : Option Int} (hwhole : IsWhole whole) (hfraction : AreDigits fraction)
    (hexponent : Exponent power exponent) (hrest : Stops rest) :
    scanNumber negative (whole ++ (pointText fraction ++ (exponent ++ rest))) =
      (numberToken negative whole fraction power, rest) := by
  -- Each part ends where the next one begins, since that is neither a digit nor a point.
  have hfirst : NoDigitFirst (exponent ++ rest) := fun c hc =>
    (head_of_exponent hexponent hrest hc).1
  have hpoint : (exponent ++ rest).head? ≠ some '.' := fun hc =>
    (head_of_exponent hexponent hrest hc).2 rfl
  have hbehind : NoDigitFirst (pointText fraction ++ (exponent ++ rest)) := by
    unfold pointText
    split
    · exact hfirst
    · intro c hc
      obtain rfl : '.' = c := Option.some.inj hc
      decide
  have hscan := scanWhole_append hwhole hbehind
  have hne : whole ≠ [] := by
    obtain ⟨c, more, rfl, -⟩ := hwhole.exists_cons
    exact List.cons_ne_nil c more
  have hscanFraction := scanFraction_append hfraction hfirst hpoint
  apply scanNumber_eq hne
  · rw [hscan]
  · rw [hscan, hscanFraction]
  · rw [hscan, hscanFraction]
    exact scanExponent_append hexponent hrest
  · rintro rfl
    rw [hscan, hscanFraction]
    cases hexponent
    rfl

theorem lexeme_of_scanNumber {negative : Bool} (h : (scanNumber negative text).1 ≠ .junk) :
    ∃ unsigned, text = unsigned ++ (scanNumber negative text).2 ∧
      Lexeme (scanNumber negative text).1 (signText negative ++ unsigned) := by
  -- Without a whole part there is no number, whatever follows.
  have hne : (scanWhole text).1 ≠ [] := by
    intro hnil
    apply h
    unfold scanNumber
    simp only [hnil, if_true]
  obtain ⟨hwhole, htext⟩ := isWhole_scanWhole hne
  obtain ⟨hbehind, hfraction⟩ := pointText_scanFraction (scanWhole text).2
  cases hexponent : scanExponent (scanFraction (scanWhole text).2).2 with
  | none =>
    have hnumber : scanNumber negative text = (numberToken negative _ _ none, _) :=
      scanNumber_eq hne rfl rfl (by rw [hexponent]; rfl) (fun _ => rfl)
    rw [hnumber]
    refine ⟨_, ?_, .number hwhole hfraction .none⟩
    rw [List.append_nil, List.append_assoc, ← hbehind]
    exact htext
  | some found =>
    obtain ⟨exponent, hrest, hwritten⟩ := exponent_of_scanExponent hexponent
    have hnumber : scanNumber negative text = (numberToken negative _ _ (some found.1), found.2) :=
      scanNumber_eq hne rfl rfl (by rw [hexponent]; rfl) (fun habsurd => nomatch habsurd)
    rw [hnumber]
    refine ⟨_, ?_, .number hwhole hfraction hwritten⟩
    rw [List.append_assoc, List.append_assoc, ← hrest, ← hbehind]
    exact htext

/-! ## Section 3: Words -/

/-- No word begins another one, so a word is found whatever follows it. -/
theorem word?_append {word : List Char} {value : Json} (h : (word, value) ∈ words)
    (rest : List Char) : word? (word ++ rest) = some (value, word.length) := by
  simp only [words, List.mem_cons, List.not_mem_nil, or_false, Prod.mk.injEq] at h
  rcases h with ⟨rfl, rfl⟩ | ⟨rfl, rfl⟩ | ⟨rfl, rfl⟩ | ⟨rfl, rfl⟩ | ⟨rfl, rfl⟩ | ⟨rfl, rfl⟩ <;> rfl

theorem word_of_word? {value : Json} {length : Nat} (h : word? text = some (value, length)) :
    ∃ word, (word, value) ∈ words ∧ word.length = length ∧ word <+: text := by
  obtain ⟨⟨word, value'⟩, hfound, heq⟩ := Option.map_eq_some_iff.1 h
  obtain ⟨rfl, rfl⟩ := Prod.mk.inj heq
  have hprefix : word.isPrefixOf text = true :=
    List.find?_some (p := fun entry : List Char × Json => entry.1.isPrefixOf text) hfound
  exact ⟨word, List.mem_of_find?_eq_some hfound, rfl, List.isPrefixOf_iff_prefix.1 hprefix⟩

section

variable {c : Char}

theorem mark?_of_isDigit (h : c.isDigit = true) : mark? c = none := by
  unfold mark?
  split
  case h_7 => rfl
  all_goals exact absurd h (by decide)

theorem word?_of_isDigit (h : c.isDigit = true) : word? (c :: rest) = none := by
  -- Every word begins with a letter or a sign.
  have hletters : words.all (fun entry => entry.1.head?.map Char.isDigit == some false) = true := by
    decide
  have hnone : words.find? (fun entry => entry.1.isPrefixOf (c :: rest)) = none := by
    refine List.find?_eq_none.2 fun entry hentry => ?_
    have hletter := List.all_eq_true.1 hletters entry hentry
    cases hword : entry.1 with
    | nil =>
      rw [hword] at hletter
      cases hletter
    | cons first more =>
      have hfirst : first.isDigit = false := by simpa [hword] using hletter
      simp [(Digits.ne_of_isDigit h hfirst).symm]
  unfold word?
  rw [hnone]
  rfl

/-- A minus sign in front of a digit begins no word. -/
theorem word?_minus (h : c.isDigit = true) : word? ('-' :: c :: rest) = none := by
  have hc : c ≠ 'I' := Digits.ne_of_isDigit h (by decide)
  unfold word? words
  simp [List.isPrefixOf, hc.symm]

end

/-! ## Section 4: Tokens -/

/-- Is the token a bracket, a comma or a colon? -/
def Token.isMark : Token → Bool
  | .opening _ | .closing _ | .comma | .colon => true
  | _ => false

/-- How a lexeme is found: it begins with no blank, and its token is the next
    one where nothing could continue it. -/
def IsFound (token : Token) (lexeme : List Char) : Prop :=
  ∃ c more, lexeme = c :: more ∧ isSpace c = false ∧
    ∀ rest, token.isMark = true ∨ Stops rest → nextToken c (more ++ rest) = (token, rest)

theorem isFound_mark {c : Char} (h : mark? c = some token) : IsFound token [c] := by
  refine ⟨c, [], rfl, ?_, ?_⟩
  · unfold mark? at h
    split at h
    case h_7 => cases h
    all_goals decide
  · intro rest _
    unfold nextToken
    rw [h]
    rfl

theorem isFound_word {word : List Char} {value : Json} (h : (word, value) ∈ words) :
    IsFound (.atom value) word := by
  have hwords : words.all (fun entry => entry.1.head?.any fun c =>
      !isSpace c && (mark? c).isNone && c != '"') = true := by
    decide
  have hhead := List.all_eq_true.1 hwords _ h
  obtain ⟨c, more, rfl⟩ : ∃ c more, word = c :: more := by
    cases word with
    | nil => cases hhead
    | cons c more => exact ⟨c, more, rfl⟩
  obtain ⟨⟨hspace, hmark⟩, hquote⟩ : (isSpace c = false ∧ (mark? c).isNone = true) ∧ c ≠ '"' := by
    simpa using hhead
  refine ⟨c, more, rfl, hspace, fun rest _ => ?_⟩
  have hword := word?_append h rest
  unfold nextToken wordOrNumber
  rw [List.cons_append] at hword
  rw [Option.isNone_iff_eq_none.1 hmark]
  dsimp only
  rw [if_neg hquote, hword]
  simp

theorem isFound_text {glyphs : List Glyph} (h : Quoted glyphs text) :
    IsFound (.atom (.string (Glyph.joinHalves glyphs))) ('"' :: (text ++ ['"'])) := by
  refine ⟨'"', text ++ ['"'], rfl, by decide, fun rest _ => ?_⟩
  have hmark : mark? '"' = none := rfl
  unfold nextToken textToken
  rw [hmark]
  dsimp only
  rw [if_pos rfl, List.append_assoc, List.singleton_append, scanText_append h]

theorem isMark_numberToken (negative : Bool) (whole fraction : List Char) (power : Option Int) :
    (numberToken negative whole fraction power).isMark = false := by
  unfold numberToken
  split <;> rfl

theorem isFound_number {negative : Bool} {whole fraction exponent : List Char}
    {power : Option Int} (hwhole : IsWhole whole) (hfraction : AreDigits fraction)
    (hexponent : Exponent power exponent) :
    IsFound (numberToken negative whole fraction power)
      (signText negative ++ (whole ++ (pointText fraction ++ exponent))) := by
  obtain ⟨c, more, rfl, hc⟩ := hwhole.exists_cons
  have hother (other : Char) (hother : other.isDigit = false) : c ≠ other :=
    Digits.ne_of_isDigit hc hother
  have hstops (rest : List Char)
      (h : (numberToken negative (c :: more) fraction power).isMark = true ∨ Stops rest) :
      Stops rest := by
    rw [isMark_numberToken] at h
    exact h.resolve_left (by decide)
  cases negative with
  | true =>
    refine ⟨'-', c :: more ++ (pointText fraction ++ exponent), rfl, by decide,
      fun rest hrest => ?_⟩
    have hnumber : scanNumber true _ = (numberToken true _ _ _, rest) :=
      scanNumber_append hwhole hfraction hexponent (hstops rest hrest)
    have hmark : mark? '-' = none := rfl
    unfold nextToken wordOrNumber
    rw [hmark]
    dsimp only
    rw [if_neg (by decide), List.append_assoc, List.append_assoc, List.cons_append, word?_minus hc]
    exact hnumber
  | false =>
    refine ⟨c, more ++ (pointText fraction ++ exponent), rfl, ?_, fun rest hrest => ?_⟩
    · unfold isSpace
      simp [hother ' ' (by decide), hother '\t' (by decide), hother '\n' (by decide),
        hother '\r' (by decide)]
    · have hnumber : scanNumber false _ = (numberToken false _ _ _, rest) :=
        scanNumber_append hwhole hfraction hexponent (hstops rest hrest)
      unfold nextToken wordOrNumber
      rw [mark?_of_isDigit hc, word?_of_isDigit hc]
      dsimp only
      rw [if_neg (hother '"' (by decide)), if_neg (hother '-' (by decide)), List.append_assoc,
        List.append_assoc]
      exact hnumber

/-- Every lexeme is found. -/
theorem isFound_of_lexeme {lexeme : List Char} (h : Lexeme token lexeme) :
    IsFound token lexeme := by
  cases h with
  | mark hmark => exact isFound_mark hmark
  | word hword => exact isFound_word hword
  | text hquoted => exact isFound_text hquoted
  | number hwhole hfraction hexponent => exact isFound_number hwhole hfraction hexponent

/-- What is found was written. -/
theorem lexeme_of_nextToken {c : Char} (h : (nextToken c rest).1 ≠ .junk) :
    ∃ lexeme, c :: rest = lexeme ++ (nextToken c rest).2 ∧ Lexeme (nextToken c rest).1 lexeme := by
  -- In the order of the lexer: marks, texts, words, and numbers last.
  unfold nextToken at h ⊢
  split at h
  · rename_i found hmark
    exact ⟨[c], rfl, .mark hmark⟩
  · by_cases hquote : c = '"'
    · rw [if_pos hquote] at h ⊢
      unfold textToken at h ⊢
      split at h
      · rename_i glyphs after hscan
        obtain ⟨inner, rfl, hinner⟩ := quoted_of_scanText hscan
        subst hquote
        exact ⟨'"' :: (inner ++ ['"']), by simp, .text hinner⟩
      · exact absurd rfl h
    · rw [if_neg hquote] at h ⊢
      unfold wordOrNumber at h ⊢
      split at h
      · rename_i value length hword
        obtain ⟨word, hmem, rfl, behind, hbehind⟩ := word_of_word? hword
        obtain ⟨first, more, rfl, -⟩ := isFound_word hmem
        obtain ⟨rfl, rfl⟩ := List.cons.inj hbehind
        exact ⟨first :: more, by simp, .word hmem⟩
      · by_cases hminus : c = '-'
        · rw [if_pos hminus] at h ⊢
          obtain ⟨unsigned, htext, hlexeme⟩ := lexeme_of_scanNumber h
          subst hminus
          exact ⟨'-' :: unsigned, congrArg ('-' :: ·) htext, hlexeme⟩
        · rw [if_neg hminus] at h ⊢
          exact lexeme_of_scanNumber h

/-! ## Section 5: Tokens one after the other -/

/-- Between two tokens a mark stands on at least one side. -/
def Separated (tokens : List Token) : Prop :=
  tokens.IsChain fun token next => token.isMark = true ∨ next.isMark = true

section

variable {tokens : List Token}

theorem lex_blanks {blanks : List Char} (h : ∀ c ∈ blanks, isSpace c = true) (text : List Char) :
    lex (blanks ++ text) = lex text := by
  induction blanks with
  | nil => rfl
  | cons c blanks ih =>
    have hc := h c List.mem_cons_self
    have hblanks := ih fun c hmem => h c (List.mem_cons_of_mem _ hmem)
    rw [List.cons_append, lex, if_pos hc, hblanks]

theorem mark_of_lexeme {lexeme : List Char} (h : Lexeme token lexeme)
    (hmark : token.isMark = true) : ∃ c, lexeme = [c] ∧ mark? c = some token := by
  cases h with
  | mark hc => exact ⟨_, rfl, hc⟩
  | number =>
    rw [isMark_numberToken] at hmark
    cases hmark
  | _ => cases hmark

/-- What is written without tokens, or with a mark first, stops a number. -/
theorem Written.stops (h : Written tokens text)
    (hhead : ∀ token ∈ tokens.head?, token.isMark = true) : Stops text := by
  intro c hc
  cases h with
  | nil hblanks => exact .inl (hblanks c (List.mem_of_head? hc))
  | @cons blanks lexeme rest token tokens hblanks hlexeme hrest =>
    cases blanks with
    | nil =>
      obtain ⟨first, rfl, hmark⟩ := mark_of_lexeme hlexeme (hhead token rfl)
      obtain rfl : first = c := Option.some.inj hc
      exact .inr (by rw [hmark]; rfl)
    | cons first blanks =>
      obtain rfl : first = c := Option.some.inj hc
      exact .inl (hblanks first List.mem_cons_self)

/-- Tokens that are kept apart are found as they were written. -/
theorem lex_of_written (h : Written tokens text) (hseparated : Separated tokens) :
    lex text = tokens := by
  -- On how the text is written: blanks, a lexeme that stops, and the rest.
  induction h with
  | @nil blanks hblanks =>
    have hlex := lex_blanks hblanks []
    rwa [List.append_nil, lex] at hlex
  | @cons blanks lexeme rest token tokens hblanks hlexeme hrest ih =>
    obtain ⟨hnext, htail⟩ := List.isChain_cons.1 hseparated
    obtain ⟨c, more, rfl, hspace, hfound⟩ := isFound_of_lexeme hlexeme
    have hstops : token.isMark = true ∨ Stops rest := by
      by_cases hmark : token.isMark = true
      · exact .inl hmark
      · exact .inr (hrest.stops fun next hmem => (hnext next hmem).resolve_left hmark)
    rw [lex_blanks hblanks, List.cons_append, lex, if_neg (by simp [hspace]), hfound rest hstops,
      ih htail]

/-- Digits that begin with no zero are a token. -/
theorem lex_digits {digits : List Char} (h : AreDigits digits) (hne : digits ≠ [])
    (hzero : digits.head? ≠ some '0') : lex digits = [.whole false digits] := by
  have hnumber : Lexeme (numberToken false digits [] none)
      (signText false ++ (digits ++ (pointText [] ++ []))) :=
    .number (.inr ⟨hne, h, hzero⟩) Digits.areDigits_nil .none
  have hwritten := Written.of_lexeme hnumber written_nil
  have hlex := lex_of_written hwritten (.singleton _)
  simpa [signText, pointText, numberToken] using hlex

theorem Written.of_space {c : Char} (hc : isSpace c = true) (h : Written tokens text) :
    Written tokens (c :: text) := by
  cases h with
  | nil hblanks => exact .nil (List.forall_mem_cons.2 ⟨hc, hblanks⟩)
  | @cons blanks _ _ _ _ hblanks hlexeme hrest =>
    rw [← List.cons_append]
    exact .cons (List.forall_mem_cons.2 ⟨hc, hblanks⟩) hlexeme hrest

/-- What was found was written. -/
theorem written_lex (text : List Char) (h : ∀ token ∈ lex text, token ≠ .junk) :
    Written (lex text) text := by
  fun_induction lex text with
  | case1 => exact written_nil
  | case2 c rest hspace ih => exact (ih h).of_space hspace
  | case3 c rest hspace ih =>
    obtain ⟨lexeme, htext, hlexeme⟩ := lexeme_of_nextToken (h _ List.mem_cons_self)
    have hrest := ih fun token hmem => h token (List.mem_cons_of_mem _ hmem)
    rw [htext]
    exact .of_lexeme hlexeme hrest

/-! ## Section 6: What the machine takes is kept apart -/

/-- Does the state take marks only? -/
def State.isFull : State → Bool
  | .wantColon _ _ _ | .wantMore _ _ | .done _ => true
  | _ => false

theorem isFull_supply (value : Json) (around : List Frame) :
    (State.supply value around).isFull = true := by
  cases around with
  | nil => rfl
  | cons frame around => cases frame <;> rfl

variable {limit : Nat} {st st' : State}

theorem isMark_of_step (hfull : st.isFull = true) (h : st.step limit token = .ok st') :
    token.isMark = true := by
  cases st with
  | wantColon members name around =>
    obtain ⟨rfl, -⟩ := step_wantColon h
    rfl
  | wantMore frame around =>
    have hstep := step_wantMore h
    cases frame with
    | array items => rcases hstep with ⟨rfl, -⟩ | ⟨rfl, -⟩ <;> rfl
    | object members name => rcases hstep with ⟨rfl, -⟩ | ⟨rfl, -⟩ <;> rfl
  | done value => cases h
  | _ => cases hfull

theorem isFull_of_begin {around : List Frame} (hmark : token.isMark = false)
    (h : State.begin limit around token = .ok st) : st.isFull = true ∧ token ≠ .junk := by
  cases token with
  | atom value =>
    obtain rfl := Except.ok.inj h
    exact ⟨isFull_supply value around, fun habsurd => nomatch habsurd⟩
  | whole negative digits =>
    refine ⟨?_, fun habsurd => nomatch habsurd⟩
    unfold State.begin at h
    dsimp only at h
    split at h
    · obtain rfl := Except.ok.inj h
      exact isFull_supply _ around
    · cases h
  | junk => cases h
  | _ => cases hmark

/-- Behind a token that is no mark, only a mark is taken. -/
theorem isFull_of_step (hmark : token.isMark = false) (h : st.step limit token = .ok st') :
    st'.isFull = true ∧ token ≠ .junk := by
  have hclosing : ∀ shape, token ≠ .closing shape := by
    rintro shape rfl
    cases hmark
  by_cases hfull : st.isFull = true
  · rw [isMark_of_step hfull h] at hmark
    cases hmark
  · cases st with
    | wantValue around => exact isFull_of_begin hmark h
    | wantItem around =>
      rw [step_wantItem hclosing] at h
      exact isFull_of_begin hmark h
    | wantName members around =>
      rcases step_wantName h with ⟨name, rfl, rfl⟩ | ⟨-, rfl, -⟩
      · exact ⟨rfl, fun habsurd => nomatch habsurd⟩
      · cases hmark
    | _ => exact absurd rfl hfull

/-- What one step says about two tokens holds for all neighbours in a run. -/
theorem separated_of_foldlM (h : tokens.foldlM (State.step limit) st = .ok st') :
    Separated tokens ∧ (∀ token ∈ tokens, token ≠ .junk) ∧
      (st.isFull = true → ∀ token ∈ tokens.head?, token.isMark = true) := by
  induction tokens generalizing st with
  | nil =>
    refine ⟨.nil, fun _ hmem => (nomatch hmem), fun _ _ hmem => (nomatch hmem)⟩
  | cons token rest ih =>
    rw [List.foldlM_cons] at h
    obtain ⟨next, hstep, h⟩ := exists_of_bind_ok h
    obtain ⟨hseparated, hjunk, hfull⟩ := ih h
    have hnext : token.isMark = true ∨ next.isFull = true ∧ token ≠ .junk := by
      cases hmark : token.isMark with
      | true => exact .inl rfl
      | false => exact .inr (isFull_of_step hmark hstep)
    refine ⟨List.isChain_cons.2 ⟨?_, hseparated⟩, ?_, ?_⟩
    · -- After a token that is no mark the state is full, and takes a mark next.
      intro after hafter
      exact hnext.imp_right fun hnext => hfull hnext.1 after hafter
    · intro other hother
      rcases List.mem_cons.1 hother with rfl | hother
      · rcases hnext with hmark | ⟨-, hne⟩
        · rintro rfl
          cases hmark
        · exact hne
      · exact hjunk other hother
    · intro hfullFirst first hfirst
      obtain rfl : token = first := Option.some.inj hfirst
      exact isMark_of_step hfullFirst hstep

end

/-! ## Section 7: Documents -/

/-- The values that are read are those that have documents. -/
theorem read_iff_document {limit : Nat} {value : Json} :
    read limit text = .ok value ↔ Document limit value text := by
  unfold read Document
  constructor
  · intro h
    obtain ⟨-, hjunk, -⟩ := separated_of_foldlM (ofTokens_eq_ok_iff.1 h)
    exact ⟨lex text, ofTokens_iff_spells.1 h, written_lex text hjunk⟩
  · rintro ⟨tokens, hspells, hwritten⟩
    have hread := ofTokens_iff_spells.2 hspells
    obtain ⟨hseparated, -, -⟩ := separated_of_foldlM (ofTokens_eq_ok_iff.1 hread)
    rwa [lex_of_written hwritten hseparated]

end DenoBridge.Json
