import DenoBridge.Text.Quoted
import DenoBridge.Proofs.Json.Grammar
import DenoBridge.Proofs.Text.Halves

/-! # Texts in documents

    Every text whose halves stand alone can be written (`lexeme_writeText`),
    and no others are: what a document writes between quotation marks has its
    halves joined (`areLone_of_lexeme`), in the members of its objects too
    (`areLone_of_document`).
-/

namespace DenoBridge.Json

open Glyph (AreLone isHalf)

variable {glyphs : List Glyph} {text : List Char} {code : Nat}

/-! ## Section 1: Codes -/

/-- A code as an escape. -/
def writeCode (code : Nat) : List Char :=
  '\\' :: 'u' :: Text.hexDigits 4 code

theorem hexDigits_four (n : Nat) :
    Text.hexDigits 4 n = [Nat.digitChar (n / 0x1000 % 16), Nat.digitChar (n / 0x100 % 16),
      Nat.digitChar (n / 0x10 % 16), Nat.digitChar (n % 16)] := by
  simp [Text.hexDigits, Nat.div_div_eq_div_mul]

theorem hexDigit?_digitChar (n : Nat) :
    Digits.hexDigit? (Nat.digitChar (n % 16)) = some (n % 16) := by
  have hdigits : ∀ digit < 16, Digits.hexDigit? (Nat.digitChar digit) = some digit := by decide
  exact hdigits _ (Nat.mod_lt _ (by decide))

theorem hex4?_digitChars (h : code < 0x10000) :
    hex4? (Nat.digitChar (code / 0x1000 % 16)) (Nat.digitChar (code / 0x100 % 16))
      (Nat.digitChar (code / 0x10 % 16)) (Nat.digitChar (code % 16)) = some code := by
  unfold hex4?
  simp only [hexDigit?_digitChar, Option.bind_eq_bind, Option.bind_some, Option.pure_def,
    Option.some.injEq]
  omega

theorem quoted_writeCode (hcode : code < 0x10000) (h : Quoted glyphs text) :
    Quoted (.ofCode code :: glyphs) (writeCode code ++ text) := by
  rw [writeCode, hexDigits_four]
  exact .code (hex4?_digitChars hcode) h

/-- No character has the code of a half. -/
theorem ofCode_toNat (c : Char) : Glyph.ofCode c.toNat = .char c := by
  have hvalid : c.toNat < 0xD800 ∨ 0xDFFF < c.toNat := by
    rcases c.valid with hlow | ⟨hhigh, -⟩
    · exact .inl hlow
    · exact .inr hhigh
  have hchar : ¬(Glyph.isHighHalf c.toNat || Glyph.isLowHalf c.toNat) = true := by
    simp only [Glyph.isHighHalf, Glyph.isLowHalf, Bool.or_eq_true, Bool.and_eq_true,
      decide_eq_true_eq]
    omega
  rw [Glyph.ofCode, if_neg hchar, Char.ofNat_toNat]

/-! ## Section 2: Texts that are written -/

/-- A glyph between quotation marks: halves, control characters, the mark and
    the backslash by their codes. -/
def writeGlyph : Glyph → List Char
  | .char c => if c < ' ' ∨ c = '"' ∨ c = '\\' then writeCode c.toNat else [c]
  | .half code => writeCode code

/-- A text between quotation marks. -/
def writeText (text : List Glyph) : List Char :=
  '"' :: (text.flatMap writeGlyph ++ ['"'])

theorem quoted_writeGlyph {glyph : Glyph} (hhalf : ∀ code, glyph = .half code → isHalf code = true)
    (h : Quoted glyphs text) : Quoted (glyph :: glyphs) (writeGlyph glyph ++ text) := by
  cases glyph with
  | char c =>
    rw [writeGlyph]
    by_cases hcode : c < ' ' ∨ c = '"' ∨ c = '\\'
    · have hascii : c.toNat < 0x10000 := by
        rcases hcode with hcontrol | rfl | rfl
        · have hspace : ' '.toNat = 0x20 := rfl
          have hlt : c.toNat < ' '.toNat := hcontrol
          omega
        · decide
        · decide
      rw [if_pos hcode, ← ofCode_toNat c]
      exact quoted_writeCode hascii h
    · rw [if_neg hcode]
      simp only [not_or] at hcode
      exact .plain hcode.2.1 hcode.2.2 hcode.1 h
  | half code =>
    have hcode := hhalf code rfl
    have hglyph : Glyph.ofCode code = .half code := if_pos hcode
    have hbound : code < 0x10000 := by
      simp only [isHalf, Glyph.isHighHalf, Glyph.isLowHalf, Bool.or_eq_true, Bool.and_eq_true,
        decide_eq_true_eq] at hcode
      omega
    have hquoted := quoted_writeCode hbound h
    rwa [hglyph] at hquoted

theorem quoted_flatMap (h : ∀ code, .half code ∈ glyphs → isHalf code = true) :
    Quoted glyphs (glyphs.flatMap writeGlyph) := by
  induction glyphs with
  | nil => exact .nil
  | cons glyph rest ih =>
    have hrest := ih fun code hcode => h code (List.mem_cons_of_mem _ hcode)
    refine quoted_writeGlyph ?_ hrest
    rintro code rfl
    exact h code List.mem_cons_self

theorem lexeme_writeText (h : AreLone glyphs) :
    Lexeme (.atom (.string glyphs)) (writeText glyphs) := by
  have hlexeme := Lexeme.text (quoted_flatMap h.halves)
  rwa [h.joined] at hlexeme

/-! ## Section 3: Texts that were written -/

theorem isHalf_of_quoted (h : Quoted glyphs text) (hcode : .half code ∈ glyphs) :
    isHalf code = true := by
  induction h with
  | nil => cases hcode
  | plain _ _ _ _ ih =>
    exact ih ((List.mem_cons.1 hcode).resolve_left fun habsurd => nomatch habsurd)
  | escape _ _ ih =>
    exact ih ((List.mem_cons.1 hcode).resolve_left fun habsurd => nomatch habsurd)
  | code _ _ ih =>
    rcases List.mem_cons.1 hcode with hfirst | hrest
    · -- Only the code of a half makes a half.
      unfold Glyph.ofCode at hfirst
      split at hfirst
      · rename_i hhalf
        rw [Glyph.half.inj hfirst]
        exact hhalf
      · cases hfirst
    · exact ih hrest

/-- A value that is one token is a word, a quoted text or a number. -/
theorem atom_cases {value : Json} (h : Lexeme (.atom value) text) :
    (∃ word, (word, value) ∈ words) ∨
    (∃ glyphs quoted, Quoted glyphs quoted ∧ value = .string (Glyph.joinHalves glyphs)) ∨
    ∃ number, value = .real number := by
  generalize htoken : Token.atom value = token at h
  cases h with
  | mark hmark =>
    subst htoken
    unfold mark? at hmark
    split at hmark <;> cases hmark
  | word hword =>
    obtain rfl := Token.atom.inj htoken
    exact .inl ⟨_, hword⟩
  | text hquoted => exact .inr (.inl ⟨_, _, hquoted, Token.atom.inj htoken⟩)
  | number =>
    unfold numberToken at htoken
    split at htoken
    · cases htoken
    · exact .inr (.inr ⟨_, Token.atom.inj htoken⟩)

theorem areLone_of_lexeme (h : Lexeme (.atom (.string glyphs)) text) : AreLone glyphs := by
  rcases atom_cases h with ⟨word, hword⟩ | ⟨written, quoted, hquoted, hvalue⟩ | ⟨number, habsurd⟩
  · simp [words] at hword
  · rw [Json.string.inj hvalue]
    exact Glyph.areLone_joinHalves fun _ hcode => isHalf_of_quoted hquoted hcode
  · cases habsurd

theorem not_lexeme_object {members : List (List Glyph × Json)} :
    ¬Lexeme (.atom (.object members)) text := by
  intro h
  rcases atom_cases h with ⟨word, hword⟩ | ⟨written, quoted, -, habsurd⟩ | ⟨number, habsurd⟩
  · simp [words] at hword
  · cases habsurd
  · cases habsurd

theorem exists_lexeme_of_written {tokens : List Token} {token : Token} (h : Written tokens text)
    (hmem : token ∈ tokens) : ∃ lexeme, Lexeme token lexeme := by
  induction h with
  | nil => cases hmem
  | cons _ hlexeme _ ih =>
    rcases List.mem_cons.1 hmem with rfl | hrest
    · exact ⟨_, hlexeme⟩
    · exact ih hrest

/-- A text that is a value is a token of its own. -/
theorem mem_of_spells_members {limit depth : Nat} {members : List (List Glyph × Json)}
    {tokens : List Token} {name : List Glyph} (h : Spells limit depth (.members members) tokens)
    (hmem : (name, .string glyphs) ∈ members) : .atom (.string glyphs) ∈ tokens := by
  generalize hphrase : Phrase.members members = phrase at h
  induction h generalizing members with
  | member hvalue =>
    obtain rfl := Phrase.members.inj hphrase
    obtain ⟨rfl, rfl⟩ := Prod.mk.inj (List.mem_singleton.1 hmem)
    cases hvalue with
    | atom => simp
  | nextMember _ hvalue ih _ =>
    obtain rfl := Phrase.members.inj hphrase
    rcases List.mem_append.1 hmem with hbefore | hlast
    · exact List.mem_append_left _ (ih hbefore rfl)
    · obtain ⟨rfl, rfl⟩ := Prod.mk.inj (List.mem_singleton.1 hlast)
      cases hvalue with
      | atom => simp
  | _ => cases hphrase

/-- The texts in an object that was written hold their halves alone. -/
theorem areLone_of_document {limit : Nat} {members : List (List Glyph × Json)}
    {name : List Glyph} (h : Document limit (.object members) text)
    (hmem : (name, .string glyphs) ∈ members) : AreLone glyphs := by
  obtain ⟨tokens, hspells, hwritten⟩ := h
  have htoken : .atom (.string glyphs) ∈ tokens := by
    cases hspells with
    | atom =>
      obtain ⟨lexeme, habsurd⟩ := exists_lexeme_of_written hwritten List.mem_cons_self
      exact absurd habsurd not_lexeme_object
    | emptyObject _ => cases hmem
    | object _ hmembers =>
      have hinner := mem_of_spells_members hmembers hmem
      exact List.mem_cons_of_mem _ (List.mem_append_left _ hinner)
  obtain ⟨lexeme, hlexeme⟩ := exists_lexeme_of_written hwritten htoken
  exact areLone_of_lexeme hlexeme

end DenoBridge.Json
