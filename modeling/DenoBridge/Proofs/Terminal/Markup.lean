import Mathlib.Data.List.Basic
import DenoBridge.Proofs.Results
import DenoBridge.Proofs.Text.Split
import DenoBridge.Terminal.Markup

/-! # Texts that read as markup

    A text without an opening bracket is one token, and it always reads as
    markup (`isMarkup_of_not_mem`).  A text with brackets is taken apart at its
    tags (`tokensAfter_tag`), and it need not read as markup: a closing tag
    that no opening tag belongs to is a fault (`read_of_stray`).
-/

namespace DenoBridge.Terminal.Markup

variable {emoji : Bool} {text front inside after before rest : List Char} {position slashes : Nat}

/-- The text writes a styled text. -/
def IsMarkup (emoji : Bool) (text : List Char) : Prop :=
  ∃ styled, read emoji text = .ok styled

/-! ## Section 1: Tokens -/

/-- A character without meaning joins the text before it. -/
theorem tokensAfter_cons {c : Char} (hslash : c ≠ '\\') (hbracket : c ≠ '[') (position : Nat)
    (before : List Char) (slashes : Nat) (rest : List Char) :
    tokensAfter position before slashes (c :: rest) =
      tokensAfter (position + 1) (before ++ List.replicate slashes '\\' ++ [c]) 0 rest := by
  rw [tokensAfter]
  · split
    · rename_i htag
      rw [if_neg hbracket] at htag
      cases htag
    · rfl
  · exact hslash

/-- Without a bracket there is nothing but text. -/
theorem tokensAfter_of_not_mem (h : '[' ∉ text) (position : Nat) (before : List Char)
    (slashes : Nat) : tokensAfter position before slashes text =
      textBefore (before ++ List.replicate slashes '\\' ++ text) [] := by
  induction text generalizing position before slashes with
  | nil => rw [tokensAfter, List.append_nil]
  | cons c rest ih =>
    rw [List.mem_cons, not_or] at h
    obtain ⟨hc, hrest⟩ := h
    by_cases hslash : c = '\\'
    · subst hslash
      rw [tokensAfter, ih hrest, List.replicate_succ']
      simp
    · rw [tokensAfter_cons hslash (Ne.symm hc), ih hrest]
      simp

/-- Text is read up to the first bracket. -/
theorem tokensAfter_append (hslash : '\\' ∉ front) (hbracket : '[' ∉ front) (position : Nat)
    (before rest : List Char) : tokensAfter position before 0 (front ++ rest) =
      tokensAfter (position + front.length) (before ++ front) 0 rest := by
  induction front generalizing position before with
  | nil => simp
  | cons c front ih =>
    rw [List.mem_cons, not_or] at hslash hbracket
    rw [List.cons_append, tokensAfter_cons (Ne.symm hslash.1) (Ne.symm hbracket.1),
      ih hslash.2 hbracket.2]
    simp [Nat.add_assoc, Nat.add_comm 1]

/-- A tag ends the text before it. -/
theorem tokensAfter_tag (h : tagAfter? rest = some (inside, after)) (position : Nat)
    (before : List Char) : tokensAfter position before 0 ('[' :: rest) =
      textBefore before (.tag position (.ofText inside) ::
        tokensAfter (position + inside.length + 2) [] 0 after) := by
  rw [tokensAfter]
  · split
    · rename_i inside' after' htag
      rw [if_pos rfl, h] at htag
      obtain ⟨rfl, rfl⟩ := Prod.mk.inj (Option.some.inj htag)
      rfl
    · rename_i htag
      rw [if_pos rfl, h] at htag
      cases htag
  · decide

/-! ## Section 2: Styled texts -/

/-- A text without a bracket reads as markup, whatever else is in it. -/
theorem isMarkup_of_not_mem (h : '[' ∉ text) (emoji : Bool) : IsMarkup emoji text := by
  unfold IsMarkup read
  rw [tokens, tokensAfter_of_not_mem h, textBefore]
  split
  · exact ⟨_, rfl⟩
  · exact ⟨_, rfl⟩

/-- Text opens and closes nothing. -/
theorem foldlM_textBefore (emoji : Bool) (front : List Char) (tokens : List Token) :
    ∃ written, (textBefore front tokens).foldlM (Progress.add emoji) ⟨[], [], []⟩ =
      tokens.foldlM (Progress.add emoji) ⟨written, [], []⟩ := by
  unfold textBefore
  split
  · exact ⟨[], rfl⟩
  · exact ⟨_, rfl⟩

/-- A closing tag behind a text without tags closes nothing. -/
theorem read_of_stray {name : String} (hslash : '\\' ∉ front) (hbracket : '[' ∉ front)
    (htag : tagAfter? rest = some (inside, after)) (hclosing : inside.head? = some '/')
    (hplain : '=' ∉ inside) (hname : Text.trim (inside.drop 1) ≠ [])
    (hnormal : Style.normalText (Text.trim (inside.drop 1)) = .ok name) (emoji : Bool) :
    read emoji (front ++ '[' :: rest) = .error (.unmatched ⟨inside, none⟩ front.length) := by
  have htokens : tokens (front ++ '[' :: rest) = textBefore front (.tag front.length ⟨inside, none⟩ ::
      tokensAfter (front.length + inside.length + 2) [] 0 after) := by
    rw [tokens, tokensAfter_append hslash hbracket, tokensAfter_tag htag, Tag.ofText,
      Text.cutAt_of_not_mem hplain, Nat.zero_add]
    rfl
  obtain ⟨written, hwritten⟩ := foldlM_textBefore emoji front (.tag front.length ⟨inside, none⟩ ::
    tokensAfter (front.length + inside.length + 2) [] 0 after)
  have hfault : Progress.add emoji ⟨written, [], []⟩ (.tag front.length ⟨inside, none⟩) =
      .error (.unmatched ⟨inside, none⟩ front.length) := by
    rw [Progress.add, if_pos hclosing, Progress.closeNamed]
    dsimp only
    split
    · rename_i hempty
      exact absurd hempty hname
    · rw [hnormal]
      rfl
  unfold read
  rw [htokens, hwritten, List.foldlM_cons, hfault]
  rfl

end DenoBridge.Terminal.Markup
