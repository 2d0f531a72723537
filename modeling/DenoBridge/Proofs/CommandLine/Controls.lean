import DenoBridge.CommandLine.Run

/-! # Sequences that control a terminal

    Such a sequence is an escape character, an opening bracket, parameters
    (digits, semicolons and question marks) and a letter.  Stripping a text of
    them changes it exactly when there is one in it
    (`stripControls_eq_self_iff`), since whatever is stripped makes the text
    shorter (`length_stripControls_lt`).
-/

namespace DenoBridge.CommandLine

/-! ## Section 1: Sequences -/

/-- Can the character stand between the bracket and the letter? -/
def isParameter (c : Char) : Bool :=
  c.isDigit || c == ';' || c == '?'

/-- What follows an escape character and a bracket completes a sequence. -/
def CompletesControl (rest : List Char) : Prop :=
  ∃ parameters letter after, rest = parameters ++ letter :: after ∧
    (∀ c ∈ parameters, isParameter c = true) ∧ letter.isAlpha = true

/-- There is a sequence that controls a terminal in the text. -/
def HasControl (text : List Char) : Prop :=
  ∃ before rest, text = before ++ '\x1b' :: '[' :: rest ∧ CompletesControl rest

theorem isParameter_of_isAlpha {letter : Char} (h : letter.isAlpha = true) :
    isParameter letter = false := by
  -- The codes of letters begin at 65, and those of digits end at 57.
  have hcode : 65 ≤ letter.val.toNat := by
    have hcases : letter.isUpper = true ∨ letter.isLower = true := by
      rw [← Bool.or_eq_true]
      exact h
    rcases hcases with hupper | hlower
    · have hbounds : 65 ≤ letter.val ∧ letter.val ≤ 90 := of_decide_eq_true hupper
      exact hbounds.1
    · have hfrom : (decide (97 ≤ letter.val) && decide (letter.val ≤ 122)) = true := hlower
      have hle : 97 ≤ letter.val.toNat := of_decide_eq_true (Bool.and_eq_true_iff.1 hfrom).1
      omega
  have hdigit : letter.isDigit = false := by
    simp only [Char.isDigit, Bool.and_eq_false_iff, decide_eq_false_iff_not]
    refine .inr fun hle => ?_
    have hbelow : letter.val.toNat ≤ 57 := hle
    omega
  have hsemicolon : letter ≠ ';' := by
    rintro rfl
    exact absurd h (by decide)
  have hquestion : letter ≠ '?' := by
    rintro rfl
    exact absurd h (by decide)
  unfold isParameter
  simp [hdigit, hsemicolon, hquestion]

/-- A sequence is completed by the first character that is no parameter, if
    that is a letter. -/
theorem completesControl_iff (rest : List Char) : CompletesControl rest ↔
    ∃ letter after, rest.dropWhile isParameter = letter :: after ∧ letter.isAlpha = true := by
  constructor
  · rintro ⟨parameters, letter, after, rfl, hparameters, hletter⟩
    refine ⟨letter, after, ?_, hletter⟩
    rw [List.dropWhile_append_of_pos hparameters]
    exact List.dropWhile_cons_of_neg (by simp [isParameter_of_isAlpha hletter])
  · rintro ⟨letter, after, hdrop, hletter⟩
    refine ⟨rest.takeWhile isParameter, letter, after, ?_, ?_, hletter⟩
    · rw [← hdrop, List.takeWhile_append_dropWhile]
    · intro c hc
      exact (List.all_eq_true.1 List.all_takeWhile) c hc

theorem not_hasControl_nil : ¬ HasControl [] := by
  rintro ⟨before, rest, habsurd, -⟩
  simp at habsurd

/-- A sequence stands at the start of a text or in what follows its first
    character. -/
theorem hasControl_cons (c : Char) (rest : List Char) : HasControl (c :: rest) ↔
    (∃ after, c = '\x1b' ∧ rest = '[' :: after ∧ CompletesControl after) ∨ HasControl rest := by
  constructor
  · rintro ⟨before, after, htext, hcompletes⟩
    cases before with
    | nil =>
      obtain ⟨rfl, rfl⟩ := List.cons.inj htext
      exact .inl ⟨after, rfl, rfl, hcompletes⟩
    | cons first before =>
      obtain ⟨rfl, rfl⟩ := List.cons.inj htext
      exact .inr ⟨before, after, rfl, hcompletes⟩
  · rintro (⟨after, rfl, rfl, hcompletes⟩ | ⟨before, after, rfl, hcompletes⟩)
    · exact ⟨[], after, rfl, hcompletes⟩
    · exact ⟨c :: before, after, rfl, hcompletes⟩

/-! ## Section 2: Stripping -/

theorem stripControls_sequence {rest after : List Char} {letter : Char}
    (hdrop : rest.dropWhile isParameter = letter :: after) (hletter : letter.isAlpha = true) :
    stripControls ('\x1b' :: '[' :: rest) = stripControls after := by
  have hsplit : rest.takeWhile isParameter ++ letter :: after = rest := by
    rw [← hdrop, List.takeWhile_append_dropWhile]
  have hlength : rest.length - (letter :: after).length = (rest.takeWhile isParameter).length := by
    have hlen := congrArg List.length hsplit
    rw [List.length_append] at hlen
    omega
  have hrest : rest.drop (rest.length - (letter :: after).length + 1) = after := by
    have htail : (rest.takeWhile isParameter ++ letter :: after).drop
        ((rest.takeWhile isParameter).length + 1) = after := by simp
    rw [hsplit] at htail
    rw [hlength, htail]
  have hdrop' : (rest.dropWhile fun c => c.isDigit || c == ';' || c == '?') = letter :: after := hdrop
  rw [stripControls]
  simp only [hdrop', hletter, if_true, hrest]

/-- Outside of sequences characters are kept one by one. -/
theorem stripControls_cons {c : Char} {rest : List Char}
    (h : ∀ after, c = '\x1b' → rest = '[' :: after → ¬ CompletesControl after) :
    stripControls (c :: rest) = c :: stripControls rest := by
  by_cases hstart : c = '\x1b' ∧ ∃ after, rest = '[' :: after
  -- What looks like a sequence lacks its letter, and then the escape is kept too.
  · obtain ⟨rfl, after, rfl⟩ := hstart
    have hnone := h after rfl rfl
    rw [completesControl_iff] at hnone
    rw [stripControls]
    cases hdrop : after.dropWhile isParameter with
    | nil =>
      have hdrop' : (after.dropWhile fun c => c.isDigit || c == ';' || c == '?') = [] := hdrop
      simp only [hdrop']
    | cons letter more =>
      have hdrop' : (after.dropWhile fun c => c.isDigit || c == ';' || c == '?') = letter :: more :=
        hdrop
      have hletter : ¬ letter.isAlpha = true := fun hletter => hnone ⟨letter, more, hdrop, hletter⟩
      simp only [hdrop', hletter, if_false, Bool.false_eq_true]
  · rw [stripControls]
    rintro rest' rfl rfl
    exact hstart ⟨rfl, rest', rfl⟩

/-- A text that begins with a sequence goes on behind it; any other one keeps
    its first character. -/
theorem strip_cases (c : Char) (rest : List Char) :
    (∃ parameters letter after, c = '\x1b' ∧ rest = '[' :: (parameters ++ letter :: after) ∧
      HasControl (c :: rest) ∧ stripControls (c :: rest) = stripControls after) ∨
    (stripControls (c :: rest) = c :: stripControls rest ∧
      (HasControl (c :: rest) ↔ HasControl rest)) := by
  by_cases hstart : ∃ after, c = '\x1b' ∧ rest = '[' :: after ∧ CompletesControl after
  · obtain ⟨after, rfl, rfl, hcompletes⟩ := hstart
    obtain ⟨letter, more, hdrop, hletter⟩ := (completesControl_iff after).1 hcompletes
    refine .inl ⟨after.takeWhile isParameter, letter, more, rfl, ?_, ?_, ?_⟩
    · rw [← hdrop, List.takeWhile_append_dropWhile]
    · exact ⟨[], after, rfl, hcompletes⟩
    · exact stripControls_sequence hdrop hletter
  · refine .inr ⟨stripControls_cons ?_, ?_⟩
    · intro after hc hrest hcompletes
      exact hstart ⟨after, hc, hrest, hcompletes⟩
    · rw [hasControl_cons]
      exact or_iff_right hstart

/-! ## Section 3: What stripping changes -/

theorem length_stripControls_le (text : List Char) : (stripControls text).length ≤ text.length := by
  -- A sequence is skipped as a whole, so the induction is on the length.
  induction hn : text.length using Nat.strongRecOn generalizing text with
  | ind n ih =>
    subst hn
    cases text with
    | nil => simp [stripControls]
    | cons c rest =>
      rcases strip_cases c rest with ⟨parameters, letter, after, rfl, rfl, -, hstrip⟩ | ⟨hstrip, -⟩
      · have hafter := ih after.length (by simp; omega) after rfl
        rw [hstrip]
        simp only [List.length_cons, List.length_append]
        omega
      · have hrest := ih rest.length (by simp) rest rfl
        rw [hstrip]
        simpa using hrest

/-- Where there is a sequence, stripping takes something away. -/
theorem length_stripControls_lt {text : List Char} (h : HasControl text) :
    (stripControls text).length < text.length := by
  induction text with
  | nil => exact absurd h not_hasControl_nil
  | cons c rest ih =>
    rcases strip_cases c rest with ⟨parameters, letter, after, rfl, rfl, -, hstrip⟩ | ⟨hstrip, hiff⟩
    · have hafter := length_stripControls_le after
      rw [hstrip]
      simp only [List.length_cons, List.length_append]
      omega
    · have hrest := ih (hiff.1 h)
      rw [hstrip]
      simpa using hrest

/-- Without a sequence everything is kept. -/
theorem stripControls_of_not_hasControl {text : List Char} (h : ¬ HasControl text) :
    stripControls text = text := by
  induction text with
  | nil => simp [stripControls]
  | cons c rest ih =>
    rcases strip_cases c rest with ⟨_, _, _, -, -, habsurd, -⟩ | ⟨hstrip, hiff⟩
    · exact absurd habsurd h
    · rw [hstrip, ih (fun hrest => h (hiff.2 hrest))]

/-- Stripping keeps exactly the texts that hold no sequence. -/
theorem stripControls_eq_self_iff (text : List Char) :
    stripControls text = text ↔ ¬ HasControl text := by
  constructor
  · intro hkept hcontrol
    have hshorter := length_stripControls_lt hcontrol
    rw [hkept] at hshorter
    exact absurd hshorter (Nat.lt_irrefl _)
  · exact stripControls_of_not_hasControl

end DenoBridge.CommandLine
