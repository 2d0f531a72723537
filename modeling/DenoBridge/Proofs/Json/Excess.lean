import DenoBridge.Json.Reader
import DenoBridge.Proofs.Results

/-! # What is too much to read

    Reading stops at the first token that it cannot take.  The text is
    malformed there, or the token is too much: a number with too many digits,
    or a bracket inside too many open ones (`ofTokens_error_iff`).  Both can
    be told from the tokens alone.  The brackets that are open are those that
    were opened and not closed (`depth_of_run`), and a value is awaited where
    with a `null` the text could be completed (`awaited_iff`).
-/

namespace DenoBridge.Json

variable {limit : Nat} {tokens before after : List Token} {token : Token} {failure : Failure}

/-! ## Section 1: Runs -/

/-- Tokens lead from the start to a state. -/
def Reaches (limit : Nat) (tokens : List Token) (st : State) : Prop :=
  tokens.foldlM (State.step limit) (.wantValue []) = .ok st

/-! ## Section 2: Open brackets -/

/-- Does the token open a bracket? -/
def Token.opens : Token → Bool
  | .opening _ => true
  | _ => false

/-- Does the token close a bracket? -/
def Token.closes : Token → Bool
  | .closing _ => true
  | _ => false

/-- The number of brackets that tokens leave open. -/
def depth (tokens : List Token) : Nat :=
  tokens.countP Token.opens - tokens.countP Token.closes

/-- The number of brackets that are open in a state. -/
def State.openCount : State → Nat
  | .wantValue around => around.length
  | .wantItem around | .wantName _ around | .wantColon _ _ around | .wantMore _ around =>
    around.length + 1
  | .done _ => 0

section OpenCount

variable (value : Json) (frame : Frame) (around : List Frame)
  (members : List (List Glyph × Json)) (name : List Glyph)

@[simp] theorem State.openCount_wantValue : (wantValue around).openCount = around.length := rfl

@[simp] theorem State.openCount_wantItem : (wantItem around).openCount = around.length + 1 := rfl

@[simp] theorem State.openCount_wantName :
    (wantName members around).openCount = around.length + 1 := rfl

@[simp] theorem State.openCount_wantColon :
    (wantColon members name around).openCount = around.length + 1 := rfl

@[simp] theorem State.openCount_wantMore :
    (wantMore frame around).openCount = around.length + 1 := rfl

@[simp] theorem State.openCount_supply :
    (State.supply value around).openCount = around.length := by
  cases around with
  | nil => rfl
  | cons frame rest => cases frame <;> rfl

end OpenCount

/-- A token leads from so many open brackets to so many. -/
def Token.Leads (token : Token) (m n : Nat) : Prop :=
  n + (if token.closes then 1 else 0) = m + (if token.opens then 1 else 0)

/-- The token is too much inside so many open brackets. -/
inductive Exceeds (limit depth : Nat) : Token → Failure → Prop where
  | digits {negative : Bool} {digits : List Char} :
    Digits.digitLimit < digits.length → Exceeds limit depth (.whole negative digits)
      (.tooManyDigits ⟨digits.length⟩)
  | nesting {shape : Shape} :
    limit ≤ depth → Exceeds limit depth (.opening shape) (.tooDeep shape)

theorem Exceeds.unique {depth : Nat} {failure' : Failure} (h : Exceeds limit depth token failure)
    (h' : Exceeds limit depth token failure') : failure = failure' := by
  cases h <;> (cases h'; rfl)

/-- What the first token of a value leads to: it is taken, it is too much, or
    it begins no value. -/
theorem begin_cases (limit : Nat) (around : List Frame) (token : Token) :
    (∃ st, State.begin limit around token = .ok st ∧ token.Leads around.length st.openCount ∧
      ∀ failure, ¬ Exceeds limit around.length token failure) ∨
    (∃ failure, State.begin limit around token = .error failure ∧
      Exceeds limit around.length token failure) ∨
    (State.begin limit around token = .error .malformed ∧
      ∀ failure, ¬ Exceeds limit around.length token failure) := by
  cases token with
  | atom value =>
    exact .inl ⟨_, rfl, State.openCount_supply _ _, fun _ habsurd => nomatch habsurd⟩
  | whole negative digits =>
    -- The number is computed only if it has few enough digits.
    by_cases hmany : Digits.digitLimit < digits.length
    · refine .inr (.inl ⟨_, ?_, .digits hmany⟩)
      simp only [State.begin, Digits.value?, gt_iff_lt, if_pos hmany]
    · refine .inl ⟨.supply (.integer (if negative then -(Digits.value digits : Int)
        else Digits.value digits)) around, ?_, State.openCount_supply _ _, ?_⟩
      · simp only [State.begin, Digits.value?, gt_iff_lt, if_neg hmany]
      · rintro failure (hdigits | _)
        exact hmany hdigits
  | opening shape =>
    by_cases hdeep : limit ≤ around.length
    · refine .inr (.inl ⟨_, ?_, .nesting hdeep⟩)
      simp only [State.begin, ge_iff_le, if_pos hdeep]
    · have hnone : ∀ failure, ¬ Exceeds limit around.length (.opening shape) failure := by
        rintro failure (_ | hnesting)
        exact hdeep hnesting
      cases shape with
      | array =>
        refine .inl ⟨.wantItem around, ?_, rfl, hnone⟩
        simp only [State.begin, ge_iff_le, if_neg hdeep]
      | object =>
        refine .inl ⟨.wantName [] around, ?_, rfl, hnone⟩
        simp only [State.begin, ge_iff_le, if_neg hdeep]
  | closing shape => exact .inr (.inr ⟨rfl, fun _ habsurd => nomatch habsurd⟩)
  | comma => exact .inr (.inr ⟨rfl, fun _ habsurd => nomatch habsurd⟩)
  | colon => exact .inr (.inr ⟨rfl, fun _ habsurd => nomatch habsurd⟩)
  | junk => exact .inr (.inr ⟨rfl, fun _ habsurd => nomatch habsurd⟩)

theorem leads_of_begin {around : List Frame} {st : State}
    (h : State.begin limit around token = .ok st) : token.Leads around.length st.openCount := by
  rcases begin_cases limit around token with
    ⟨st', hbegin, hleads, -⟩ | ⟨failure, hbegin, -⟩ | ⟨hbegin, -⟩ <;> rw [hbegin] at h
  · obtain rfl := Except.ok.inj h
    exact hleads
  · cases h
  · cases h

theorem begin_error_iff {around : List Frame} (h : failure ≠ .malformed) :
    State.begin limit around token = .error failure ↔
      Exceeds limit around.length token failure := by
  rcases begin_cases limit around token with
    ⟨st, hbegin, -, hnone⟩ | ⟨failure', hbegin, hexceeds⟩ | ⟨hbegin, hnone⟩ <;> rw [hbegin]
  · exact ⟨fun habsurd => (nomatch habsurd), fun hexceeds => absurd hexceeds (hnone _)⟩
  · constructor
    · intro hfailure
      obtain rfl := Except.error.inj hfailure
      exact hexceeds
    · intro hexceeds'
      rw [hexceeds.unique hexceeds']
  · constructor
    · intro hfailure
      exact absurd (Except.error.inj hfailure).symm h
    · intro hexceeds
      exact absurd hexceeds (hnone _)

/-- A step opens and closes the bracket that its token is. -/
theorem leads_of_step {st st' : State} (h : st.step limit token = .ok st') :
    token.Leads st.openCount st'.openCount := by
  unfold State.step at h
  split at h
  -- Where a value may come, the first token of one has its own lemma.
  case h_1 => exact leads_of_begin h
  case h_3 => exact leads_of_begin h
  case h_11 => cases h
  all_goals
    obtain rfl := Except.ok.inj h
    simp [Token.Leads, Token.opens, Token.closes]

/-- What one step does to the count of open brackets adds up over a run. -/
theorem openCount_foldlM {st st' : State} (h : tokens.foldlM (State.step limit) st = .ok st') :
    st'.openCount + tokens.countP Token.closes = st.openCount + tokens.countP Token.opens := by
  induction tokens generalizing st with
  | nil =>
    obtain rfl := Except.ok.inj h
    rfl
  | cons token rest ih =>
    rw [List.foldlM_cons] at h
    obtain ⟨next, hstep, h⟩ := exists_of_bind_ok h
    have hfirst := leads_of_step hstep
    have hrest := ih h
    unfold Token.Leads at hfirst
    rw [List.countP_cons, List.countP_cons]
    omega

/-- The brackets that are open are those that tokens opened and did not
    close. -/
theorem depth_of_run {st : State} (h : Reaches limit tokens st) : depth tokens = st.openCount := by
  have hcount := openCount_foldlM h
  rw [State.openCount_wantValue, List.length_nil] at hcount
  unfold depth
  omega

/-! ## Section 3: Where a value is awaited -/

/-- The frames inside which a value is awaited. -/
def State.inside? : State → Option (List Frame)
  | .wantValue around => some around
  | .wantItem around => some (.array [] :: around)
  | _ => none

theorem inside?_none {st : State} (hvalue : ∀ around, st ≠ .wantValue around)
    (hitem : ∀ around, st ≠ .wantItem around) : st.inside? = none := by
  cases st with
  | wantValue around => exact absurd rfl (hvalue around)
  | wantItem around => exact absurd rfl (hitem around)
  | _ => rfl

theorem openCount_of_inside? {st : State} {frames : List Frame} (h : st.inside? = some frames) :
    st.openCount = frames.length := by
  cases st with
  | wantValue around =>
    obtain rfl := Option.some.inj h
    rfl
  | wantItem around =>
    obtain rfl := Option.some.inj h
    rfl
  | _ => cases h

/-- A step begins the awaited value, or its token is taken or malformed and
    can be no first token of a value here. -/
theorem step_cases (limit : Nat) (st : State) (token : Token) :
    (∃ frames, st.inside? = some frames ∧ st.step limit token = State.begin limit frames token) ∨
    (((∃ st', st.step limit token = .ok st') ∨ st.step limit token = .error .malformed) ∧
      (st.inside? = none ∨ ∃ shape, token = .closing shape)) := by
  unfold State.step
  split
  case h_1 token around => exact .inl ⟨around, rfl, rfl⟩
  case h_2 around => exact .inr ⟨.inl ⟨_, rfl⟩, .inr ⟨_, rfl⟩⟩
  case h_3 token around _ => exact .inl ⟨.array [] :: around, rfl, rfl⟩
  case h_11 _ _ hvalue hitem _ _ _ _ _ _ _ _ =>
    exact .inr ⟨.inr rfl, .inl (inside?_none hvalue hitem)⟩
  all_goals exact .inr ⟨.inl ⟨_, rfl⟩, .inl rfl⟩

/-- A token can be too much only where a value is awaited. -/
theorem step_error_iff {st : State} (h : failure ≠ .malformed) :
    st.step limit token = .error failure ↔
      ∃ frames, st.inside? = some frames ∧ Exceeds limit frames.length token failure := by
  rcases step_cases limit st token with ⟨frames, hinside, hstep⟩ | ⟨hstep, hinside⟩
  · rw [hstep, hinside, begin_error_iff h]
    simp
  · constructor
    · intro hfailure
      rcases hstep with ⟨st', hstep⟩ | hstep <;> rw [hstep] at hfailure
      · cases hfailure
      · exact absurd (Except.error.inj hfailure).symm h
    · rintro ⟨frames, hframes, hexceeds⟩
      rcases hinside with hnone | ⟨shape, rfl⟩
      · rw [hnone] at hframes
        cases hframes
      · cases hexceeds

/-- A value is awaited behind the tokens: with a `null` there, the text can be
    completed. -/
def Awaited (limit : Nat) (before : List Token) : Prop :=
  ∃ after value, ofTokens limit (before ++ .atom .null :: after) = .ok value

/-- The token that closes a bracket. -/
def Frame.closer : Frame → Token
  | .array _ => .closing .array
  | .object _ _ => .closing .object

/-- Once a value was read, closing the open brackets completes the text. -/
theorem foldlM_closers (limit : Nat) (frames : List Frame) (value : Json) :
    ∃ result, (frames.map Frame.closer).foldlM (State.step limit) (State.supply value frames) =
      .ok (.done result) := by
  induction frames generalizing value with
  | nil => exact ⟨value, rfl⟩
  | cons frame rest ih =>
    cases frame with
    | array items => exact ih (.array (value :: items).reverse)
    | object members name => exact ih (.object ((name, value) :: members).reverse)

theorem ofTokens_eq_ok_iff {value : Json} :
    ofTokens limit tokens = .ok value ↔ Reaches limit tokens (.done value) := by
  unfold ofTokens Reaches
  constructor
  · intro h
    split at h
    · rename_i found hrun
      obtain rfl := Except.ok.inj h
      exact hrun
    · cases h
    · cases h
  · intro h
    rw [h]

theorem reaches_append {st : State} :
    Reaches limit (before ++ after) st ↔
      ∃ middle, Reaches limit before middle ∧ after.foldlM (State.step limit) middle = .ok st := by
  unfold Reaches
  rw [List.foldlM_append]
  constructor
  · intro h
    exact exists_of_bind_ok h
  · rintro ⟨middle, hmiddle, h⟩
    rw [hmiddle]
    exact h

theorem step_null_of_inside {st : State} {frames : List Frame} (h : st.inside? = some frames) :
    st.step limit (.atom .null) = .ok (.supply .null frames) := by
  cases st with
  | wantValue around =>
    obtain rfl := Option.some.inj h
    rfl
  | wantItem around =>
    obtain rfl := Option.some.inj h
    rfl
  | _ => cases h

theorem step_null_of_outside {st : State} (h : st.inside? = none) :
    st.step limit (.atom .null) = .error .malformed := by
  cases st with
  | wantValue around => cases h
  | wantItem around => cases h
  | wantMore frame around => cases frame <;> rfl
  | _ => rfl

/-- A value is awaited behind the tokens exactly when they lead to a state that
    awaits one. -/
theorem awaited_iff : Awaited limit before ↔
    ∃ st frames, Reaches limit before st ∧ st.inside? = some frames := by
  constructor
  · rintro ⟨after, value, hread⟩
    obtain ⟨st, hbefore, hafter⟩ := reaches_append.1 (ofTokens_eq_ok_iff.1 hread)
    refine ⟨st, ?_⟩
    rw [List.foldlM_cons] at hafter
    cases hinside : st.inside? with
    | some frames => exact ⟨frames, hbefore, rfl⟩
    | none =>
      -- Elsewhere the `null` itself is malformed.
      rw [step_null_of_outside hinside] at hafter
      cases hafter
  · rintro ⟨st, frames, hbefore, hinside⟩
    obtain ⟨result, hclosers⟩ := foldlM_closers limit frames .null
    refine ⟨frames.map Frame.closer, result, ?_⟩
    refine ofTokens_eq_ok_iff.2 (reaches_append.2 ⟨st, hbefore, ?_⟩)
    rw [List.foldlM_cons, step_null_of_inside hinside]
    exact hclosers

/-! ## Section 4: What is too much -/

/-- Somewhere in the tokens a value is awaited, and the token that comes is
    too much. -/
def TooMuch (limit : Nat) (tokens : List Token) (failure : Failure) : Prop :=
  ∃ before token after, tokens = before ++ token :: after ∧ Awaited limit before ∧
    Exceeds limit (depth before) token failure

/-- Tokens are refused for their size in a step. -/
theorem ofTokens_error_iff_foldlM (h : failure ≠ .malformed) :
    ofTokens limit tokens = .error failure ↔
      tokens.foldlM (State.step limit) (.wantValue []) = .error failure := by
  unfold ofTokens
  split
  · rename_i hrun
    rw [hrun]
    exact ⟨fun habsurd => (nomatch habsurd), fun habsurd => (nomatch habsurd)⟩
  · rename_i hrun
    rw [hrun]
    exact ⟨fun heq => absurd (Except.error.inj heq).symm h, fun habsurd => (nomatch habsurd)⟩
  · rename_i hrun
    rw [hrun, Except.error.injEq, Except.error.injEq]

/-- Tokens are refused for their size exactly when one of them is too much. -/
theorem ofTokens_error_iff (h : failure ≠ .malformed) :
    ofTokens limit tokens = .error failure ↔ TooMuch limit tokens failure := by
  rw [ofTokens_error_iff_foldlM h, foldlM_error_iff]
  constructor
  · rintro ⟨before, token, after, st, rfl, hbefore, hstep⟩
    obtain ⟨frames, hinside, hexceeds⟩ := (step_error_iff h).1 hstep
    refine ⟨before, token, after, rfl, awaited_iff.2 ⟨st, frames, hbefore, hinside⟩, ?_⟩
    rw [depth_of_run hbefore, openCount_of_inside? hinside]
    exact hexceeds
  · rintro ⟨before, token, after, rfl, hawaited, hexceeds⟩
    obtain ⟨st, frames, hbefore, hinside⟩ := awaited_iff.1 hawaited
    rw [depth_of_run hbefore, openCount_of_inside? hinside] at hexceeds
    exact ⟨before, token, after, st, rfl, hbefore,
      (step_error_iff h).2 ⟨frames, hinside, hexceeds⟩⟩

/-- Whole numbers and nesting stay in the limits. -/
structure IsModest (limit : Nat) (tokens : List Token) : Prop where
  digits : ∀ negative digits, .whole negative digits ∈ tokens →
    digits.length ≤ Digits.digitLimit
  nesting : ∀ before shape after, tokens = before ++ .opening shape :: after →
    depth before < limit

/-- Few tokens are not nested too deeply. -/
theorem isModest_of_length {tokens : List Token} (hlength : tokens.length ≤ limit)
    (hdigits : ∀ negative digits, .whole negative digits ∈ tokens →
      digits.length ≤ Digits.digitLimit) : IsModest limit tokens := by
  refine ⟨hdigits, ?_⟩
  rintro before shape after rfl
  have hopens : before.countP Token.opens ≤ before.length := List.countP_le_length
  rw [List.length_append, List.length_cons] at hlength
  unfold depth
  omega

theorem IsModest.not_tooMuch {tokens : List Token} (h : IsModest limit tokens) (failure : Failure) :
    ¬TooMuch limit tokens failure := by
  rintro ⟨before, token, after, rfl, -, hexceeds⟩
  cases hexceeds with
  | digits hmany =>
    have hfew := h.digits _ _ (List.mem_append_right before List.mem_cons_self)
    omega
  | nesting hdeep =>
    have hroom := h.nesting before _ after rfl
    omega

/-- A number alone is too much if it has too many digits. -/
theorem tooMuch_whole {negative : Bool} {digits : List Char}
    (h : Digits.digitLimit < digits.length) :
    TooMuch limit [.whole negative digits] (.tooManyDigits ⟨digits.length⟩) :=
  ⟨[], _, [], rfl, ⟨[], .null, rfl⟩, .digits h⟩

theorem read_error_iff {text : List Char} (h : failure ≠ .malformed) :
    read limit text = .error failure ↔ TooMuch limit (lex text) failure :=
  ofTokens_error_iff h

end DenoBridge.Json
