import DenoBridge.Proofs.Json.Excess
import DenoBridge.Proofs.Json.Grammar

/-! # Tokens that are read

    The machine takes exactly the tokens that spell a value
    (`ofTokens_iff_spells`).  What spells a phrase is taken where the phrase is
    awaited (`led_of_spells`), by induction on the grammar.  For the other
    direction every state knows what its tokens have spelled so far, open
    brackets included (`Consumed`); a step keeps that (`consumed_step`), and so
    does a run.
-/

namespace DenoBridge.Json

variable {limit depth : Nat} {tokens before after : List Token} {token : Token} {value : Json}

/-! ## Section 1: What is spelled is read -/

/-- Where a phrase is awaited, its tokens lead to the state behind it. -/
def Phrase.Led (limit : Nat) (tokens : List Token) (depth : Nat) : Phrase → Prop
  | .value value => ∀ around : List Frame, around.length = depth →
      tokens.foldlM (State.step limit) (.wantValue around) = .ok (.supply value around)
  | .items values => ∀ around : List Frame, around.length + 1 = depth →
      tokens.foldlM (State.step limit) (.wantValue (.array [] :: around)) =
        .ok (.wantMore (.array values.reverse) around)
  | .members pairs => ∀ around : List Frame, around.length + 1 = depth →
      ∃ name, tokens.foldlM (State.step limit) (.wantName [] around) =
        .ok (.wantMore (.object pairs.reverse name) around)

/-- Phrases begin with no closing bracket. -/
theorem exists_cons_of_spells {phrase : Phrase} (h : Spells limit depth phrase tokens) :
    ∃ token rest, tokens = token :: rest ∧ ∀ shape, token ≠ .closing shape := by
  induction h with
  | item _ ih => exact ih
  | nextItem _ _ ih _ =>
    obtain ⟨token, rest, rfl, hopen⟩ := ih
    exact ⟨token, _, rfl, hopen⟩
  | nextMember _ _ ih _ =>
    obtain ⟨token, rest, rfl, hopen⟩ := ih
    exact ⟨token, _, rfl, hopen⟩
  | _ => exact ⟨_, _, rfl, fun _ habsurd => nomatch habsurd⟩

/-- An object without members is spelled by its brackets alone. -/
theorem members_ne_nil_of_spells {members : List (List Glyph × Json)}
    (h : Spells limit depth (.members members) tokens) : members ≠ [] := by
  cases h with
  | member => simp
  | nextMember => simp

/-- The first item of an array is read like any other value. -/
theorem step_wantItem {around : List Frame} (h : ∀ shape, token ≠ .closing shape) :
    (State.wantItem around).step limit token =
      (State.wantValue (.array [] :: around)).step limit token := by
  cases token with
  | closing shape => exact absurd rfl (h shape)
  | _ => rfl

theorem foldlM_of_append {st middle st' : State}
    (hbefore : before.foldlM (State.step limit) st = .ok middle)
    (hafter : after.foldlM (State.step limit) middle = .ok st') :
    (before ++ after).foldlM (State.step limit) st = .ok st' := by
  rw [List.foldlM_append, hbefore]
  exact hafter

theorem foldlM_of_cons {st middle st' : State} (hfirst : st.step limit token = .ok middle)
    (hrest : tokens.foldlM (State.step limit) middle = .ok st') :
    (token :: tokens).foldlM (State.step limit) st = .ok st' := by
  rw [List.foldlM_cons, hfirst]
  exact hrest

theorem begin_opening {around : List Frame} (h : around.length < limit) :
    State.begin limit around (.opening .array) = .ok (.wantItem around) ∧
      State.begin limit around (.opening .object) = .ok (.wantName [] around) := by
  have hroom : ¬around.length ≥ limit := Nat.not_le.2 h
  unfold State.begin
  simp only [hroom, if_false, and_self]

theorem begin_whole (limit : Nat) {around : List Frame} {negative : Bool} {digits : List Char}
    (h : digits.length ≤ Digits.digitLimit) :
    State.begin limit around (.whole negative digits) =
      .ok (.supply (.integer (if negative then -(Digits.value digits : Int)
        else Digits.value digits)) around) := by
  have hfew : ¬digits.length > Digits.digitLimit := Nat.not_lt.2 h
  unfold State.begin Digits.value?
  simp only [hfew, if_false]

theorem led_of_spells {phrase : Phrase} (h : Spells limit depth phrase tokens) :
    phrase.Led limit tokens depth := by
  -- On the grammar: each rule is one run of the machine, put together from those of its parts.
  induction h with
  | atom =>
    intro around _
    rfl
  | whole hdigits =>
    intro around _
    exact foldlM_of_cons (begin_whole limit hdigits) rfl
  | emptyArray hdepth =>
    rintro around rfl
    exact foldlM_of_cons (begin_opening hdepth).1 rfl
  | array hdepth hitems ih =>
    rintro around rfl
    -- The first item is awaited in a state of its own, which may also end the array.
    obtain ⟨first, rest, rfl, hopen⟩ := exists_cons_of_spells hitems
    have hinner := ih around rfl
    rw [List.foldlM_cons, ← step_wantItem hopen, ← List.foldlM_cons] at hinner
    refine foldlM_of_cons (begin_opening hdepth).1 (foldlM_of_append hinner ?_)
    rw [List.foldlM_cons, State.step, List.reverse_reverse]
    rfl
  | emptyObject hdepth =>
    rintro around rfl
    exact foldlM_of_cons (begin_opening hdepth).2 rfl
  | object hdepth _ ih =>
    rintro around rfl
    obtain ⟨name, hmembers⟩ := ih around rfl
    refine foldlM_of_cons (begin_opening hdepth).2 (foldlM_of_append hmembers ?_)
    rw [List.foldlM_cons, State.step, List.reverse_reverse]
    rfl
  | item _ ih =>
    intro around hdepth
    exact ih (.array [] :: around) hdepth
  | nextItem _ _ ihBefore ih =>
    intro around hdepth
    refine foldlM_of_append (ihBefore around hdepth) (foldlM_of_cons rfl ?_)
    rw [List.reverse_append]
    exact ih (.array _ :: around) hdepth
  | member _ ih =>
    intro around hdepth
    exact ⟨_, foldlM_of_cons rfl (foldlM_of_cons rfl (ih (.object [] _ :: around) hdepth))⟩
  | @nextMember depth members name value before tokens _ _ ihBefore ih =>
    intro around hdepth
    obtain ⟨last, hmembers⟩ := ihBefore around hdepth
    have hvalue := ih (.object members.reverse name :: around) hdepth
    rw [List.reverse_append]
    exact ⟨name, foldlM_of_append hmembers (foldlM_of_cons rfl (foldlM_of_cons rfl
      (foldlM_of_cons rfl hvalue)))⟩

/-! ## Section 2: What is read was spelled -/

/-- The tokens of an open bracket, up to where its next value is awaited. -/
inductive Frame.Led (limit depth : Nat) : Frame → List Token → Prop where
  | array : Led limit depth (.array []) [.opening .array]
  | nextItem {items : List Json} {tokens : List Token} :
    Spells limit depth (.items items.reverse) tokens →
      Led limit depth (.array items) (.opening .array :: (tokens ++ [.comma]))
  | object {name : List Glyph} :
    Led limit depth (.object [] name) [.opening .object, .atom (.string name), .colon]
  | nextMember {members : List (List Glyph × Json)} {name : List Glyph} {tokens : List Token} :
    Spells limit depth (.members members.reverse) tokens →
      Led limit depth (.object members name)
        (.opening .object :: (tokens ++ [.comma, .atom (.string name), .colon]))

/-- The tokens of all open brackets, up to where a value is awaited. -/
inductive Around (limit : Nat) : List Frame → List Token → Prop where
  | nil : Around limit [] []
  | cons {frame : Frame} {around : List Frame} {before tokens : List Token} :
    Around limit around before → around.length < limit →
      frame.Led limit (around.length + 1) tokens → Around limit (frame :: around) (before ++ tokens)

/-- What was read of an object, up to where a name is awaited. -/
inductive Named (limit depth : Nat) : List (List Glyph × Json) → List Token → Prop where
  | first : Named limit depth [] [.opening .object]
  | next {members : List (List Glyph × Json)} {tokens : List Token} :
    Spells limit depth (.members members.reverse) tokens →
      Named limit depth members (.opening .object :: (tokens ++ [.comma]))

/-- What was read between brackets, up to a comma or the end. -/
inductive Frame.Filled (limit depth : Nat) : Frame → List Token → Prop where
  | array {items : List Json} {tokens : List Token} :
    Spells limit depth (.items items.reverse) tokens →
      Filled limit depth (.array items) (.opening .array :: tokens)
  | object {members : List (List Glyph × Json)} {name : List Glyph} {tokens : List Token} :
    Spells limit depth (.members members.reverse) tokens →
      Filled limit depth (.object members name) (.opening .object :: tokens)

/-- The tokens that lead to a state. -/
inductive Consumed (limit : Nat) : State → List Token → Prop where
  | wantValue {around : List Frame} {tokens : List Token} :
    Around limit around tokens → Consumed limit (.wantValue around) tokens
  | wantItem {around : List Frame} {tokens : List Token} :
    Around limit around tokens → around.length < limit →
      Consumed limit (.wantItem around) (tokens ++ [.opening .array])
  | wantName {members : List (List Glyph × Json)} {around : List Frame}
      {before tokens : List Token} :
    Around limit around before → around.length < limit →
      Named limit (around.length + 1) members tokens →
      Consumed limit (.wantName members around) (before ++ tokens)
  | wantColon {members : List (List Glyph × Json)} {name : List Glyph} {around : List Frame}
      {before tokens : List Token} :
    Around limit around before → around.length < limit →
      Named limit (around.length + 1) members tokens →
      Consumed limit (.wantColon members name around) (before ++ (tokens ++ [.atom (.string name)]))
  | wantMore {frame : Frame} {around : List Frame} {before tokens : List Token} :
    Around limit around before → around.length < limit →
      frame.Filled limit (around.length + 1) tokens →
        Consumed limit (.wantMore frame around) (before ++ tokens)
  | done {value : Json} {tokens : List Token} :
    Spells limit 0 (.value value) tokens → Consumed limit (.done value) tokens

section

variable {around : List Frame} {st st' : State}

/-- A value fills the innermost bracket. -/
theorem consumed_supply (haround : Around limit around before)
    (hvalue : Spells limit around.length (.value value) tokens) :
    Consumed limit (.supply value around) (before ++ tokens) := by
  cases haround with
  | nil => exact .done hvalue
  | cons hbefore hroom hled =>
    rw [List.append_assoc]
    cases hled with
    | array => exact .wantMore hbefore hroom (.array (.item hvalue))
    | object => exact .wantMore hbefore hroom (.object (.member hvalue))
    | nextItem hitems =>
      have hnext := Spells.nextItem hitems hvalue
      rw [← List.reverse_cons] at hnext
      rw [List.cons_append, List.append_assoc]
      exact .wantMore hbefore hroom (.array hnext)
    | @nextMember members name _ hmembers =>
      have hnext : Spells limit _ (.members (_ ++ [(name, value)])) _ := .nextMember hmembers hvalue
      rw [← List.reverse_cons] at hnext
      rw [List.cons_append, List.append_assoc]
      exact .wantMore hbefore hroom (.object hnext)

theorem consumed_begin (haround : Around limit around before)
    (h : State.begin limit around token = .ok st) : Consumed limit st (before ++ [token]) := by
  cases token with
  | atom value =>
    obtain rfl := Except.ok.inj h
    exact consumed_supply haround .atom
  | whole negative digits =>
    by_cases hfew : digits.length ≤ Digits.digitLimit
    · rw [begin_whole limit hfew] at h
      obtain rfl := Except.ok.inj h
      exact consumed_supply haround (.whole hfew)
    · have hmany : digits.length > Digits.digitLimit := by omega
      simp only [State.begin, Digits.value?, hmany, if_true] at h
      cases h
  | opening shape =>
    by_cases hroom : around.length < limit
    · cases shape with
      | array =>
        rw [(begin_opening hroom).1] at h
        obtain rfl := Except.ok.inj h
        exact .wantItem haround hroom
      | object =>
        rw [(begin_opening hroom).2] at h
        obtain rfl := Except.ok.inj h
        exact .wantName haround hroom .first
    · have hdeep : around.length ≥ limit := by omega
      simp only [State.begin, hdeep, if_true] at h
      cases h
  | _ => cases h

/-- Where a name may come, it does, or the object is empty. -/
theorem step_wantName {members : List (List Glyph × Json)}
    (h : (State.wantName members around).step limit token = .ok st) :
    (∃ name, token = .atom (.string name) ∧ st = .wantColon members name around) ∨
      members = [] ∧ token = .closing .object ∧ st = .supply (.object []) around := by
  cases token with
  | atom value =>
    cases value with
    | string name => exact .inl ⟨name, rfl, (Except.ok.inj h).symm⟩
    | _ => cases h
  | closing shape =>
    cases shape with
    | array => cases h
    | object =>
      cases members with
      | nil => exact .inr ⟨rfl, rfl, (Except.ok.inj h).symm⟩
      | cons member members => cases h
  | _ => cases h

theorem step_wantColon {members : List (List Glyph × Json)} {name : List Glyph}
    (h : (State.wantColon members name around).step limit token = .ok st) :
    token = .colon ∧ st = .wantValue (.object members name :: around) := by
  cases token with
  | colon => exact ⟨rfl, (Except.ok.inj h).symm⟩
  | _ => cases h

/-- Behind a value in a bracket, a comma or the closing bracket may come. -/
theorem step_wantMore {frame : Frame} (h : (State.wantMore frame around).step limit token = .ok st) :
    match frame with
    | .array items =>
      token = .comma ∧ st = .wantValue (.array items :: around) ∨
        token = .closing .array ∧ st = .supply (.array items.reverse) around
    | .object members _ =>
      token = .comma ∧ st = .wantName members around ∨
        token = .closing .object ∧ st = .supply (.object members.reverse) around := by
  cases frame with
  | array items =>
    cases token with
    | comma => exact .inl ⟨rfl, (Except.ok.inj h).symm⟩
    | closing shape =>
      cases shape with
      | array => exact .inr ⟨rfl, (Except.ok.inj h).symm⟩
      | object => cases h
    | _ => cases h
  | object members name =>
    cases token with
    | comma => exact .inl ⟨rfl, (Except.ok.inj h).symm⟩
    | closing shape =>
      cases shape with
      | array => cases h
      | object => exact .inr ⟨rfl, (Except.ok.inj h).symm⟩
    | _ => cases h

/-- A step adds its token to what was consumed. -/
theorem consumed_step (hconsumed : Consumed limit st tokens) (h : st.step limit token = .ok st') :
    Consumed limit st' (tokens ++ [token]) := by
  cases hconsumed with
  | wantValue haround => exact consumed_begin haround h
  | @wantItem around before haround hroom =>
    by_cases hclosing : token = .closing .array
    · subst hclosing
      obtain rfl := Except.ok.inj h
      rw [List.append_assoc]
      exact consumed_supply haround (.emptyArray hroom)
    · apply consumed_begin (.cons haround hroom .array)
      rw [← h, State.step]
      exact hclosing
  | wantName haround hroom hnamed =>
    rw [List.append_assoc]
    rcases step_wantName h with ⟨name, rfl, rfl⟩ | ⟨rfl, rfl, rfl⟩
    · exact .wantColon haround hroom hnamed
    · -- Behind a comma there are members, so only an empty object is closed here.
      cases hnamed with
      | first => exact consumed_supply haround (.emptyObject hroom)
      | next hmembers => exact absurd rfl (members_ne_nil_of_spells hmembers)
  | wantColon haround hroom hnamed =>
    obtain ⟨rfl, rfl⟩ := step_wantColon h
    rw [List.append_assoc, List.append_assoc]
    cases hnamed with
    | first => exact .wantValue (.cons haround hroom .object)
    | next hmembers =>
      rw [List.cons_append, List.append_assoc]
      exact .wantValue (.cons haround hroom (.nextMember hmembers))
  | wantMore haround hroom hfilled =>
    have hstep := step_wantMore h
    rw [List.append_assoc]
    cases hfilled with
    | array hitems =>
      rcases hstep with ⟨rfl, rfl⟩ | ⟨rfl, rfl⟩
      · exact .wantValue (.cons haround hroom (.nextItem hitems))
      · exact consumed_supply haround (.array hroom hitems)
    | object hmembers =>
      rcases hstep with ⟨rfl, rfl⟩ | ⟨rfl, rfl⟩
      · exact .wantName haround hroom (.next hmembers)
      · exact consumed_supply haround (.object hroom hmembers)
  | done hvalue => cases h

/-- So does a run. -/
theorem consumed_foldlM (hconsumed : Consumed limit st before)
    (h : tokens.foldlM (State.step limit) st = .ok st') : Consumed limit st' (before ++ tokens) := by
  induction tokens generalizing st before with
  | nil =>
    obtain rfl := Except.ok.inj h
    rwa [List.append_nil]
  | cons token rest ih =>
    rw [List.foldlM_cons] at h
    obtain ⟨next, hstep, h⟩ := exists_of_bind_ok h
    have hrest := ih (consumed_step hconsumed hstep) h
    rwa [List.append_assoc] at hrest

end

/-- The machine takes exactly the tokens that spell a value. -/
theorem ofTokens_iff_spells :
    ofTokens limit tokens = .ok value ↔ Spells limit 0 (.value value) tokens := by
  rw [ofTokens_eq_ok_iff]
  constructor
  · intro h
    have hconsumed := consumed_foldlM (.wantValue .nil) h
    cases hconsumed with
    | done hvalue => exact hvalue
  · intro h
    exact led_of_spells h [] rfl

end DenoBridge.Json
