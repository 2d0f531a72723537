import DenoBridge.Proofs.Version.Padding

/-! # Versions and floors

    A version meets a floor when it is at least as high
    (`isCompatible_true_iff`).  Floors are met in the order of versions: who
    meets a floor meets every lower one, and of two versions one meets the
    other (`floors_met_in_order`).  Zeros behind a release do not count, and a
    text that is no version neither meets a floor nor is met as one.  So the
    unstable declarations, once a version has them, stay for all higher ones.
-/

namespace DenoBridge.Version

open Digits (AreDigits HasShortRuns)

variable {actual expected : Option String} {text floor : String}

/-! ## Section 1: What is met -/

/-- Is the text a version? -/
def IsVersion (text : String) : Prop :=
  ∃ version, parse text = .ok version

theorem isCompatible_none (actual : Option String) : isCompatible actual none = .ok true := by
  cases actual <;> rfl

theorem isCompatible_true_iff :
    isCompatible actual (some floor) = .ok true ↔
      ∃ text version least, actual = some text ∧ parse text = .ok version ∧
        parse floor = .ok least ∧ least ≤ version := by
  constructor
  · intro h
    cases actual with
    | none => cases h
    | some text =>
      unfold isCompatible at h
      dsimp only at h
      split at h
      · cases h
      · cases h
      · rename_i version hversion
        split at h
        · cases h
        · cases h
        · rename_i least hleast
          have hle : decide (least ≤ version) = true := Except.ok.inj h
          exact ⟨text, version, least, rfl, hversion, hleast, of_decide_eq_true hle⟩
  · rintro ⟨text, version, least, rfl, hversion, hleast, hle⟩
    unfold isCompatible
    simp only [hversion, hleast, hle, decide_true]

/-- No number in the text, if there is one, is too long. -/
def IsShort (text : Option String) : Prop :=
  ∀ written ∈ text, HasShortRuns written.toList

/-- Of texts with short runs of digits it can always be told. -/
theorem isCompatible_of_isShort (hactual : IsShort actual) (hexpected : IsShort expected) :
    ∃ answer, isCompatible actual expected = .ok answer := by
  cases expected with
  | none => exact ⟨true, isCompatible_none actual⟩
  | some floor =>
    cases actual with
    | none => exact ⟨false, rfl⟩
    | some text =>
      -- Only a number with too many digits stops the answer, and neither text has one.
      unfold isCompatible
      dsimp only
      rcases parse_of_hasShortRuns (hactual text rfl) with htext | ⟨version, htext⟩
      · rw [htext]
        exact ⟨false, rfl⟩
      · rcases parse_of_hasShortRuns (hexpected floor rfl) with hfloor | ⟨least, hfloor⟩
        · rw [htext, hfloor]
          exact ⟨false, rfl⟩
        · rw [htext, hfloor]
          exact ⟨_, rfl⟩

/-- Where it can be told, what is not met is denied. -/
theorem isCompatible_eq_false (hactual : IsShort actual) (hexpected : IsShort expected)
    (h : isCompatible actual expected ≠ .ok true) : isCompatible actual expected = .ok false := by
  obtain ⟨answer, hanswer⟩ := isCompatible_of_isShort hactual hexpected
  cases answer with
  | true => exact absurd hanswer h
  | false => exact hanswer

/-! ## Section 2: The order of floors -/

theorem isCompatible_trans {a b c : Option String} (hab : isCompatible a b = .ok true)
    (hbc : isCompatible b c = .ok true) : isCompatible a c = .ok true := by
  cases c with
  | none => exact isCompatible_none a
  | some lowest =>
    obtain ⟨middle, between, least, rfl, hbetween, hleast, hle⟩ := isCompatible_true_iff.1 hbc
    obtain ⟨text, version, between', rfl, hversion, hbetween', hle'⟩ := isCompatible_true_iff.1 hab
    -- The middle text is one version, whether it is met or meets.
    obtain rfl : between' = between := Except.ok.inj (hbetween'.symm.trans hbetween)
    exact isCompatible_true_iff.2 ⟨text, version, least, rfl, hversion, hleast, hle.trans hle'⟩

theorem isCompatible_self (h : IsVersion text) :
    isCompatible (some text) (some text) = .ok true := by
  obtain ⟨version, hversion⟩ := h
  exact isCompatible_true_iff.2 ⟨text, version, version, rfl, hversion, hversion, le_rfl⟩

theorem isCompatible_total (htext : IsVersion text) (hfloor : IsVersion floor) :
    isCompatible (some text) (some floor) = .ok true ∨
      isCompatible (some floor) (some text) = .ok true := by
  obtain ⟨version, hversion⟩ := htext
  obtain ⟨least, hleast⟩ := hfloor
  rcases comparable least version with hle | hle
  · exact .inl (isCompatible_true_iff.2 ⟨text, version, least, rfl, hversion, hleast, hle⟩)
  · exact .inr (isCompatible_true_iff.2 ⟨floor, least, version, rfl, hleast, hversion, hle⟩)

theorem not_meets_of_not_isVersion (h : ¬IsVersion text) :
    isCompatible (some text) (some floor) ≠ .ok true := by
  intro hmet
  obtain ⟨text', version, least, heq, hversion, -⟩ := isCompatible_true_iff.1 hmet
  obtain rfl := Option.some.inj heq
  exact h ⟨version, hversion⟩

theorem not_met_of_not_isVersion (h : ¬IsVersion floor) :
    isCompatible actual (some floor) ≠ .ok true := by
  intro hmet
  obtain ⟨text, version, least, -, -, hleast, -⟩ := isCompatible_true_iff.1 hmet
  exact h ⟨least, hleast⟩

/-! ## Section 3: Padded texts -/

theorem isCompatible_padded_left {text' : String} (h : Padded text text')
    (expected : Option String) :
    isCompatible (some text') expected = isCompatible (some text) expected := by
  cases expected with
  | none => rw [isCompatible_none, isCompatible_none]
  | some floor =>
    unfold isCompatible
    dsimp only
    rw [parse_padded h]
    cases parse text with
    | error reason => rfl
    | ok version =>
      cases parse floor with
      | error reason => cases reason <;> rfl
      | ok least =>
        show Except.ok (decide (least ≤ version.padded)) = Except.ok (decide (least ≤ version))
        rw [decide_eq_decide.2 le_padded_iff]

theorem isCompatible_padded_right {text' : String} (h : Padded text text')
    (actual : Option String) :
    isCompatible actual (some text') = isCompatible actual (some text) := by
  cases actual with
  | none => rfl
  | some other =>
    unfold isCompatible
    dsimp only
    rw [parse_padded h]
    cases parse other with
    | error reason => cases reason <;> rfl
    | ok version =>
      cases parse text with
      | error reason => rfl
      | ok least =>
        show Except.ok (decide (least.padded ≤ version)) = Except.ok (decide (least ≤ version))
        rw [decide_eq_decide.2 padded_le_iff]

theorem exists_padded_of_isVersion (h : IsVersion text) : ∃ text', Padded text text' := by
  obtain ⟨version, hversion⟩ := h
  unfold parse at hversion
  cases hspelling : Spelling.parse text.toList with
  | none =>
    rw [hspelling] at hversion
    cases hversion
  | some s => exact exists_padded hspelling

/-! ## Section 4: The unstable declarations -/

/-- The arguments that ask for the unstable declarations. -/
def unstableArguments : List String :=
  ["types", "--unstable"]

theorem typeArguments_eq_unstable_iff {unstable : Bool} {report : VersionReport} :
    typeArguments unstable (some report) = .ok unstableArguments ↔
      unstable = true ∧
        isCompatible (Glyph.string? report.deno) (some unstableFloor) = .ok true := by
  have hstable : ["types"] ≠ unstableArguments := by decide
  unfold typeArguments
  cases unstable with
  | false =>
    constructor
    · intro h
      exact absurd (Except.ok.inj h) hstable
    · rintro ⟨habsurd, -⟩
      cases habsurd
  | true =>
    rw [if_pos rfl, and_iff_right rfl]
    show (do let flagged ← isCompatible (Glyph.string? report.deno) (some unstableFloor); _) = _ ↔ _
    cases isCompatible (Glyph.string? report.deno) (some unstableFloor) with
    | error refusal => exact ⟨fun habsurd => (nomatch habsurd), fun habsurd => (nomatch habsurd)⟩
    | ok flagged =>
      cases flagged with
      | true => exact ⟨fun _ => rfl, fun _ => rfl⟩
      | false =>
        constructor
        · intro h
          exact absurd (Except.ok.inj h) hstable
        · intro habsurd
          cases habsurd

/-- What has the unstable declarations still has them when it gets higher. -/
theorem typeArguments_mono {unstable : Bool} {report report' : VersionReport}
    (h : typeArguments unstable (some report) = .ok unstableArguments)
    (hhigher : isCompatible (Glyph.string? report'.deno) (Glyph.string? report.deno) = .ok true) :
    typeArguments unstable (some report') = .ok unstableArguments := by
  obtain ⟨hunstable, hfloor⟩ := typeArguments_eq_unstable_iff.1 h
  exact typeArguments_eq_unstable_iff.2 ⟨hunstable, isCompatible_trans hhigher hfloor⟩

/-! ## Section 5: Floors in order -/

/-- Floors are met in the order of versions, and a text that is no version has
    no place in it. -/
theorem floors_met_in_order :
    (∀ actual expected, IsShort actual → IsShort expected →
      ∃ answer, isCompatible actual expected = .ok answer) ∧
    (∀ a b c, isCompatible a b = .ok true → isCompatible b c = .ok true →
      isCompatible a c = .ok true) ∧
    (∀ text floor, IsVersion text → IsVersion floor →
      isCompatible (some text) (some text) = .ok true ∧
        (isCompatible (some text) (some floor) = .ok true ∨
          isCompatible (some floor) (some text) = .ok true)) ∧
    (∀ text, HasShortRuns text.toList → ¬IsVersion text →
      (∀ floor, HasShortRuns floor.toList → isCompatible (some text) (some floor) = .ok false) ∧
        ∀ actual, IsShort actual → isCompatible actual (some text) = .ok false) ∧
    (∀ text, IsVersion text → ∃ text', Padded text text') ∧
    (∀ text text', Padded text text' →
      (∀ expected, isCompatible (some text') expected = isCompatible (some text) expected) ∧
        ∀ actual, isCompatible actual (some text') = isCompatible actual (some text)) ∧
    (∀ unstable report report', typeArguments unstable (some report) = .ok unstableArguments →
      isCompatible (Glyph.string? report'.deno) (Glyph.string? report.deno) = .ok true →
        typeArguments unstable (some report') = .ok unstableArguments) := by
  refine ⟨fun _ _ => isCompatible_of_isShort, fun _ _ _ => isCompatible_trans, ?_, ?_,
    fun _ => exists_padded_of_isVersion, ?_, fun _ _ _ => typeArguments_mono⟩
  · intro text floor htext hfloor
    exact ⟨isCompatible_self htext, isCompatible_total htext hfloor⟩
  · intro text hshort hnone
    have hisShort {written : String} (h : HasShortRuns written.toList) :
        IsShort (some written) := by
      intro _ hwritten
      rwa [← Option.some.inj hwritten]
    constructor
    · intro floor hfloor
      exact isCompatible_eq_false (hisShort hshort) (hisShort hfloor)
        (not_meets_of_not_isVersion hnone)
    · intro actual hactual
      exact isCompatible_eq_false hactual (hisShort hshort) (not_met_of_not_isVersion hnone)
  · intro text text' hpadded
    exact ⟨isCompatible_padded_left hpadded, isCompatible_padded_right hpadded⟩

/-- The front of a candidate, with everything that a front may have. -/
def candidateFront : Front where
  blanks := [' ', '\t']
  mark := ['V']
  epoch := ['1']
  first := ['2']
  more := [['0', '3']]
  blanks_blank := by decide
  mark_mem := by decide
  epoch_digits := by unfold AreDigits; decide
  first_number := by unfold IsNumber AreDigits; decide
  more_number := by unfold IsNumber AreDigits; decide

theorem padded_candidate : Padded " \tV1!2.03RC.1 " " \tV1!2.03.0RC.1 " := by
  refine ⟨candidateFront, "RC.1 ".toList, ⟨?_, ?_⟩, ?_, ?_⟩
  · decide
  · intro habsurd
    cases habsurd
  · decide
  · decide

theorem not_isVersion_of_letters : ¬IsVersion "1.x" := by
  rintro ⟨version, hversion⟩
  have hinvalid : parse "1.x" = .error .invalid := by decide +kernel
  rw [hinvalid] at hversion
  cases hversion

/-- A post-release meets a candidate of its release, and this a development
    release of an earlier epoch. -/
theorem candidate_met_in_order :
    isCompatible (some "1!2.3.post0") (some " \tV1!2.03RC.1 ") = .ok true ∧
    isCompatible (some " \tV1!2.03RC.1 ") (some "7.dev0+Ab.01") = .ok true ∧
    isCompatible (some "1!2.3.post0") (some "7.dev0+Ab.01") = .ok true ∧
    IsVersion "1.0a1" ∧ IsVersion "1.0" ∧ isCompatible (some "1.0a1") (some "1.0a1") = .ok true ∧
    (isCompatible (some "1.0a1") (some "1.0") = .ok true ∨
      isCompatible (some "1.0") (some "1.0a1") = .ok true) ∧
    HasShortRuns "1.x".toList ∧ ¬IsVersion "1.x" ∧
    isCompatible (some "1.x") (some "0") = .ok false ∧
    isCompatible (some "7.dev0+Ab.01") (some "1.x") = .ok false ∧
    Padded " \tV1!2.03RC.1 " " \tV1!2.03.0RC.1 " ∧
    isCompatible (some "1!2.3.post0") (some " \tV1!2.03.0RC.1 ") = .ok true ∧
    typeArguments true (some (.ofStrings "0.43" "v8" "ts")) = .ok unstableArguments ∧
    isCompatible (some "1.0a1") (some "0.43") = .ok true ∧
    typeArguments true (some (.ofStrings "1.0a1" "v8" "ts")) = .ok unstableArguments := by
  obtain ⟨-, htrans, htotal, hnone, -, hpadded, hgate⟩ := floors_met_in_order
  have hshort (text : String) (h : text.toList.length ≤ Digits.digitLimit) :
      HasShortRuns text.toList := Digits.hasShortRuns_of_length h
  have hupper : isCompatible (some "1!2.3.post0") (some " \tV1!2.03RC.1 ") = .ok true := by
    decide +kernel
  have hlower : isCompatible (some " \tV1!2.03RC.1 ") (some "7.dev0+Ab.01") = .ok true := by
    decide +kernel
  have hold : typeArguments true (some (.ofStrings "0.43" "v8" "ts")) = .ok unstableArguments := by
    decide +kernel
  have hhigher : isCompatible (some "1.0a1") (some "0.43") = .ok true := by decide +kernel
  have halpha : IsVersion "1.0a1" :=
    ⟨⟨0, [1, 0], some (.alpha, 1), none, none, []⟩, by decide +kernel⟩
  have hfinal : IsVersion "1.0" := ⟨⟨0, [1, 0], none, none, none, []⟩, by decide +kernel⟩
  obtain ⟨hself, heither⟩ := htotal _ _ halpha hfinal
  have hletters := hshort "1.x" (by decide)
  obtain ⟨hmeets, hmet⟩ := hnone "1.x" hletters not_isVersion_of_letters
  refine ⟨hupper, hlower, htrans _ _ _ hupper hlower, halpha, hfinal, hself, heither,
    hletters, not_isVersion_of_letters,
    hmeets "0" (hshort "0" (by decide)), ?_, padded_candidate, ?_, hold, hhigher,
    hgate _ _ _ hold hhigher⟩
  · apply hmet
    intro written hwritten
    obtain rfl := Option.some.inj hwritten
    exact hshort "7.dev0+Ab.01" (by decide)
  · rw [(hpadded _ _ padded_candidate).2]
    exact hupper

end DenoBridge.Version
