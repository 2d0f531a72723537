import Mathlib.Data.List.TakeWhile
import DenoBridge.Proofs.Json.Excess
import DenoBridge.Version.Report

/-! # Reports and versions that are too much to read

    A payload is refused exactly when something in it is too much
    (`read_error_iff`).  Of a version the numbers are computed in the order in
    which they are written, and the first one with too many digits is refused
    (`failure?_ofSpelling`); so it is of the version in a report, when its
    age matters (`typeArguments_error_iff`).
-/

namespace DenoBridge

/-! ## Section 1: Numbers of a version -/

namespace Version

/-- The refusal of digits that are too many. -/
def tooMany? (digits : List Char) : Option Digits.TooMany :=
  if Digits.digitLimit < digits.length then some ⟨digits.length⟩ else none

/-- The numbers of a version as they are written, from left to right.  Parts of
    a label are numbers if they consist of digits. -/
def Spelling.numbers (s : Spelling) : List (List Char) :=
  [s.epoch] ++ s.release ++ (s.pre.map (·.2)).toList ++ s.post.toList ++ s.dev.toList ++
    s.label.filter (·.all Char.isDigit)

/-- The refusal of the first number that has too many digits. -/
def Spelling.tooMany? (s : Spelling) : Option Digits.TooMany :=
  s.numbers.findSome? Version.tooMany?

theorem failure?_number (digits : List Char) : failure? (number digits) = tooMany? digits := by
  unfold number Digits.value? tooMany?
  split <;> rfl

theorem failure?_labelParts (parts : List (List Char)) :
    failure? (parts.mapM labelPart) = (parts.filter (·.all Char.isDigit)).findSome? tooMany? := by
  rw [failure?_mapM]
  -- Words are no numbers and cannot be refused.
  induction parts with
  | nil => rfl
  | cons part rest ih =>
    rw [List.findSome?_cons, ih]
    unfold labelPart
    rw [List.filter_cons]
    by_cases hdigits : part.all Char.isDigit = true
    · rw [if_pos hdigits, if_pos hdigits, failure?_map, failure?_number, List.findSome?_cons]
    · rw [if_neg hdigits, if_neg hdigits]
      rfl

/-- A version is refused for the first of its numbers that has too many
    digits, and for nothing else. -/
theorem failure?_ofSpelling (s : Spelling) : failure? (ofSpelling s) = s.tooMany? := by
  unfold ofSpelling Spelling.tooMany? Spelling.numbers
  -- No number depends on the one before, so the failures come one after the other.
  refine Eq.trans (failure?_bind fun _ => failure?_bind fun _ => failure?_bind fun _ =>
    failure?_bind fun _ => failure?_bind fun _ => failure?_bind fun _ => failure?_pure _) ?_
  rw [failure?_number, failure?_mapM, failure?_mapM_option, failure?_mapM_option,
    failure?_mapM_option, failure?_labelParts]
  simp only [failure?_map, failure?_number, List.findSome?_append, List.findSome?_singleton,
    Option.or_assoc, Option.or_none, Option.toList_map, List.findSome?_map]
  rfl

theorem parse_error_iff {text : String} {refusal : Digits.TooMany} :
    parse text = .error (.tooManyDigits refusal) ↔
      ∃ spelling, Spelling.parse text.toList = some spelling ∧
        spelling.tooMany? = some refusal := by
  unfold parse
  cases hspelling : Spelling.parse text.toList with
  | none =>
    constructor
    · intro habsurd
      cases habsurd
    · rintro ⟨spelling, habsurd, -⟩
      cases habsurd
  | some spelling =>
    simp only [Option.some.injEq, exists_eq_left']
    rw [← failure?_ofSpelling, failure?_eq_some_iff]
    cases ofSpelling spelling with
    | ok version => simp
    | error refusal' => simp

/-- The floor itself can be read. -/
theorem parse_unstableFloor :
    parse unstableFloor = .ok ⟨0, [0, 43, 0], none, none, none, []⟩ := by
  decide +kernel

/-- Where the floor can be read, only the other version can be refused. -/
theorem isCompatible_error_iff {actual : Option String} {expected : String} {floor : Version}
    (hfloor : parse expected = .ok floor) {refusal : Digits.TooMany} :
    isCompatible actual (some expected) = .error refusal ↔
      ∃ text, actual = some text ∧ parse text = .error (.tooManyDigits refusal) := by
  cases actual with
  | none => simp [isCompatible]
  | some text =>
    unfold isCompatible
    dsimp only
    rw [hfloor]
    cases hparse : parse text with
    | ok version => simp [hparse]
    | error reason => cases reason <;> simp [hparse]

end Version

/-! ## Section 2: Reports -/

/-- Whether a toolchain is old matters for the unstable declarations alone;
    its version is refused then for a number with too many digits. -/
theorem typeArguments_error_iff {unstable : Bool} {report : VersionReport}
    {refusal : Digits.TooMany} : typeArguments unstable (some report) = .error refusal ↔
      unstable = true ∧ ∃ deno spelling, report.deno = Glyph.ofString deno ∧
        Version.Spelling.parse deno.toList = some spelling ∧
        spelling.tooMany? = some refusal := by
  cases unstable with
  | false =>
    constructor
    · intro habsurd
      cases habsurd
    · rintro ⟨habsurd, -⟩
      cases habsurd
  | true =>
    have hbind : failure? (typeArguments true (some report)) =
        (failure? (supportsUnstable (some report))).or none :=
      failure?_bind fun flagged => failure?_pure _
    rw [← failure?_eq_some_iff, hbind, Option.or_none, failure?_eq_some_iff, and_iff_right rfl]
    unfold supportsUnstable
    rw [Version.isCompatible_error_iff Version.parse_unstableFloor, Option.bind_some]
    simp only [Glyph.string?_eq_some_iff, Version.parse_error_iff, exists_and_left]

namespace VersionReport

/-- The failure of reading that is an excess of the payload. -/
def Excess.failure : Excess → Json.Failure
  | .digits refusal => .tooManyDigits refusal
  | .nesting shape => .tooDeep shape

theorem Excess.failure_ne_malformed (excess : Excess) : excess.failure ≠ .malformed := by
  cases excess with
  | digits refusal => exact fun habsurd => nomatch habsurd
  | nesting shape => exact fun habsurd => nomatch habsurd

variable {limit : Nat} {payload : String}

/-- A value that was read is a report or none, but never an excess. -/
theorem exists_read_of_ok {value : Json} (h : Json.read limit payload.toList = .ok value) :
    ∃ reading, read limit payload = .ok reading := by
  unfold read
  rw [h]
  cases value with
  | object members =>
    dsimp only
    split <;> exact ⟨_, rfl⟩
  | _ => exact ⟨_, rfl⟩

/-- A payload is refused exactly when something in it is too much. -/
theorem read_error_iff {excess : Excess} : read limit payload = .error excess ↔
    Json.TooMuch limit (Json.lex payload.toList) excess.failure := by
  rw [← Json.read_error_iff excess.failure_ne_malformed]
  cases hread : Json.read limit payload.toList with
  | ok value =>
    obtain ⟨reading, hreading⟩ := exists_read_of_ok hread
    rw [hreading]
    exact ⟨fun habsurd => (nomatch habsurd), fun habsurd => (nomatch habsurd)⟩
  | error failure =>
    unfold read
    rw [hread]
    cases failure <;> cases excess <;> simp [Excess.failure]

theorem parse_eq_error_iff {excess : Excess} : parse limit payload = .error excess ↔
    Json.TooMuch limit (Json.lex payload.toList) excess.failure := by
  rw [← read_error_iff, ← failure?_eq_some_iff, ← failure?_eq_some_iff]
  unfold parse
  rw [failure?_map]

theorem parse_eq_some_iff {report : VersionReport} :
    parse limit payload = .ok (some report) ↔ read limit payload = .ok (.found report) := by
  unfold parse
  cases read limit payload with
  | error excess => simp [Except.map]
  | ok reading => cases reading <;> simp [Except.map, Reading.toOption]

end VersionReport

end DenoBridge
