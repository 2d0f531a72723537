import DenoBridge.Version.Spelling

/-! # The order of versions

    Versions are ordered by epoch, then release, then the suffixes.  A
    development release comes before its pre-releases, these before the
    release and that before its post-releases; a local label comes last.
    Zeros at the end of a release do not count.

    Each version has a key, a list of lists of numbers, and the order is the
    lexicographic order of the keys.
-/

namespace DenoBridge

/-- One part of a local label. -/
inductive LabelPart where
  | number (value : Nat)
  | word (text : List Char)
  deriving Repr, DecidableEq

/-- A version. -/
structure Version where
  epoch : Nat
  release : List Nat
  pre : Option (Stage × Nat)
  post : Option Nat
  dev : Option Nat
  label : List LabelPart
  deriving Repr, DecidableEq

namespace Version

/-! ## Section 1: Numbers -/

/-- The number that optional digits write; none write 0. -/
def number (digits : List Char) : Except Digits.TooMany Nat :=
  Digits.value? digits

/-- One part of a label: a number if it consists of digits. -/
def labelPart (text : List Char) : Except Digits.TooMany LabelPart :=
  if text.all Char.isDigit then (number text).map .number else .ok (.word text)

/-- The version that is spelled.  Numbers are computed from left to right. -/
def ofSpelling (s : Spelling) : Except Digits.TooMany Version := do
  let epoch ← number s.epoch
  let release ← s.release.mapM number
  let pre ← s.pre.mapM fun (stage, digits) => (number digits).map (stage, ·)
  let post ← s.post.mapM number
  let dev ← s.dev.mapM number
  let label ← s.label.mapM labelPart
  return ⟨epoch, release, pre, post, dev, label⟩

/-- Why a text is no version. -/
inductive Refusal where
  | invalid
  | tooManyDigits (refusal : Digits.TooMany)
  deriving Repr, DecidableEq

/-- The version that a text writes. -/
def parse (text : String) : Except Refusal Version :=
  match Spelling.parse text.toList with
  | none => .error .invalid
  | some spelling =>
    match ofSpelling spelling with
    | .ok version => .ok version
    | .error refusal => .error (.tooManyDigits refusal)

/-! ## Section 2: Keys -/

/-- The place of a stage among the pre-releases. -/
def stageRank : Stage → Nat
  | .alpha => 1
  | .beta => 2
  | .candidate => 3

/-- The key of the pre-release: a development release of the release itself
    comes before all pre-releases, and a final release after them. -/
def preKey (v : Version) : List Nat :=
  match v.pre with
  | some (stage, n) => [stageRank stage, n]
  | none => if v.post.isNone && v.dev.isSome then [0] else [4]

/-- The key of the post-release. -/
def postKey (v : Version) : List Nat :=
  match v.post with
  | none => [0]
  | some n => [1, n]

/-- The key of the development release. -/
def devKey (v : Version) : List Nat :=
  match v.dev with
  | none => [1]
  | some n => [0, n]

/-- The key of a part of a label: words come before numbers. -/
def LabelPart.key : LabelPart → List Nat
  | .word text => 0 :: text.map Char.toNat
  | .number n => [1, n]

/-- The release without zeros at its end. -/
def trimmedRelease (v : Version) : List Nat :=
  (v.release.reverse.dropWhile (· == 0)).reverse

/-- The key by which versions are ordered. -/
def key (v : Version) : List (List Nat) :=
  [v.epoch] :: v.trimmedRelease :: v.preKey :: v.postKey :: v.devKey :: v.label.map LabelPart.key

/-- Does a list of numbers come before another one?  The first difference
    decides, and a list comes before its continuations. -/
def numbersBefore (xs ys : List Nat) : Bool :=
  List.lex xs ys fun x y => decide (x < y)

/-- Does a key come before another one? -/
def keyBefore (xs ys : List (List Nat)) : Bool :=
  List.lex xs ys numbersBefore

/-- Versions are ordered by their keys. -/
instance : LE Version where
  le v w := keyBefore w.key v.key = false

instance (v w : Version) : Decidable (v ≤ w) :=
  inferInstanceAs (Decidable (_ = _))

/-! ## Section 3: Floors -/

/-- Is the first text a version that is at least the second?  A missing floor
    is always met, a missing version meets no other, and a text that is no
    version neither meets a floor nor is one. -/
def isCompatible (actual expected : Option String) : Except Digits.TooMany Bool :=
  match actual, expected with
  | _, none => .ok true
  | none, some _ => .ok false
  | some actual, some expected =>
    match parse actual with
    | .error .invalid => .ok false
    | .error (.tooManyDigits refusal) => .error refusal
    | .ok version =>
      match parse expected with
      | .error .invalid => .ok false
      | .error (.tooManyDigits refusal) => .error refusal
      | .ok floor => .ok (decide (floor ≤ version))

end Version

end DenoBridge
