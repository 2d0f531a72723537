import Mathlib.Data.List.Infix
import DenoBridge.Url.Percent
import DenoBridge.Url.Segments
import DenoBridge.Proofs.Text.Letters

/-! # What is encoded

    An encoded text holds nothing that is to be encoded
    (`isPlain_of_mem_percentEncode`), so encoding it once more changes nothing
    (`percentEncode_percentEncode`).  Encoding makes no dot segment and undoes
    none (`isSingleDot_percentEncode`, `isDoubleDot_percentEncode`): the one
    escape that stands for a dot is `%2E`, and a dot is never escaped.
-/

namespace DenoBridge.Url

open Text (toNat_lt_of_isAlphanum)

variable {marks text segment : List Char} {c d : Char}

/-! ## Section 1: ASCII -/

theorem toNat_lt_of_isPlain (hmarks : ∀ mark ∈ marks, mark.toNat < 0x80)
    (h : isPlain marks c = true) : c.toNat < 0x80 := by
  rcases Bool.or_eq_true_iff.1 h with hword | hmark
  · exact toNat_lt_of_isAlphanum hword
  · exact hmarks c (List.contains_iff_mem.1 hmark)

theorem pathMarks_ascii : ∀ mark ∈ pathMarks, mark.toNat < 0x80 := by
  decide

theorem queryMarks_ascii : ∀ mark ∈ queryMarks, mark.toNat < 0x80 := by
  decide

/-! ## Section 2: Encoding -/

theorem percentChar_of_isPlain (h : isPlain marks c = true) : percentChar marks c = [c] :=
  if_pos h

theorem isPlain_upperHexDigit : ∀ n < 16, (upperHexDigit n).isAlphanum = true := by
  decide

theorem isPlain_of_mem_percentByte (hmarks : '%' ∈ marks) {byte : UInt8}
    (h : c ∈ percentByte byte) : isPlain marks c = true := by
  have hsize := UInt8.toNat_lt byte
  simp only [percentByte, List.mem_cons, List.not_mem_nil, or_false] at h
  rcases h with rfl | rfl | rfl
  · simp [isPlain, hmarks]
  · simp [isPlain, isPlain_upperHexDigit (byte.toNat / 16) (by omega)]
  · simp [isPlain, isPlain_upperHexDigit (byte.toNat % 16) (by omega)]

/-- Nothing that is to be encoded is left. -/
theorem isPlain_of_mem_percentEncode (hmarks : '%' ∈ marks) (h : c ∈ percentEncode marks text) :
    isPlain marks c = true := by
  obtain ⟨d, -, hc⟩ := List.mem_flatMap.1 h
  unfold percentChar at hc
  split at hc
  · rename_i hplain
    obtain rfl := List.mem_singleton.1 hc
    exact hplain
  · obtain ⟨byte, -, hbyte⟩ := List.mem_flatMap.1 hc
    exact isPlain_of_mem_percentByte hmarks hbyte

/-- An escape is a percent sign and digits, so no other mark comes from it. -/
theorem not_mem_percentEncode {mark : Char} (hmark : isPlain ['%'] mark = false)
    (h : mark ∉ text) : mark ∉ percentEncode marks text := by
  intro hmem
  obtain ⟨c, hc, hchar⟩ := List.mem_flatMap.1 hmem
  unfold percentChar at hchar
  split at hchar
  · obtain rfl := List.mem_singleton.1 hchar
    exact h hc
  · obtain ⟨byte, -, hbyte⟩ := List.mem_flatMap.1 hchar
    rw [isPlain_of_mem_percentByte List.mem_cons_self hbyte] at hmark
    cases hmark

theorem percentEncode_of_isPlain (h : ∀ c ∈ text, isPlain marks c = true) :
    percentEncode marks text = text := by
  induction text with
  | nil => rfl
  | cons c rest ih =>
    have hrest := ih fun d hd => h d (List.mem_cons_of_mem _ hd)
    unfold percentEncode at hrest ⊢
    rw [List.flatMap_cons, hrest, percentChar_of_isPlain (h c List.mem_cons_self)]
    rfl

/-- Encoding once is enough. -/
theorem percentEncode_percentEncode (hmarks : '%' ∈ marks) (text : List Char) :
    percentEncode marks (percentEncode marks text) = percentEncode marks text :=
  percentEncode_of_isPlain fun _ hc => isPlain_of_mem_percentEncode hmarks hc

theorem percentEncode_append (marks front back : List Char) :
    percentEncode marks (front ++ back) = percentEncode marks front ++ percentEncode marks back :=
  List.flatMap_append

theorem percentEncode_cons (marks : List Char) (c : Char) (rest : List Char) :
    percentEncode marks (c :: rest) = percentChar marks c ++ percentEncode marks rest :=
  List.flatMap_cons

theorem percentChar_ne_nil (marks : List Char) (c : Char) : percentChar marks c ≠ [] := by
  unfold percentChar
  split
  · simp
  · unfold String.utf8EncodeChar
    dsimp only
    split_ifs <;> simp [percentByte]

theorem percentEncode_eq_nil_iff : percentEncode marks text = [] ↔ text = [] := by
  cases text with
  | nil => simp [percentEncode]
  | cons c rest => simp [percentEncode_cons, percentChar_ne_nil]

/-- Separators that may stand are still between the parts. -/
theorem percentEncode_joinPieces {sep : Char} (hsep : isPlain marks sep = true)
    (parts : List (List Char)) : percentEncode marks (Text.joinPieces [sep] parts) =
      Text.joinPieces [sep] (parts.map (percentEncode marks)) := by
  induction parts with
  | nil => rfl
  | cons part more ih =>
    by_cases hmore : more = []
    · subst hmore
      rfl
    · rw [Text.joinPieces_cons hmore, List.map_cons, Text.joinPieces_cons (by simpa using hmore),
        percentEncode_append, percentEncode_append, ih]
      simp [percentEncode, percentChar_of_isPlain hsep]

/-! ## Section 3: Dot segments -/

/-- The spellings of dot segments, in lower case. -/
def dots : List (List Char) :=
  singleDots ++ doubleDots

/-- The escape that occurs in dot segments, in lower case. -/
def dotEscape : List Char :=
  "%2e".toList

theorem escape_of_dots : ∀ spelling ∈ dots, ∀ back ∈ spelling.tails,
    back.head? = some '%' → back.take 3 = dotEscape := by
  decide

theorem code_of_dotEscape : ∀ code < 256,
    (percentByte (UInt8.ofNat code)).map Text.asciiLower = dotEscape → code = 0x2e := by
  decide +kernel

/-- No escape but that of a dot occurs in a dot segment. -/
theorem percentByte_not_isInfix {code : Nat} (hcode : code < 256) (hne : code ≠ 0x2e)
    {spelling : List Char} (hspelling : spelling ∈ dots) :
    ¬ (percentByte (UInt8.ofNat code)).map Text.asciiLower <:+: spelling := by
  intro hinfix
  obtain ⟨back, hfront, hback⟩ := List.infix_iff_prefix_suffix.1 hinfix
  have htake := List.prefix_iff_eq_take.1 hfront
  have hhead : back.head? = some '%' := by
    obtain ⟨more, rfl⟩ := hfront
    rfl
  refine hne (code_of_dotEscape code hcode ?_)
  rw [← escape_of_dots spelling hspelling back ((List.mem_tails _ _).2 hback) hhead]
  exact htake

/-- Dot segments are written with characters that may stand. -/
theorem isPlain_of_mem_dots : ∀ spelling ∈ dots, ∀ c ∈ spelling, isPlain pathMarks c = true := by
  decide

theorem ignoresCase_isPlain (h : ∀ mark ∈ marks, mark.isAlpha = false) :
    Text.IgnoresCase (isPlain marks) := by
  have halphanum : Text.IgnoresCase Char.isAlphanum := Text.ignoresCase_of_ascii (by decide)
  exact fun c => congrArg₂ or (halphanum c) (Text.ignoresCase_contains h c)

/-- A character that is encoded does not occur in a dot segment. -/
theorem asciiLower_not_mem_dots {spelling : List Char} (hspelling : spelling ∈ dots)
    (h : isPlain pathMarks c = false) : Text.asciiLower c ∉ spelling := by
  intro hmem
  have hplain := isPlain_of_mem_dots spelling hspelling _ hmem
  rw [ignoresCase_isPlain (by decide) c, h] at hplain
  cases hplain

/-- The first byte of a character that is encoded is not that of a dot. -/
theorem exists_first_byte (h : isPlain pathMarks c = false) :
    ∃ code < 256, code ≠ 0x2e ∧ ∃ more,
      percentChar pathMarks c = percentByte (UInt8.ofNat code) ++ more := by
  have hdot : c.val.toNat ≠ 0x2e := by
    intro hcode
    obtain rfl : c = '.' := Char.toNat_inj.1 hcode
    exact absurd h (by decide)
  unfold percentChar
  rw [if_neg (by simp [h])]
  unfold String.utf8EncodeChar
  dsimp only
  split_ifs with h₁ h₂ h₃
  · exact ⟨c.val.toNat, by omega, hdot, [], by simp⟩
  · exact ⟨c.val.toNat / 64 % 32 + 192, by omega, by omega, _, rfl⟩
  · exact ⟨c.val.toNat / 4096 % 16 + 224, by omega, by omega, _, rfl⟩
  · exact ⟨c.val.toNat / 262144 % 8 + 240, by omega, by omega, _, rfl⟩

theorem percentEncode_eq_dots_iff {spelling : List Char} (hspelling : spelling ∈ dots) :
    (percentEncode pathMarks segment).map Text.asciiLower = spelling ↔
      segment.map Text.asciiLower = spelling := by
  by_cases hplain : ∀ c ∈ segment, isPlain pathMarks c = true
  · rw [percentEncode_of_isPlain hplain]
  · push Not at hplain
    obtain ⟨c, hc, hencoded⟩ := hplain
    rw [Ne, Bool.not_eq_true] at hencoded
    -- With a character that is encoded, neither of the two is a dot segment.
    constructor
    · intro heq
      obtain ⟨front, back, rfl⟩ := List.append_of_mem hc
      obtain ⟨code, hcode, hne, more, hbyte⟩ := exists_first_byte hencoded
      refine absurd ?_ (percentByte_not_isInfix hcode hne hspelling)
      rw [percentEncode_append, percentEncode_cons, hbyte, List.append_assoc, List.map_append,
        List.map_append] at heq
      exact ⟨_, _, by rw [List.append_assoc]; exact heq⟩
    · rintro rfl
      exact absurd (List.mem_map_of_mem hc) (asciiLower_not_mem_dots hspelling hencoded)

theorem contains_percentEncode {spellings : List (List Char)} (h : spellings ⊆ dots) :
    spellings.contains ((percentEncode pathMarks segment).map Text.asciiLower) =
      spellings.contains (segment.map Text.asciiLower) := by
  rw [Bool.eq_iff_iff, List.contains_iff_mem, List.contains_iff_mem]
  constructor
  · intro hmem
    rwa [(percentEncode_eq_dots_iff (h hmem)).1 rfl]
  · intro hmem
    rwa [(percentEncode_eq_dots_iff (h hmem)).2 rfl]

@[simp]
theorem isSingleDot_percentEncode (segment : List Char) :
    isSingleDot (percentEncode pathMarks segment) = isSingleDot segment :=
  contains_percentEncode (List.subset_append_left _ _)

@[simp]
theorem isDoubleDot_percentEncode (segment : List Char) :
    isDoubleDot (percentEncode pathMarks segment) = isDoubleDot segment :=
  contains_percentEncode (List.subset_append_right _ _)

end DenoBridge.Url
