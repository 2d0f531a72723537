import DenoBridge.Proofs.Path.Respelling

/-! # Redundant spellings

    In the text of a normal form nothing is left that a respelling could take
    away: no empty name, no dot, and a `..` only where a relative path begins;
    and it has the leading slashes that the first text stands for
    (`isTidied_normalForm`).

    Main statement: the normal form tells texts apart exactly when they are not
    respellings of each other (`normalize_identifies`).
-/

namespace DenoBridge

namespace Path

variable {anchor : Anchor}

/-! ## Section 1: The text of a normal form -/

/-- The number of slashes that a text begins with. -/
def leadingSlashes (text : List Char) : Nat :=
  (text.takeWhile (· == '/')).length

/-- What stands between the slashes of a text, the leading ones apart. -/
def components (text : List Char) : List (List Char) :=
  let rest := text.dropWhile (· == '/')
  if rest = [] then [] else Text.pieces '/' rest

/-- There is nothing redundant in the second text, and it begins as the first
    one does. -/
structure IsTidied (text result : List Char) : Prop where
  leading : leadingSlashes result =
    if leadingSlashes text = 0 then 0 else if leadingSlashes text = 2 then 2 else 1
  kept : result = ['.'] ∨ ∀ part ∈ components result, part ≠ [] ∧ part ≠ ['.']
  climbs : ∃ ups others, components result = ups ++ others ∧ (∀ part ∈ ups, part = ['.', '.']) ∧
    ['.', '.'] ∉ others ∧ (ups ≠ [] → leadingSlashes result = 0)

/-- The texts of normal paths begin with the slashes of the anchor. -/
theorem leadingSlashes_text {path : Path} (h : path.IsProper) :
    leadingSlashes path.text.toList = path.anchor.text.toList.length := by
  rw [leadingSlashes, toList_text]
  split
  · rename_i hdot
    rw [hdot.1]
    rfl
  · rw [(takeWhile_anchor _ (head?_joinPieces_ne_slash h)).1]

theorem components_text {path : Path} (h : path.IsProper) (hdot : path.text.toList ≠ ['.']) :
    components path.text.toList = path.names.map String.toList := by
  have hnames : ¬ (path.anchor = .relative ∧ path.names = []) := by
    intro hnone
    rw [toList_text, if_pos hnone] at hdot
    exact hdot rfl
  rw [components, toList_text, if_neg hnames, (takeWhile_anchor _ (head?_joinPieces_ne_slash h)).2]
  by_cases hempty : path.names = []
  · simp [hempty, Text.joinPieces]
  · have hslash : ∀ part ∈ path.names.map String.toList, '/' ∉ part := by
      intro part hpart
      obtain ⟨name, hname, rfl⟩ := List.mem_map.1 hpart
      exact (h name hname).slash_not_mem
    rw [if_neg (joinPieces_ne_nil hempty h), Text.pieces_joinPieces (by simpa using hempty) hslash]

theorem leadingSlashes_raiseDrive (text : List Char) :
    leadingSlashes (raiseDrive text) = leadingSlashes text := by
  rcases raiseDrive_eq text with hkept | ⟨letter, more, hletter, htext, hraised⟩
  · rw [hkept]
  · -- A drive begins with a letter, so neither text begins with a slash.
    have hupper : letter.toUpper ≠ '/' := toUpper_ne_slash hletter
    have hlower : letter ≠ '/' :=
      lowerLetter_cases (P := fun c => c ≠ '/') (by decide) hletter
    rw [hraised, htext]
    simp [leadingSlashes, hupper, hlower]

theorem length_ofSlashes (n : Nat) : (Anchor.ofSlashes n).text.toList.length =
    if n = 0 then 0 else if n = 2 then 2 else 1 := by
  match n with
  | 0 => rfl
  | 1 => rfl
  | 2 => rfl
  | n + 3 =>
    have hroot : Anchor.ofSlashes (n + 3) = .root := rfl
    rw [hroot]
    simp [Anchor.text]

/-- Climbs come first, and not below a root. -/
theorem Climbs.exists_ups {names : List String} (h : Climbs anchor names) :
    ∃ ups others, names = ups ++ others ∧ (∀ name ∈ ups, name = "..") ∧ ".." ∉ others ∧
      (ups ≠ [] → anchor = .relative) := by
  induction h with
  | @ordinary names hnames => exact ⟨[], names, rfl, by simp, hnames, fun hne => absurd rfl hne⟩
  | up hrel _ ih =>
    obtain ⟨ups, others, hnames, hups, hothers, -⟩ := ih
    exact ⟨".." :: ups, others, by rw [hnames]; rfl, by simpa using hups, hothers, fun _ => hrel⟩

theorem isTidied_normalForm (text : String) :
    IsTidied text.toList (normalForm text).text.toList := by
  have hnormal : (normalForm text).IsNormal := isNormal_normalForm text
  have hanchor : (normalForm text).anchor = .ofSlashes (leadingSlashes (raiseDrive text.toList)) :=
    rfl
  have hlead := leadingSlashes_text hnormal.proper
  refine ⟨?_, ?_, ?_⟩
  · rw [hlead, hanchor, length_ofSlashes, leadingSlashes_raiseDrive]
  · by_cases hdot : (normalForm text).text.toList = ['.']
    · exact .inl hdot
    · refine .inr fun part hpart => ?_
      rw [components_text hnormal.proper hdot] at hpart
      obtain ⟨name, hname, rfl⟩ := List.mem_map.1 hpart
      have hproper := hnormal.proper name hname
      refine ⟨?_, ?_⟩
      · simpa using hproper.ne_empty
      · intro he
        exact hproper.ne_dot (String.ext_iff.2 he)
  · by_cases hdot : (normalForm text).text.toList = ['.']
    · rw [hdot]
      exact ⟨[], [['.']], by decide, by simp, by decide, fun hne => absurd rfl hne⟩
    · obtain ⟨ups, others, hnames, hups, hothers, hrel⟩ := hnormal.climbs.exists_ups
      refine ⟨ups.map String.toList, others.map String.toList, ?_, ?_, ?_, ?_⟩
      · rw [components_text hnormal.proper hdot, hnames, List.map_append]
      · intro part hpart
        obtain ⟨name, hname, rfl⟩ := List.mem_map.1 hpart
        rw [hups name hname]
        rfl
      · intro hmem
        obtain ⟨name, hname, he⟩ := List.mem_map.1 hmem
        obtain rfl : name = ".." := String.ext_iff.2 he
        exact hothers hname
      · intro hne
        rw [hlead, hrel (by simpa using hne)]
        rfl

/-! ## Section 2: Texts -/

theorem normalize?_eq_iff_respelled {s t : String} (hs : s ≠ "") (ht : t ≠ "") :
    normalize? (some s) = normalize? (some t) ↔ Respelled s.toList t.toList := by
  have hs' : s.toList ≠ [] := by simpa using hs
  have ht' : t.toList ≠ [] := by simpa using ht
  have hiff := spelled_eq_iff hs' ht'
  rw [normalize?_of_ne_empty hs, normalize?_of_ne_empty ht, Except.ok.injEq]
  exact hiff

theorem normalize?_of_respells {s t : String} (hs : s ≠ "") (h : Respells s.toList t.toList) :
    normalize? (some s) = .ok (normalForm t) := by
  rw [normalize?_of_ne_empty hs]
  exact congrArg Except.ok h.spelled_eq

/-- Texts that are not empty have the same normal form exactly when they are
    respellings of each other.  Among them are, behind anything that is more
    than slashes, a second slash, a dot, and a name that is left again; and in
    the text of the normal form there are none of these, and as many leading
    slashes as count. -/
theorem normalize_identifies {x y name : String} (hx : ∃ c ∈ x.toList, c ≠ '/')
    (hname : IsOrdinary name) :
    (∃ path, normalize? (some (x ++ "/" ++ y)) = .ok path ∧
      normalize? (some (x ++ "//" ++ y)) = .ok path ∧
      normalize? (some (x ++ "/./" ++ y)) = .ok path ∧
      normalize? (some (x ++ "/" ++ name ++ "/../" ++ y)) = .ok path) ∧
    (∀ s t, s ≠ "" → t ≠ "" →
      (normalize? (some s) = normalize? (some t) ↔ Respelled s.toList t.toList)) ∧
    (∀ text, text ≠ "" → ∃ path, normalize? (some text) = .ok path ∧
      IsTidied text.toList path.text.toList) := by
  refine ⟨?_, fun s t => normalize?_eq_iff_respelled, ?_⟩
  · have hslash := Respells.slash y.toList hx
    have hdot := Respells.dot y.toList hx
    have hclimb := Respells.climb y.toList hx hname
    refine ⟨normalForm (x ++ "/" ++ y), ?_, ?_, ?_, ?_⟩
    · exact normalize?_of_ne_empty (by simp)
    · exact normalize?_of_respells (by simp) (by simpa using hslash)
    · exact normalize?_of_respells (by simp) (by simpa using hdot)
    · exact normalize?_of_respells (by simp) (by simpa using hclimb)
  · intro text htext
    exact ⟨normalForm text, normalize?_of_ne_empty htext, isTidied_normalForm text⟩

/-- A drive is a name like any other, though its letter changes: a climb
    behind it leads back to where the text starts. -/
theorem drive_left_again : (∃ c ∈ "c:\\x".toList, c ≠ '/') ∧ IsOrdinary "..." ∧
    normalize? (some ("c:\\x" ++ "/" ++ "..." ++ "/../" ++ "../b")) =
      normalize? (some ("c:\\x" ++ "/" ++ "../b")) ∧
    Respelled ("c:\\x" ++ "/" ++ "../b").toList "b".toList := by
  have hfront : ∃ c ∈ "c:\\x".toList, c ≠ '/' := ⟨'c', by decide, by decide⟩
  have hname : IsOrdinary "..." := ⟨⟨by decide, by decide, by decide⟩, by decide⟩
  obtain ⟨⟨path, hkept, -, -, hclimb⟩, hiff, -⟩ :=
    normalize_identifies (y := "../b") hfront hname
  have hsame : normalize? (some ("c:\\x" ++ "/" ++ "../b")) = normalize? (some "b") := by decide
  refine ⟨hfront, hname, hclimb.trans hkept.symm, ?_⟩
  exact (hiff _ _ (by decide) (by decide)).1 hsame

end Path

end DenoBridge
