import DenoBridge.Path.Normal
import DenoBridge.Proofs.Path.Reading

/-! # Normal paths

    A path is normal when its names are names and a `..` stands only in a
    leading run of a relative path.  Collapsing makes a proper path normal
    (`isNormal_collapse`) and leaves a normal one as it is
    (`collapse_of_isNormal`).  Reading the text of a proper path again can
    change one thing more, the letter of a drive in its first name
    (`normalize_of_isProper`).
-/

namespace DenoBridge

namespace Path

/-! ## Section 1: Leading climbs -/

/-- A `..` stands only in front of all ordinary names, and below a root it
    does not stand at all. -/
inductive Climbs (anchor : Anchor) : List String → Prop where
  | ordinary {names : List String} : ".." ∉ names → Climbs anchor names
  | up {names : List String} : anchor = .relative → Climbs anchor names →
      Climbs anchor (".." :: names)

/-- The path is proper and nothing in it can be collapsed. -/
structure IsNormal (path : Path) : Prop where
  proper : path.IsProper
  climbs : Climbs path.anchor path.names

theorem Climbs.append_ordinary {anchor : Anchor} {names : List String} (h : Climbs anchor names)
    {more : List String} (hmore : ".." ∉ more) : Climbs anchor (names ++ more) := by
  induction h with
  | ordinary hnames => exact .ordinary (by simp [hnames, hmore])
  | up hrel _ ih => exact .up hrel ih

theorem Climbs.append_up {names : List String} (h : ∀ name ∈ names, name = "..") :
    Climbs .relative (names ++ [".."]) := by
  induction names with
  | nil => exact .up rfl (.ordinary (by simp))
  | cons first rest ih =>
    obtain rfl : first = ".." := h first (by simp)
    exact .up rfl (ih fun name hname => h name (by simp [hname]))

theorem Climbs.dropLast {anchor : Anchor} {names : List String} (h : Climbs anchor names) :
    Climbs anchor names.dropLast := by
  induction h with
  | ordinary hnames => exact .ordinary fun hm => hnames (List.dropLast_subset _ hm)
  | @up names hrel hclimbs ih =>
    cases names with
    | nil => exact .ordinary (by simp)
    | cons next more => exact .up hrel ih

/-- Below a `..` at the end there is nothing but `..`. -/
theorem Climbs.all_up {anchor : Anchor} {names : List String} (h : Climbs anchor names)
    (hlast : names.getLast? = some "..") : anchor = .relative ∧ ∀ name ∈ names, name = ".." := by
  induction h with
  | ordinary hnames => exact absurd (List.mem_of_getLast? hlast) hnames
  | @up names hrel hclimbs ih =>
    refine ⟨hrel, ?_⟩
    cases names with
    | nil => simp
    | cons next more =>
      intro name hname
      rcases List.mem_cons.1 hname with rfl | hname
      · rfl
      · exact (ih (by simpa [List.getLast?_cons_cons] using hlast)).2 name hname

/-! ## Section 2: The stack of names -/

/-- What pushing one more name does, read from the first name on: the name is
    added, it takes the last one away, or it vanishes below a root. -/
theorem reverse_push (anchor : Anchor) (stack : List String) (name : String) :
    (push anchor stack name).reverse =
      if name = ".." then
        if stack.reverse.getLast?.all (· == "..") then
          if anchor = .relative ∨ stack ≠ [] then stack.reverse ++ [".."] else []
        else stack.reverse.dropLast
      else stack.reverse ++ [name] := by
  unfold push
  by_cases hname : name = ".."
  · cases stack with
    | nil => by_cases hrel : anchor = .relative <;> simp [hname, hrel]
    | cons top rest => by_cases htop : top = ".." <;> simp [hname, htop]
  · simp [hname]

theorem climbs_reverse_push {anchor : Anchor} {stack : List String}
    (h : Climbs anchor stack.reverse) (name : String) :
    Climbs anchor (push anchor stack name).reverse := by
  rw [reverse_push]
  split
  · split
    · -- The climb is kept on top of other climbs only, or at the bottom.
      rename_i hlast
      split
      · rename_i hkept
        cases stack with
        | nil =>
          obtain rfl : anchor = .relative := by simpa using hkept
          exact .append_up (by simp)
        | cons top rest =>
          have hup : (top :: rest).reverse.getLast? = some ".." := by
            simpa using hlast
          obtain ⟨rfl, hall⟩ := h.all_up hup
          exact .append_up hall
      · exact .ordinary (by simp)
    · exact h.dropLast
  · rename_i hname
    exact h.append_ordinary (by simpa using Ne.symm hname)

theorem climbs_reverse_foldl_push {anchor : Anchor} (names : List String) {stack : List String}
    (h : Climbs anchor stack.reverse) :
    Climbs anchor (names.foldl (push anchor) stack).reverse := by
  induction names generalizing stack with
  | nil => exact h
  | cons name rest ih => exact ih (climbs_reverse_push h name)

theorem mem_push {anchor : Anchor} {stack : List String} {name found : String}
    (h : found ∈ push anchor stack name) : found ∈ stack ∨ found = name := by
  unfold push at h
  split at h
  · rename_i hname
    subst hname
    split at h
    · split at h
      · exact .inr (by simpa using h)
      · simp at h
    · split at h
      · rename_i htop
        subst htop
        exact (List.mem_cons.1 h).symm
      · exact .inl (by simp [h])
  · exact (List.mem_cons.1 h).symm

theorem mem_foldl_push {anchor : Anchor} (names : List String) {stack : List String}
    {found : String} (h : found ∈ names.foldl (push anchor) stack) :
    found ∈ stack ∨ found ∈ names := by
  induction names generalizing stack with
  | nil => exact .inl h
  | cons name rest ih =>
    rcases ih h with h | h
    · rcases mem_push h with h | h
      · exact .inl h
      · exact .inr (by simp [h])
    · exact .inr (by simp [h])

theorem push_of_ne (anchor : Anchor) (stack : List String) {name : String} (h : name ≠ "..") :
    push anchor stack name = name :: stack := by
  unfold push
  rw [if_neg h]

theorem foldl_push_ordinary (anchor : Anchor) {names : List String} (h : ".." ∉ names)
    (stack : List String) : names.foldl (push anchor) stack = names.reverse ++ stack := by
  induction names generalizing stack with
  | nil => rfl
  | cons name rest ih =>
    simp only [List.mem_cons, not_or] at h
    obtain ⟨hname, hrest⟩ := h
    rw [List.foldl_cons, push_of_ne anchor stack (Ne.symm hname), ih hrest]
    simp

theorem foldl_push_of_climbs {anchor : Anchor} {names : List String} (h : Climbs anchor names)
    {stack : List String} (hstack : ∀ name ∈ stack, name = "..") :
    names.foldl (push anchor) stack = names.reverse ++ stack := by
  induction h generalizing stack with
  | ordinary hnames => exact foldl_push_ordinary anchor hnames stack
  | up hrel _ ih =>
    -- There is nothing on the stack that a leading climb could take away.
    have hpush : push anchor stack ".." = ".." :: stack := by
      cases stack with
      | nil => simp [push, hrel]
      | cons top rest =>
        obtain rfl : top = ".." := hstack top (by simp)
        simp [push]
    rw [List.foldl_cons, hpush, ih (by simpa using hstack)]
    simp

/-! ## Section 3: Collapsing -/

theorem isNormal_collapse {path : Path} (h : path.IsProper) : path.collapse.IsNormal := by
  constructor
  · intro name hname
    rcases mem_foldl_push _ (List.mem_reverse.1 hname) with hname | hname
    · simp at hname
    · exact h name hname
  · exact climbs_reverse_foldl_push path.names (.ordinary (by simp))

theorem foldl_push_nil {path : Path} (h : path.IsNormal) :
    path.names.foldl (push path.anchor) [] = path.names.reverse := by
  have hnone : ∀ name ∈ ([] : List String), name = ".." := by simp
  rw [foldl_push_of_climbs h.climbs hnone, List.append_nil]

theorem collapse_of_isNormal {path : Path} (h : path.IsNormal) : path.collapse = path := by
  rw [collapse, foldl_push_nil h]
  simp

/-- Collapsing goes on where a normal path ends. -/
theorem collapse_append {path : Path} (h : path.IsNormal) (more : List String) :
    collapse ⟨path.anchor, path.names ++ more⟩ =
      ⟨path.anchor, (more.foldl (push path.anchor) path.names.reverse).reverse⟩ := by
  rw [collapse, List.foldl_append, foldl_push_nil h]

/-! ## Section 4: Drive letters -/

theorem raiseDrive_eq (text : List Char) : raiseDrive text = text ∨
    ∃ letter rest, isLowerLetter letter = true ∧ text = letter :: ':' :: '\\' :: rest ∧
      raiseDrive text = letter.toUpper :: ':' :: '\\' :: rest := by
  unfold raiseDrive
  split
  · rename_i letter rest
    by_cases hletter : isLowerLetter letter = true
    · exact .inr ⟨letter, rest, hletter, rfl, by simp [hletter]⟩
    · exact .inl (by simp [hletter])
  · exact .inl rfl

theorem raiseDrive_slash (rest : List Char) : raiseDrive ('/' :: rest) = '/' :: rest := by
  unfold raiseDrive
  split
  · rename_i letter rest' heq
    obtain ⟨rfl, rfl⟩ : '/' = letter ∧ rest = ':' :: '\\' :: rest' := by simpa using heq
    rfl
  · rfl

/-- Only what stands before the first slash matters for a drive letter. -/
theorem raiseDrive_append_slash (front rest : List Char) :
    raiseDrive (front ++ '/' :: rest) = raiseDrive front ++ '/' :: rest := by
  -- A drive is three characters long, and none of them is a slash.
  match front with
  | [] => exact raiseDrive_slash rest
  | [a] => simp [raiseDrive]
  | [a, b] => simp [raiseDrive]
  | a :: b :: c :: more =>
    by_cases hdrive : b = ':' ∧ c = '\\'
    · obtain ⟨rfl, rfl⟩ := hdrive
      rfl
    · have hkept (tail : List Char) : raiseDrive (a :: b :: c :: tail) = a :: b :: c :: tail := by
        unfold raiseDrive
        split
        · rename_i heq
          simp only [List.cons.injEq] at heq
          exact absurd ⟨heq.2.1, heq.2.2.1⟩ hdrive
        · rfl
      rw [hkept]
      exact hkept _

/-- A name with the letter of its drive in upper case. -/
def raiseName (name : String) : String :=
  String.ofList (raiseDrive name.toList)

/-- The path with the letter of the drive that its text begins with in upper
    case. -/
def raise (path : Path) : Path :=
  match path.anchor, path.names with
  | .relative, first :: rest => ⟨.relative, raiseName first :: rest⟩
  | _, _ => path

@[simp]
theorem toList_raiseName (name : String) : (raiseName name).toList = raiseDrive name.toList :=
  String.toList_ofList

@[simp]
theorem anchor_raise (path : Path) : path.raise.anchor = path.anchor := by
  obtain ⟨anchor, names⟩ := path
  cases anchor <;> cases names <;> rfl

/-- The characters up to the last lower-case letter are few enough to try. -/
theorem lowerLetter_cases {P : Char → Prop}
    (h : ∀ n < 123, isLowerLetter (Char.ofNat n) = true → P (Char.ofNat n)) {letter : Char}
    (hletter : isLowerLetter letter = true) : P letter := by
  have hrange : letter.toNat < 123 := by
    have := (Bool.and_eq_true_iff.1 hletter).2
    exact Nat.lt_succ_of_le (of_decide_eq_true this)
  have hcase := h letter.toNat hrange
  rw [Char.ofNat_toNat] at hcase
  exact hcase hletter

theorem toUpper_ne_slash {letter : Char} (h : isLowerLetter letter = true) :
    letter.toUpper ≠ '/' :=
  lowerLetter_cases (P := fun c => c.toUpper ≠ '/') (by decide) h

theorem toUpper_ne_self {letter : Char} (h : isLowerLetter letter = true) :
    letter.toUpper ≠ letter :=
  lowerLetter_cases (P := fun c => c.toUpper ≠ c) (by decide) h

theorem isName_raiseName {name : String} (h : IsName name) : IsName (raiseName name) := by
  rcases raiseDrive_eq name.toList with hkept | ⟨letter, rest, hletter, hname, hraised⟩
  · rw [raiseName, hkept, String.ofList_toList]
    exact h
  · have hslash : '/' ∉ letter :: ':' :: '\\' :: rest := hname ▸ h.slash_not_mem
    refine ⟨?_, ?_, ?_⟩
    · rw [Ne, String.ext_iff, toList_raiseName, hraised]
      simp
    · rw [Ne, String.ext_iff, toList_raiseName, hraised]
      simp
    · rw [toList_raiseName, hraised]
      simp only [List.mem_cons, not_or] at hslash ⊢
      exact ⟨Ne.symm (toUpper_ne_slash hletter), hslash.2⟩

theorem raiseName_eq_dotDot {name : String} : raiseName name = ".." ↔ name = ".." := by
  rcases raiseDrive_eq name.toList with hkept | ⟨letter, rest, hletter, hname, hraised⟩
  · rw [raiseName, hkept, String.ofList_toList]
  · rw [String.ext_iff, toList_raiseName, hraised, String.ext_iff, hname]
    simp

theorem IsProper.raise {path : Path} (h : path.IsProper) : path.raise.IsProper := by
  obtain ⟨anchor, names⟩ := path
  cases anchor with
  | root => exact h
  | doubleRoot => exact h
  | relative =>
    cases names with
    | nil => exact h
    | cons first rest =>
      intro name hname
      rcases List.mem_cons.1 hname with rfl | hname
      · exact isName_raiseName (h first (by simp))
      · exact h name (by simp [hname])

theorem IsNormal.raise {path : Path} (h : path.IsNormal) : path.raise.IsNormal := by
  refine ⟨h.proper.raise, ?_⟩
  obtain ⟨anchor, names⟩ := path
  have hclimbs := h.climbs
  cases anchor with
  | root => exact hclimbs
  | doubleRoot => exact hclimbs
  | relative =>
    cases names with
    | nil => exact hclimbs
    | cons first rest =>
      cases hclimbs with
      | ordinary hnames =>
        simp only [List.mem_cons, not_or] at hnames
        refine .ordinary ?_
        show ".." ∉ raiseName first :: rest
        simp only [List.mem_cons, not_or]
        exact ⟨fun he => hnames.1 (raiseName_eq_dotDot.1 he.symm).symm, hnames.2⟩
      | up hrel hrest => exact .up hrel hrest

/-- The text of a path with its drive letter raised is its text with the drive
    letter raised. -/
theorem toList_text_raise (path : Path) :
    path.raise.text.toList = raiseDrive path.text.toList := by
  obtain ⟨anchor, names⟩ := path
  cases anchor with
  | root => simp [raise, toList_text, Anchor.text, raiseDrive_slash]
  | doubleRoot => simp [raise, toList_text, Anchor.text, raiseDrive_slash]
  | relative =>
    cases names with
    | nil => rfl
    | cons first rest =>
      cases rest with
      | nil => simp [raise, toList_text, Anchor.text, Text.joinPieces]
      | cons next more =>
        simp [raise, toList_text, Anchor.text, Text.joinPieces, raiseDrive_append_slash]

/-- Names put behind a path keep away from its drive letter. -/
theorem raise_append (path : Path) {more : List String}
    (hmore : ∀ first ∈ more.head?, raiseName first = first) :
    raise ⟨path.anchor, path.names ++ more⟩ = ⟨path.anchor, path.raise.names ++ more⟩ := by
  obtain ⟨anchor, names⟩ := path
  cases anchor with
  | root => rfl
  | doubleRoot => rfl
  | relative =>
    cases names with
    | cons first rest => rfl
    | nil =>
      cases more with
      | nil => rfl
      | cons first rest => simp [raise, hmore first (by simp)]

/-! ## Section 5: Normal forms -/

theorem isNormal_normalForm (text : String) : (normalForm text).IsNormal :=
  isNormal_collapse (isProper_ofChars _)

/-- What reading the text of a proper path in normal form does to it. -/
theorem normalize_of_isProper {path : Path} (h : path.IsProper) :
    path.normalize = path.raise.collapse := by
  have hread := ofString_text h.raise
  rw [ofString, toList_text_raise] at hread
  rw [normalize, normalForm, hread]

/-- On a normal path only a drive letter is left to raise. -/
theorem normalize_of_isNormal {path : Path} (h : path.IsNormal) : path.normalize = path.raise := by
  rw [normalize_of_isProper h.proper, collapse_of_isNormal h.raise]

/-- Names put behind a normal path are pushed onto its names. -/
theorem normalize_append {path : Path} (h : path.IsNormal) {more : List String}
    (hmore : ∀ name ∈ more, IsName name) (hdrive : ∀ first ∈ more.head?, raiseName first = first) :
    normalize ⟨path.anchor, path.names ++ more⟩ =
      ⟨path.anchor, (more.foldl (push path.anchor) path.raise.names.reverse).reverse⟩ := by
  have hproper : IsProper ⟨path.anchor, path.names ++ more⟩ := by
    intro name hname
    rcases List.mem_append.1 hname with hname | hname
    · exact h.proper name hname
    · exact hmore name hname
  have hcollapse := collapse_append h.raise more
  rw [anchor_raise] at hcollapse
  rw [normalize_of_isProper hproper, raise_append path hdrive, hcollapse]

/-! ## Section 6: Normal forms of normal forms -/

/-- The text of the path begins with the lower-case letter of a drive. -/
def HasLowerDrive (path : Path) : Prop :=
  ∃ letter rest, isLowerLetter letter = true ∧ path.text.toList = letter :: ':' :: '\\' :: rest

theorem text_inj {path other : Path} (h : path.IsProper) (hother : other.IsProper)
    (htext : path.text.toList = other.text.toList) : path = other := by
  have hread := ofString_text h
  rw [String.ext_iff.2 htext, ofString_text hother] at hread
  exact hread.symm

/-- A proper path is raised to another one exactly when its drive letter is in
    lower case. -/
theorem raise_eq_self_iff {path : Path} (h : path.IsProper) :
    path.raise = path ↔ ¬ path.HasLowerDrive := by
  constructor
  · rintro hsame ⟨letter, rest, hletter, htext⟩
    have hraised := toList_text_raise path
    rw [hsame, htext] at hraised
    have hhead : letter = letter.toUpper := by
      simpa [raiseDrive, hletter] using hraised
    exact toUpper_ne_self hletter hhead.symm
  · intro hnone
    refine text_inj h.raise h ?_
    rw [toList_text_raise]
    rcases raiseDrive_eq path.text.toList with hkept | ⟨letter, rest, hletter, htext, -⟩
    · exact hkept
    · exact absurd ⟨letter, rest, hletter, htext⟩ hnone

/-- Taking the normal form of a normal form changes nothing but the letter of
    a drive that was not in front of the text at first. -/
theorem normalize_normalForm (text : String) :
    (normalForm text).normalize = (normalForm text).raise :=
  normalize_of_isNormal (isNormal_normalForm text)

end Path

end DenoBridge
