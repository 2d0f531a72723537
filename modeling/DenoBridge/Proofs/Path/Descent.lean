import DenoBridge.Proofs.Path.Containment

/-! # Descending from a path

    To descend from a path is to join ordinary names to it, one after the
    other.  A normal path that another one continues was either reached by
    descending, or it climbs on where the other one, itself nothing but a
    climb, stopped (`isAtOrBelow_iff_of_isNormal`).  The test for containment
    does not tell the two apart: for texts, it holds exactly in one of the two
    cases (`within_iff_descends_or_climbsOn`), so the directory above the
    current one is found inside it (`parent_found_within`).
-/

namespace DenoBridge

namespace Path

/-! ## Section 1: Descents and climbs -/

/-- A name that leads one level down. -/
structure IsOrdinary (name : String) : Prop where
  isName : IsName name
  ne_dotDot : name ≠ ".."

/-- Ordinary names lead from the first path to the second. -/
def Descends (base path : Path) : Prop :=
  ∃ names : List String, (∀ name ∈ names, IsOrdinary name) ∧ names.foldl Path.child base = path

/-- A relative path that goes up and nowhere else; the path `.` goes up not at
    all. -/
structure IsClimb (path : Path) : Prop where
  relative : path.anchor = .relative
  up : ∀ name ∈ path.names, name = ".."

/-- The first path is a climb, and the second one goes up at least once more. -/
structure ClimbsOn (base path : Path) : Prop where
  isClimb : base.IsClimb
  relative : path.anchor = .relative
  further : base.names ++ [".."] <+: path.names

/-! ## Section 2: Joining names -/

theorem foldl_child (base : Path) {names : List String} (h : ∀ name ∈ names, IsName name) :
    names.foldl Path.child base = ⟨base.anchor, base.names ++ names⟩ := by
  induction names generalizing base with
  | nil => simp
  | cons name rest ih =>
    have hname : IsName name := h name (by simp)
    have hrest : ∀ other ∈ rest, IsName other := by
      intro other hother
      exact h other (by simp [hother])
    rw [List.foldl_cons, child_of_isName base hname, ih _ hrest]
    simp

theorem descends_iff {base path : Path} : base.Descends path ↔
    path.anchor = base.anchor ∧
      ∃ names, (∀ name ∈ names, IsOrdinary name) ∧ path.names = base.names ++ names := by
  obtain ⟨anchor, pathNames⟩ := path
  constructor
  -- Joining never looks at the anchor, so it is the base's in both directions.
  · rintro ⟨names, hnames, hpath⟩
    have hall : ∀ name ∈ names, IsName name := fun name hname => (hnames name hname).isName
    rw [foldl_child base hall] at hpath
    obtain ⟨rfl, rfl⟩ := Path.mk.inj hpath
    exact ⟨rfl, names, hnames, rfl⟩
  · rintro ⟨hanchor, names, hnames, hpath⟩
    obtain rfl : anchor = base.anchor := hanchor
    obtain rfl : pathNames = base.names ++ names := hpath
    have hall : ∀ name ∈ names, IsName name := fun name hname => (hnames name hname).isName
    exact ⟨names, hnames, foldl_child base hall⟩

/-! ## Section 3: What continues a normal path -/

/-- Where a normal path is cut in two, its second part has no climb, or it
    begins with one and the first part has nothing else. -/
theorem Climbs.of_append {anchor : Anchor} {front back : List String}
    (h : Climbs anchor (front ++ back)) :
    ".." ∉ back ∨
      anchor = .relative ∧ (∀ name ∈ front, name = "..") ∧ back.head? = some ".." := by
  -- The climbing names come first, so cutting off one more leaves a climbing path.
  induction front with
  | nil =>
    cases h with
    | ordinary hnames => exact .inl hnames
    | up hrel _ => exact .inr ⟨hrel, by simp, rfl⟩
  | cons first rest ih =>
    cases h with
    | ordinary hnames =>
      refine .inl fun hback => hnames ?_
      simp [hback]
    | up hrel hclimbs =>
      rcases ih hclimbs with hback | ⟨-, hrest, hhead⟩
      · exact .inl hback
      · refine .inr ⟨hrel, ?_, hhead⟩
        intro name hname
        rcases List.mem_cons.1 hname with rfl | hname
        · rfl
        · exact hrest name hname

theorem not_descends_of_climbsOn {base path : Path} (h : base.ClimbsOn path) :
    ¬ base.Descends path := by
  intro hdescends
  obtain ⟨-, names, hnames, hpath⟩ := descends_iff.1 hdescends
  obtain ⟨more, hmore⟩ := h.further
  have heq : base.names ++ (".." :: more) = base.names ++ names := by
    rw [← hpath, ← hmore]
    simp
  obtain rfl : ".." :: more = names := List.append_cancel_left heq
  exact (hnames ".." (by simp)).ne_dotDot rfl

/-- A normal path is at or below another one exactly when it is reached from
    there by descending, or by climbing on. -/
theorem isAtOrBelow_iff_of_isNormal {base path : Path} (h : path.IsNormal) :
    path.isAtOrBelow base = true ↔ base.Descends path ∨ base.ClimbsOn path := by
  rw [isAtOrBelow_iff]
  constructor
  · rintro ⟨hanchor, back, hnames⟩
    have hclimbs : Climbs path.anchor (base.names ++ back) := by
      rw [hnames]
      exact h.climbs
    rcases hclimbs.of_append with hback | ⟨hrel, hbase, hhead⟩
    · -- Without a climb all further names are ordinary.
      refine .inl (descends_iff.2 ⟨hanchor, back, ?_, hnames.symm⟩)
      intro name hname
      have hproper : name ∈ path.names := by
        rw [← hnames]
        exact List.mem_append_right _ hname
      refine ⟨h.proper name hproper, ?_⟩
      rintro rfl
      exact hback hname
    · obtain ⟨more, rfl⟩ := List.head?_eq_some_iff.1 hhead
      refine .inr ⟨⟨?_, hbase⟩, hrel, more, ?_⟩
      · rw [← hanchor, hrel]
      · rw [← hnames]
        simp
  · rintro (hdescends | hclimb)
    · obtain ⟨hanchor, names, -, hpath⟩ := descends_iff.1 hdescends
      exact ⟨hanchor, names, hpath.symm⟩
    · refine ⟨?_, ?_⟩
      · rw [hclimb.relative, hclimb.isClimb.relative]
      · exact (List.prefix_append _ _).trans hclimb.further

/-! ## Section 4: Texts -/

/-- A text lies within another one exactly when ordinary names lead from the
    normal form of the second to that of the first, or when the second is a
    climb and the first goes up further.  The two cases exclude each other. -/
theorem within_iff_descends_or_climbsOn {path root : String} (hpath : path ≠ "")
    (hroot : root ≠ "") : ∃ inside, isWithin (some path) (some root) = .ok inside ∧
      (inside = true ↔ (normalForm root).Descends (normalForm path) ∨
        (normalForm root).ClimbsOn (normalForm path)) ∧
      ¬ ((normalForm root).Descends (normalForm path) ∧
        (normalForm root).ClimbsOn (normalForm path)) := by
  refine ⟨_, isWithin_of_ne_empty hpath hroot, ?_, ?_⟩
  · exact isAtOrBelow_iff_of_isNormal (isNormal_normalForm path)
  · rintro ⟨hdescends, hclimb⟩
    exact not_descends_of_climbsOn hclimb hdescends

/-- The path `..` goes up further than `.` does. -/
theorem dot_climbsOn_parent : (normalForm ".").ClimbsOn (normalForm "..") := by
  refine ⟨⟨by decide, ?_⟩, by decide, [], by decide⟩
  have hnone : (normalForm ".").names = [] := by decide
  simp [hnone]

theorem parent_within_by_climbing : ".." ≠ "" ∧ "." ≠ "" ∧
    isWithin (some "..") (some ".") = .ok true ∧ ¬ (normalForm ".").Descends (normalForm "..") := by
  obtain ⟨inside, hinside, hiff, hone⟩ :=
    @within_iff_descends_or_climbsOn ".." "." (by decide) (by decide)
  have htrue : inside = true := hiff.2 (.inr dot_climbsOn_parent)
  refine ⟨by decide, by decide, ?_, fun hdescends => hone ⟨hdescends, dot_climbsOn_parent⟩⟩
  rw [hinside, htrue]

/-- The directory above the current one is found within it, though no names
    lead down to it. -/
theorem parent_found_within : isWithin (some "..") (some ".") = .ok true ∧
    ¬ ∃ names : List String, (∀ name ∈ names, IsOrdinary name) ∧
      names.foldl Path.child (normalForm ".") = normalForm ".." :=
  ⟨rfl, not_descends_of_climbsOn dot_climbsOn_parent⟩

end Path

end DenoBridge
