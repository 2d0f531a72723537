import DenoBridge.Proofs.Path.Containment
import DenoBridge.Proofs.Toolchain.Refresh

/-! # The two declaration files

    The declaration files of a cache root are children of it with names of
    their own.  A file system is ready for a pass (`IsReady`) when each of
    them is absent or regular, they are not the same file, and the directory
    they stand in is there or can be made.  On a ready file system a pass does
    exactly what it should (`refreshed_of_isReady`).
-/

namespace DenoBridge

open FileSystem

/-! ## Section 1: Their paths -/

namespace Cache

theorem isName_declarationName (unstable : Bool) : Path.IsName (declarationName unstable) := by
  cases unstable <;> exact ⟨by decide, by decide, by decide⟩

theorem isPlain_declarationName (unstable : Bool) : IsPlain (declarationName unstable) := by
  cases unstable <;> exact ⟨by decide, by decide, by decide⟩

theorem declarationName_ne (unstable : Bool) :
    declarationName (!unstable) ≠ declarationName unstable := by
  cases unstable <;> decide

theorem declarationFile_eq (root : Path) (unstable : Bool) : declarationFile root unstable =
    ⟨root.anchor, root.names ++ [declarationName unstable]⟩ :=
  Path.child_of_isName root (isName_declarationName unstable)

theorem isProper_declarationFile {root : Path} (h : root.IsProper) (unstable : Bool) :
    (declarationFile root unstable).IsProper :=
  h.child _

@[simp]
theorem parent_declarationFile (root : Path) (unstable : Bool) :
    (declarationFile root unstable).parent = root := by
  simp [declarationFile_eq, Path.parent]

@[simp]
theorem isUnusable_declarationFile (root : Path) (unstable : Bool) :
    isUnusable (declarationFile root unstable) = isUnusable root := by
  rw [Bool.eq_iff_iff, declarationFile_eq]
  constructor
  · intro h
    obtain ⟨name, hname, hnul⟩ := isUnusable_iff.1 h
    rcases List.mem_append.1 hname with hname | hname
    · exact isUnusable_iff.2 ⟨name, hname, hnul⟩
    · obtain rfl : name = declarationName unstable := by simpa using hname
      cases unstable <;> exact absurd hnul (by decide)
  · exact fun h => isUnusable_append h _

end Cache

namespace Declarations

open Cache (declarationFile declarationName)

variable {fs fs' made : FileSystem} {here place above : Place} {root : Path} {unstable : Bool}
variable {content : Bytes}

/-! ## Section 2: Ready file systems -/

/-- The file system is a tree, and in it both files can be kept up to date. -/
structure IsReady (here : Place) (root : Path) (fs : FileSystem) : Prop where
  tree : fs.IsTree
  current : fs.get? here = some .directory
  usable : isUnusable root = false
  /-- Each file is absent or regular. -/
  entry : ∀ unstable, fs.IsAbsent here (declarationFile root unstable) ∨
    fs.IsRegular here (declarationFile root unstable)
  /-- Where a file is absent, making the directory for it does not fail. -/
  makeable : ∀ unstable, fs.IsAbsent here (declarationFile root unstable) →
    ∃ fs', (ensureDirectories here root).run fs = (.ok (), fs')
  /-- The two are not the same file. -/
  apart : ∀ unstable place node node',
    fs.find here (declarationFile root unstable).text = .ok (place, node) →
      fs.find here (declarationFile root !unstable).text ≠ .ok (place, node')

/-- What a pass with some content may leave of a file system, for the outcome
    that it has. -/
structure Refreshed (here : Place) (root : Path) (unstable : Bool) (content : Bytes)
    (fs : FileSystem) (outcome : Outcome) (fs' : FileSystem) : Prop where
  created_iff : outcome = .created ↔ fs.IsAbsent here (declarationFile root unstable)
  updated_iff : outcome = .updated ↔ ∃ place mode old,
    fs.find here (declarationFile root unstable).text = .ok (place, .file mode old) ∧ old ≠ content
  unchanged_iff : outcome = .unchanged ↔ ∃ place mode,
    fs.find here (declarationFile root unstable).text = .ok (place, .file mode content)
  /-- The file holds the content, nobody may write it, and elsewhere nothing is
      new but missing directories above it. -/
  held : ∃ place mode,
    fs'.find here (declarationFile root unstable).text = .ok (place, .file mode content) ∧
      mode &&& writeBits = 0 ∧
      ∀ q ≠ place, fs'.get? q = fs.get? q ∨
        fs.get? q = none ∧ fs'.get? q = some .directory ∧ q <+: place
  /-- A file that was made, rewritten or found writable has the protected mode. -/
  protected_mode : (∀ place mode,
      fs.find here (declarationFile root unstable).text = .ok (place, .file mode content) →
        mode &&& writeBits ≠ 0) →
    fs'.mode here (declarationFile root unstable).text = .ok readOnlyMode
  /-- An equal file that is protected already is not touched, and nothing else
      is. -/
  untouched : ∀ place mode,
    fs.find here (declarationFile root unstable).text = .ok (place, .file mode content) →
      mode &&& writeBits = 0 → fs' = fs
  other_regular : ∀ found, fs.find here (declarationFile root !unstable).text = .ok found →
    fs'.find here (declarationFile root !unstable).text = .ok found
  other_absent : fs.IsAbsent here (declarationFile root !unstable) →
    fs'.IsAbsent here (declarationFile root !unstable)

/-! ## Section 3: Absent files -/

/-- Once the directory is there, the place of a missing file is one name below
    it, and nothing stands there. -/
theorem get?_of_isMissing (hroot : root.IsNormal) (htree : fs.IsTree)
    (hlong : ¬ IsTooLong (declarationFile root unstable))
    (hmissing : fs.IsMissing here (declarationFile root unstable))
    (hreach : made.reach true here root = .ok above) (hgrown : Grown fs made above) :
    made.get? (above ++ [declarationName unstable]) = none ∧
      fs.get? (above ++ [declarationName unstable]) = none := by
  have hpath := Cache.isProper_declarationFile hroot.proper unstable
  obtain ⟨hsame, hbelow⟩ := hgrown.get?_child htree (declarationName unstable)
  have hold : fs.get? (above ++ [declarationName unstable]) = none := by
    rcases hgrown.new with rfl | hnone
    · -- The directory was there, so the walk to the file went through it.
      have hchild := reach_child (Cache.isPlain_declarationName unstable) hreach hgrown.directory
      rw [← Cache.declarationFile_eq] at hchild
      exact hmissing _ (locate_of_reach hpath hlong hchild)
    · exact hbelow (by simp [hnone])
  exact ⟨hsame.trans hold, hold⟩

theorem get?_of_isAbsent (hroot : root.IsNormal) (htree : fs.IsTree)
    (habsent : fs.IsAbsent here (declarationFile root unstable))
    (hreach : made.reach true here root = .ok above) (hgrown : Grown fs made above) :
    made.get? (above ++ [declarationName unstable]) = none ∧
      fs.get? (above ++ [declarationName unstable]) = none :=
  get?_of_isMissing hroot htree
    (habsent.not_isTooLong (Cache.isProper_declarationFile hroot.proper unstable))
    habsent.isMissing hreach hgrown

/-- Once the directory is there, the path leads to its place below it. -/
theorem locate_new (hroot : root.IsNormal)
    (hlong : ¬ IsTooLong (declarationFile root unstable))
    (hreach : made.reach true here root = .ok above) (hdir : made.get? above = some .directory)
    (hnone : made.get? (above ++ [declarationName unstable]) = none) (follow : Bool) :
    made.locate here (declarationFile root unstable).text follow =
      .ok (above ++ [declarationName unstable]) := by
  refine locate_of_reach (Cache.isProper_declarationFile hroot.proper unstable) hlong ?_
  rw [Cache.declarationFile_eq]
  have hplain := Cache.isPlain_declarationName unstable
  cases follow with
  | false => exact reach_child hplain hreach hdir
  | true => exact reach_child_follow hplain hreach hdir (by simp [hnone])

/-- The steps of a pass over an absent file. -/
theorem run_refresh_absent (hroot : root.IsNormal) (h : IsReady here root fs)
    (habsent : fs.IsAbsent here (declarationFile root unstable)) (content : Bytes) :
    ∃ made above, (ensureDirectories here root).run fs = (.ok (), made) ∧
      made.reach true here root = .ok above ∧ Grown fs made above ∧
      (refresh (access here) (declarationFile root unstable) content).run fs =
        (.ok .created,
          made.put (above ++ [declarationName unstable]) (.file readOnlyMode content)) := by
  have hpath := Cache.isProper_declarationFile hroot.proper unstable
  have husable := (Cache.isUnusable_declarationFile root unstable).trans h.usable
  obtain ⟨made, hmake⟩ := h.makeable unstable habsent
  obtain ⟨-, above, hreach, hgrown⟩ := grown_of_ensureDirectories h.tree h.current hroot hmake
  obtain ⟨hnone, -⟩ := get?_of_isAbsent hroot h.tree habsent hreach hgrown
  have hloc := locate_new hroot (habsent.not_isTooLong hpath) hreach hgrown.directory hnone true
  refine ⟨made, above, hmake, hreach, hgrown, ?_⟩
  refine run_refresh_missing husable (hasEntry_of_noEntry (habsent.find_eq hpath)) ?_ hloc hnone
  rw [Cache.parent_declarationFile]
  exact hmake

/-! ## Section 4: A file where there was none -/

theorem keeps_create (hgrown : Grown fs made above) {name : String}
    (hnone : made.get? (above ++ [name]) = none) (mode : Nat) (content : Bytes) :
    fs.Keeps (made.put (above ++ [name]) (.file mode content)) := by
  have hput : made.Keeps (made.put (above ++ [name]) (.file mode content)) :=
    Keeps.put (by simp) (by simp [hnone]) (by simp)
  exact ⟨fun q hq => hput.directory q (hgrown.keeps.directory q hq),
    fun q target => (hput.link_iff q target).trans (hgrown.keeps.link_iff q target)⟩

theorem frame_create (hgrown : Grown fs made above) {name : String} {node : Node} (q : Place)
    (hq : q ≠ above ++ [name]) :
    (made.put (above ++ [name]) node).get? q = fs.get? q ∨
      fs.get? q = none ∧ (made.put (above ++ [name]) node).get? q = some .directory ∧
        q <+: above ++ [name] := by
  rw [get?_put_of_ne made (by simp) node hq]
  rcases hgrown.frame q with hsame | ⟨hnone, hdir, hpre⟩
  · exact .inl hsame
  · exact .inr ⟨hnone, hdir, hpre.trans (List.prefix_append _ _)⟩

/-- A file that was there is found as before. -/
theorem find_create (hgrown : Grown fs made above) {name text : String}
    (hnone : made.get? (above ++ [name]) = none) (hold : fs.get? (above ++ [name]) = none)
    (mode : Nat) (content : Bytes) {found : Place × Node} (hfind : fs.find here text = .ok found) :
    (made.put (above ++ [name]) (.file mode content)).find here text = .ok found := by
  obtain ⟨q, node⟩ := found
  obtain ⟨hloc, hnode⟩ := find_eq_ok.1 hfind
  refine find_eq_ok.2 ⟨(keeps_create hgrown hnone mode content).locate hloc, ?_⟩
  have hq : q ≠ above ++ [name] := by
    rintro rfl
    rw [hold] at hnode
    cases hnode
  rcases frame_create hgrown q hq with hsame | ⟨hqnone, -, -⟩
  · exact hsame.trans hnode
  · rw [hnode] at hqnone
    cases hqnone

/-- The other file is still absent if it was. -/
theorem isAbsent_create (hroot : root.IsNormal) (htree : fs.IsTree)
    (habsent : fs.IsAbsent here (declarationFile root !unstable))
    (hreach : made.reach true here root = .ok above) (hgrown : Grown fs made above) (mode : Nat)
    (hnone : made.get? (above ++ [declarationName unstable]) = none) (content : Bytes) :
    (made.put (above ++ [declarationName unstable]) (.file mode content)).IsAbsent here
      (declarationFile root !unstable) := by
  have hpath := Cache.isProper_declarationFile hroot.proper (!unstable)
  obtain ⟨hother, -⟩ := get?_of_isAbsent hroot htree habsent hreach hgrown
  have hkeeps : made.Keeps (made.put (above ++ [declarationName unstable]) (.file mode content)) :=
    Keeps.put (by simp) (by simp [hnone]) (by simp)
  -- The two names differ, so the new file does not stand at the other path.
  have hne : above ++ [declarationName !unstable] ≠ above ++ [declarationName unstable] := by
    simpa using Cache.declarationName_ne unstable
  have hstill : (made.put (above ++ [declarationName unstable]) (.file mode content)).get?
      (above ++ [declarationName !unstable]) = none := by
    rw [get?_put_of_ne made (by simp) _ hne, hother]
  exact .inr ⟨_, locate_new hroot (habsent.not_isTooLong hpath) (hkeeps.walk hreach)
    (hkeeps.directory _ hgrown.directory) hstill false, hstill⟩

/-- An absent file is created. -/
theorem refreshed_created (hroot : root.IsNormal) (h : IsReady here root fs)
    (habsent : fs.IsAbsent here (declarationFile root unstable)) (content : Bytes)
    (hreach : made.reach true here root = .ok above) (hgrown : Grown fs made above) :
    Refreshed here root unstable content fs .created
      (made.put (above ++ [declarationName unstable]) (.file readOnlyMode content)) := by
  have hpath := Cache.isProper_declarationFile hroot.proper unstable
  have hmissing := habsent.find_eq hpath
  have hnofile : ∀ found, fs.find here (declarationFile root unstable).text ≠ .ok found := by
    intro found hfound
    rw [hmissing] at hfound
    cases hfound
  obtain ⟨hnone, hold⟩ := get?_of_isAbsent hroot h.tree habsent hreach hgrown
  have hfind := find_put_new (locate_new hroot (habsent.not_isTooLong hpath) hreach
    hgrown.directory hnone true) hnone (Node.isLeaf_file readOnlyMode content)
  constructor
  case created_iff => exact ⟨fun _ => habsent, fun _ => rfl⟩
  case updated_iff =>
    refine ⟨nofun, ?_⟩
    rintro ⟨place, mode, old, hfound, -⟩
    exact absurd hfound (hnofile _)
  case unchanged_iff =>
    refine ⟨nofun, ?_⟩
    rintro ⟨place, mode, hfound⟩
    exact absurd hfound (hnofile _)
  case held =>
    exact ⟨_, _, hfind, by decide, fun q hq => frame_create hgrown q hq⟩
  case protected_mode => exact fun _ => mode_of_find hfind
  case untouched =>
    intro place mode hfound
    exact absurd hfound (hnofile _)
  case other_regular =>
    intro found hfound
    exact find_create hgrown hnone hold readOnlyMode content hfound
  case other_absent =>
    intro hother
    exact isAbsent_create hroot h.tree hother hreach hgrown readOnlyMode hnone content

/-! ## Section 5: A file in place of a file -/

theorem isAbsent_put {path : Path} {old new : Node} (hnode : fs.get? place = some old)
    (hold : old.IsLeaf) (hnew : new.IsLeaf) (habsent : fs.IsAbsent here path) :
    (fs.put place new).IsAbsent here path := by
  unfold IsAbsent
  rw [(SameShape.put hnode hold hnew).locate_eq]
  rcases habsent with herror | ⟨q, hloc, hnone⟩
  · exact .inl herror
  · refine .inr ⟨q, hloc, ?_⟩
    rw [get?_put_of_ne fs (ne_root_of_leaf hnode hold)]
    · exact hnone
    · rintro rfl
      rw [hnode] at hnone
      cases hnone

/-- There is one file under a text. -/
theorem file_unique {text : String} {mode mode' : Nat} {old old' : Bytes} {q : Place}
    (hfind : fs.find here text = .ok (place, .file mode old))
    (hfound : fs.find here text = .ok (q, .file mode' old')) : mode = mode' ∧ old = old' := by
  have heq := Except.ok.inj (hfind.symm.trans hfound)
  simp only [Prod.mk.injEq, Node.file.injEq] at heq
  exact heq.2

/-- The outcome for a file that is there tells whether its content differs. -/
theorem outcome_of_find {path : Path} (hpath : path.IsProper) {mode : Nat} {old : Bytes}
    {outcome : Outcome} (hfind : fs.find here path.text = .ok (place, .file mode old))
    (hwhy : outcome = .updated ∧ old ≠ content ∨ outcome = .unchanged ∧ old = content) :
    (outcome = .created ↔ fs.IsAbsent here path) ∧
      (outcome = .updated ↔ ∃ place mode old,
        fs.find here path.text = .ok (place, .file mode old) ∧ old ≠ content) ∧
      (outcome = .unchanged ↔ ∃ place mode,
        fs.find here path.text = .ok (place, .file mode content)) := by
  have hnot : ¬ fs.IsAbsent here path := fun habsent =>
    habsent.not_isRegular hpath ⟨place, mode, old, hfind⟩
  rcases hwhy with ⟨rfl, hne⟩ | ⟨rfl, rfl⟩
  · refine ⟨⟨nofun, fun habsent => absurd habsent hnot⟩,
      ⟨fun _ => ⟨place, mode, old, hfind, hne⟩, fun _ => rfl⟩, nofun, ?_⟩
    rintro ⟨q, mode', hfound⟩
    exact absurd (file_unique hfind hfound).2 hne
  · refine ⟨⟨nofun, fun habsent => absurd habsent hnot⟩, ⟨nofun, ?_⟩,
      fun _ => ⟨place, mode, hfind⟩, fun _ => rfl⟩
    rintro ⟨q, mode', old', hfound, hne⟩
    exact absurd (file_unique hfind hfound).2.symm hne

/-- What holds of the rest when the file of a mode is replaced. -/
theorem refreshed_replaced (hroot : root.IsNormal) (h : IsReady here root fs) {mode : Nat}
    {old : Bytes} {outcome : Outcome}
    (hfind : fs.find here (declarationFile root unstable).text = .ok (place, .file mode old))
    (hwhy : outcome = .updated ∧ old ≠ content ∨ outcome = .unchanged ∧ old = content)
    (hopen : old = content → mode &&& writeBits ≠ 0) :
    Refreshed here root unstable content fs outcome
      (fs.put place (.file readOnlyMode content)) := by
  have hpath := Cache.isProper_declarationFile hroot.proper unstable
  obtain ⟨-, hnode⟩ := find_eq_ok.1 hfind
  have hleaf := Node.isLeaf_file mode old
  have hnew := Node.isLeaf_file readOnlyMode content
  have hafter := find_put_self hfind hleaf hnew
  obtain ⟨hcreated, hupdated, hunchanged⟩ := outcome_of_find hpath hfind hwhy
  constructor
  case created_iff => exact hcreated
  case updated_iff => exact hupdated
  case unchanged_iff => exact hunchanged
  case held =>
    refine ⟨place, readOnlyMode, hafter, by decide, fun q hq => .inl ?_⟩
    exact get?_put_of_ne fs (ne_root_of_leaf hnode hleaf) _ hq
  case protected_mode => exact fun _ => mode_of_find hafter
  case untouched =>
    intro q mode' hfound hprotected
    obtain ⟨rfl, heq⟩ := file_unique hfind hfound
    exact absurd hprotected (hopen heq)
  case other_regular =>
    -- The other file stands elsewhere, or it would be the same file.
    intro found hfound
    rw [find_put_other hnode hleaf hnew (fun node => h.apart unstable place _ node hfind)]
    exact hfound
  case other_absent => exact isAbsent_put hnode hleaf hnew

/-- Nothing has to be done about an equal file that is protected. -/
theorem refreshed_untouched (hroot : root.IsNormal) {mode : Nat}
    (hfind : fs.find here (declarationFile root unstable).text = .ok (place, .file mode content))
    (hprotected : mode &&& writeBits = 0) :
    Refreshed here root unstable content fs .unchanged fs := by
  have hpath := Cache.isProper_declarationFile hroot.proper unstable
  obtain ⟨hcreated, hupdated, hunchanged⟩ := outcome_of_find hpath hfind (.inr ⟨rfl, rfl⟩)
  constructor
  case created_iff => exact hcreated
  case updated_iff => exact hupdated
  case unchanged_iff => exact hunchanged
  case held => exact ⟨place, mode, hfind, hprotected, fun q _ => .inl rfl⟩
  case protected_mode => exact fun hwritable => absurd hprotected (hwritable place mode hfind)
  case untouched => exact fun _ _ _ _ => rfl
  case other_regular => exact fun _ hfound => hfound
  case other_absent => exact fun habsent => habsent

/-! ## Section 6: A pass -/

/-- On a ready file system no call of a pass fails, and the pass does what it
    should. -/
theorem refreshed_of_isReady (hroot : root.IsNormal) (h : IsReady here root fs) (unstable : Bool)
    (content : Bytes) : ∃ outcome fs',
      (refresh (access here) (declarationFile root unstable) content).run fs = (.ok outcome, fs') ∧
        Refreshed here root unstable content fs outcome fs' := by
  have husable := (Cache.isUnusable_declarationFile root unstable).trans h.usable
  rcases h.entry unstable with habsent | ⟨place, mode, old, hfind⟩
  · obtain ⟨made, above, -, hreach, hgrown, hrun⟩ := run_refresh_absent hroot h habsent content
    exact ⟨_, _, hrun, refreshed_created hroot h habsent content hreach hgrown⟩
  · by_cases heq : old = content
    · subst heq
      refine ⟨_, _, run_refresh_same husable hfind, ?_⟩
      split
      · rename_i hwritable
        exact refreshed_replaced hroot h hfind (.inr ⟨rfl, rfl⟩) fun _ => hwritable
      · rename_i hprotected
        exact refreshed_untouched hroot hfind (not_not.1 hprotected)
    · exact ⟨_, _, run_refresh_different husable hfind heq,
        refreshed_replaced hroot h hfind (.inl ⟨rfl, heq⟩) fun hsame => absurd hsame heq⟩

end Declarations

end DenoBridge
