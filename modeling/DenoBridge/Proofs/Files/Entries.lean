import DenoBridge.Proofs.Files.Directories

/-! # Entries

    A path names nothing at all (`IsAbsent`), or a regular file, itself or
    through links (`IsRegular`).  What a call does to such an entry is told
    here by the node that it puts, and so is what it leaves of other entries.
-/

namespace DenoBridge.FileSystem

variable {fs fs' : FileSystem} {follow : Bool} {here place : Place} {path root : Path}
variable {name text : String} {node old new : Node} {mode : Nat} {content : Bytes}

/-! ## Section 1: Finding -/

theorem find_eq_ok : fs.find here text = .ok (place, node) ↔
    fs.locate here text true = .ok place ∧ fs.get? place = some node := by
  unfold find
  cases hloc : fs.locate here text true with
  | error e => simp
  | ok found =>
    dsimp only
    cases hnode : fs.get? found with
    | none =>
      constructor
      · rintro ⟨⟩
      · rintro ⟨hplace, hthere⟩
        obtain rfl := Except.ok.inj hplace
        rw [hnode] at hthere
        cases hthere
    | some there =>
      constructor
      · intro hfound
        obtain ⟨rfl, rfl⟩ := Prod.mk.inj (Except.ok.inj hfound)
        exact ⟨rfl, hnode⟩
      · rintro ⟨hplace, hthere⟩
        obtain rfl := Except.ok.inj hplace
        obtain rfl := Option.some.inj (hnode.symm.trans hthere)
        rfl

theorem find_of_none (hloc : fs.locate here text true = .ok place) (hnone : fs.get? place = none) :
    fs.find here text = .error .noEntry := by
  unfold find
  rw [hloc]
  dsimp only
  rw [hnone]

theorem Keeps.locate (h : fs.Keeps fs') (hloc : fs.locate here text follow = .ok place) :
    fs'.locate here text follow = .ok place := by
  unfold FileSystem.locate at hloc ⊢
  split at hloc
  · cases hloc
  · rename_i hne
    rw [if_neg hne]
    split at hloc
    · cases hloc
    · rename_i hshort
      rw [if_neg hshort]
      exact h.walk hloc

/-- What was found is found where directories were made. -/
theorem Grown.find_eq {above : Place} (h : Grown fs fs' above) {found : Place × Node}
    (hfind : fs.find here text = .ok found) : fs'.find here text = .ok found := by
  obtain ⟨place, node⟩ := found
  obtain ⟨hloc, hnode⟩ := find_eq_ok.1 hfind
  refine find_eq_ok.2 ⟨h.keeps.locate hloc, ?_⟩
  rcases h.frame place with hsame | ⟨hnone, -, -⟩
  · exact hsame.trans hnode
  · rw [hnode] at hnone
    cases hnone

theorem SameShape.locate_eq (h : fs.SameShape fs') :
    fs'.locate here text follow = fs.locate here text follow := by
  unfold FileSystem.locate
  simp only [h.walk_eq]

/-! ## Section 2: Another leaf in a place -/

theorem find_put_self (hfind : fs.find here text = .ok (place, old)) (hold : old.IsLeaf)
    (hnew : new.IsLeaf) : (fs.put place new).find here text = .ok (place, new) := by
  obtain ⟨hloc, hnode⟩ := find_eq_ok.1 hfind
  refine find_eq_ok.2 ⟨?_, get?_put_self fs (ne_root_of_leaf hnode hold) new⟩
  rw [(SameShape.put hnode hold hnew).locate_eq, hloc]

theorem find_put_other (hnode : fs.get? place = some old) (hold : old.IsLeaf) (hnew : new.IsLeaf)
    (hother : ∀ node, fs.find here text ≠ .ok (place, node)) :
    (fs.put place new).find here text = fs.find here text := by
  have hplace := ne_root_of_leaf hnode hold
  unfold find at hother ⊢
  rw [(SameShape.put hnode hold hnew).locate_eq]
  cases hloc : fs.locate here text true with
  | error e => rfl
  | ok found =>
    rw [hloc] at hother
    have hne : found ≠ place := by
      rintro rfl
      exact hother old (by simp [hnode])
    dsimp only
    rw [get?_put_of_ne fs hplace new hne]

theorem put_put (fs : FileSystem) (place : Place) (old new : Node) :
    (fs.put place old).put place new = fs.put place new := by
  simp [put, List.filter_filter]

/-! ## Section 3: Nothing at all -/

/-- No entry stands at the path, not even a link. -/
def IsAbsent (fs : FileSystem) (here : Place) (path : Path) : Prop :=
  fs.locate here path.text false = .error .noEntry ∨
    ∃ place, fs.locate here path.text false = .ok place ∧ fs.get? place = none

/-- A regular file stands at the path, or at the end of the links there. -/
def IsRegular (fs : FileSystem) (here : Place) (path : Path) : Prop :=
  ∃ place mode content, fs.find here path.text = .ok (place, .file mode content)

theorem locate_follow (hpath : path.IsProper)
    (hloc : fs.locate here path.text false = .ok place) (hnone : fs.get? place = none) :
    fs.locate here path.text true = .ok place := by
  obtain ⟨hreach, hlong⟩ := reach_of_locate hpath hloc
  exact locate_of_reach hpath hlong (walk_follow hreach (by simp [hnone]))

theorem IsAbsent.find_eq (h : fs.IsAbsent here path) (hpath : path.IsProper) :
    fs.find here path.text = .error .noEntry := by
  rcases h with hmissing | ⟨place, hloc, hnone⟩
  · have hfollow : fs.locate here path.text true = .error .noEntry := by
      rw [locate_text hpath] at hmissing ⊢
      split at hmissing
      · cases hmissing
      · rename_i hlong
        rw [if_neg hlong]
        exact walk_follow_error hmissing
    unfold find
    rw [hfollow]
  · exact find_of_none (locate_follow hpath hloc hnone) hnone

theorem IsAbsent.not_isRegular (h : fs.IsAbsent here path) (hpath : path.IsProper) :
    ¬ fs.IsRegular here path := by
  rintro ⟨place, mode, content, hfind⟩
  rw [h.find_eq hpath] at hfind
  cases hfind

theorem IsAbsent.not_isTooLong (h : fs.IsAbsent here path) (hpath : path.IsProper) :
    ¬ IsTooLong path := by
  intro hlong
  rw [IsAbsent, locate_text hpath, if_pos hlong] at h
  rcases h with h | ⟨place, h, -⟩
  · cases h
  · cases h

/-! ## Section 4: Nothing that is found -/

/-- No entry is found at the path, not even a link, whatever the reason. -/
def IsMissing (fs : FileSystem) (here : Place) (path : Path) : Prop :=
  ∀ place, fs.locate here path.text false = .ok place → fs.get? place = none

theorem IsAbsent.isMissing (h : fs.IsAbsent here path) : fs.IsMissing here path := by
  intro place hloc
  rcases h with hmissing | ⟨found, hfound, hnone⟩
  · rw [hmissing] at hloc
    cases hloc
  · obtain rfl := Except.ok.inj (hfound.symm.trans hloc)
    exact hnone

/-- The place of a missing entry, if it has one, is the same with links. -/
theorem IsMissing.of_locate (h : fs.IsMissing here path) (hpath : path.IsProper)
    (hloc : fs.locate here path.text true = .ok place) :
    fs.locate here path.text false = .ok place ∧ fs.get? place = none := by
  cases hstop : fs.locate here path.text false with
  | error e =>
    rw [locate_text hpath] at hstop hloc
    split at hstop
    · rename_i hlong
      rw [if_pos hlong] at hloc
      cases hloc
    · rename_i hlong
      rw [if_neg hlong] at hloc
      have hfollow : fs.reach true here path = .error e := walk_follow_error hstop
      rw [hfollow] at hloc
      cases hloc
  | ok found =>
    have hnone := h found hstop
    obtain rfl := Except.ok.inj ((locate_follow hpath hstop hnone).symm.trans hloc)
    exact ⟨rfl, hnone⟩

theorem IsMissing.find_error (h : fs.IsMissing here path) (hpath : path.IsProper) :
    ∃ e, fs.find here path.text = .error e := by
  cases hloc : fs.locate here path.text true with
  | error e =>
    refine ⟨e, ?_⟩
    unfold find
    rw [hloc]
  | ok place =>
    obtain ⟨-, hnone⟩ := h.of_locate hpath hloc
    exact ⟨.noEntry, find_of_none hloc hnone⟩

theorem IsMissing.find_ne (h : fs.IsMissing here path) (hpath : path.IsProper)
    (found : Place × Node) : fs.find here path.text ≠ .ok found := by
  obtain ⟨e, he⟩ := h.find_error hpath
  rw [he]
  exact nofun

theorem IsMissing.not_isRegular (h : fs.IsMissing here path) (hpath : path.IsProper) :
    ¬ fs.IsRegular here path := by
  rintro ⟨place, mode, content, hfind⟩
  exact h.find_ne hpath _ hfind

/-- A path of which a call can say whether there is an entry is no longer
    than a call takes. -/
theorem not_isTooLong_of_hasEntry (hpath : path.IsProper) {found : Bool}
    (h : fs.hasEntry here path.text = .ok found) : ¬ IsTooLong path := by
  intro hlong
  unfold hasEntry find at h
  rw [locate_text hpath, if_pos hlong] at h
  cases h

/-! ## Section 5: Calls on a file -/

theorem hasEntry_of_find (h : fs.find here text = .ok (place, node)) :
    fs.hasEntry here text = .ok true := by
  unfold hasEntry
  rw [h]

theorem hasEntry_of_noEntry (h : fs.find here text = .error .noEntry) :
    fs.hasEntry here text = .ok false := by
  unfold hasEntry
  rw [h]
  rfl

theorem read_of_find (h : fs.find here text = .ok (place, .file mode content)) :
    fs.read here text = .ok content := by
  unfold read
  rw [h]

theorem mode_of_find (h : fs.find here text = .ok (place, .file mode content)) :
    fs.mode here text = .ok mode := by
  unfold FileSystem.mode
  rw [h]
  rfl

theorem chmod_of_find (h : fs.find here text = .ok (place, .file mode content)) (bits : Nat) :
    fs.chmod here text bits = .ok (fs.put place (.file bits content)) := by
  unfold chmod
  rw [h]
  rfl

theorem write_of_find (h : fs.find here text = .ok (place, .file mode content))
    (bytes : Bytes) : fs.write here text bytes = .ok (fs.put place (.file mode bytes)) := by
  obtain ⟨hloc, hnode⟩ := find_eq_ok.1 h
  unfold write
  rw [hloc]
  simp only [bind, Except.bind, hnode, written]
  rfl

theorem write_of_none (hloc : fs.locate here text true = .ok place) (hnone : fs.get? place = none)
    (bytes : Bytes) :
    fs.write here text bytes = .ok (fs.put place (.file newFileMode bytes)) := by
  unfold write
  rw [hloc]
  simp only [bind, Except.bind, hnone, written]
  rfl

/-- A file put where nothing stood is found there. -/
theorem find_put_new (hloc : fs.locate here text true = .ok place) (hnone : fs.get? place = none)
    (hnew : new.IsLeaf) : (fs.put place new).find here text = .ok (place, new) := by
  have hplace := ne_root_of_none hnone
  have hkeeps : fs.Keeps (fs.put place new) := Keeps.put hplace (by simp [hnone]) hnew.ne_link
  exact find_eq_ok.2 ⟨hkeeps.locate hloc, get?_put_self fs hplace new⟩

end DenoBridge.FileSystem
