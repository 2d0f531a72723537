import DenoBridge.Proofs.Files.Entries
import DenoBridge.Proofs.Files.Growth

/-! # What a call puts

    Writing to a path and changing its permissions put one node at the place
    that the path leads to (`putAt_of_write`, `putAt_of_chmod`).  Directories
    and links stay where they are, so the path leads to that place as before,
    and what is found elsewhere is found again (`PutAt.find_of_ne`).
-/

namespace DenoBridge.FileSystem

variable {fs fs' : FileSystem} {here place q : Place} {text text' : String} {node old : Node}
variable {path : Path} {content : Bytes} {bits : Nat}

/-! ## Section 1: The ends of paths -/

/-- The file system is a tree, and it is seen from one of its directories. -/
structure IsRooted (fs : FileSystem) (here : Place) : Prop where
  tree : fs.IsTree
  current : fs.get? here = some .directory

/-- The place that a path leads to is in a directory, and no link stands
    there. -/
theorem IsRooted.locate_end (h : fs.IsRooted here) (hloc : fs.locate here text true = .ok place) :
    fs.get? place.dropLast = some .directory ∧
      ∀ target, fs.get? place ≠ some (.link target) := by
  unfold locate at hloc
  split at hloc
  · cases hloc
  · split at hloc
    · cases hloc
    · exact h.tree.walk_end (get?_target h.current text) hloc

/-- The first names of a path to a directory lead to a directory. -/
theorem IsRooted.reach_first (h : fs.IsRooted here) (hreach : fs.reach true here path = .ok place)
    (hplace : fs.get? place = some .directory) (count : Nat) :
    ∃ above, fs.reach true here (path.first count) = .ok above ∧
      fs.get? above = some .directory := by
  by_cases hrest : path.names.drop count = []
  · have hwhole : path.first count = path := by
      rw [Path.first, List.take_of_length_le (List.drop_eq_nil_iff.1 hrest)]
    rw [hwhole]
    exact ⟨place, hreach, hplace⟩
  · unfold reach at hreach
    rw [← List.take_append_drop count path.names] at hreach
    obtain ⟨above, -, habove, hdir, -⟩ :=
      h.tree.walk_split (get?_start h.current path) hrest hreach
    exact ⟨above, habove, hdir⟩

/-- On the way to a directory there is nothing to make. -/
theorem IsRooted.ensureDirectories_first (h : fs.IsRooted here) (hcall : IsCallable path)
    (hreach : fs.reach true here path = .ok place) (hplace : fs.get? place = some .directory)
    (count : Nat) : (ensureDirectories here (path.first count)).run fs = (.ok (), fs) := by
  obtain ⟨above, habove, hdir⟩ := h.reach_first hreach hplace count
  have hfirst : IsCallable (path.first count) := by
    have hwhole : path = ⟨path.anchor, path.names.take count ++ path.names.drop count⟩ := by
      rw [List.take_append_drop]
    rw [hwhole] at hcall
    exact hcall.of_append
  exact ensureDirectories_of_directory h.tree h.current hfirst.proper hfirst.usable hfirst.short
    habove hdir

/-! ## Section 2: A node at the end of a path -/

/-- A node was put at the place that a text leads to. -/
structure PutAt (fs fs' : FileSystem) (here : Place) (text : String) (place : Place) (node : Node) :
    Prop where
  locate : fs.locate here text true = .ok place
  keeps : fs.Keeps fs'
  tree : fs'.IsTree
  there : fs'.get? place = some node
  frame : ∀ q, q ≠ place → fs'.get? q = fs.get? q

theorem PutAt.isRooted (h : PutAt fs fs' here text place node) (hrooted : fs.IsRooted here) :
    fs'.IsRooted here :=
  ⟨h.tree, h.keeps.directory _ hrooted.current⟩

theorem PutAt.find_eq (h : PutAt fs fs' here text place node) :
    fs'.find here text = .ok (place, node) :=
  find_eq_ok.2 ⟨h.keeps.locate h.locate, h.there⟩

/-- What stands elsewhere is found as before. -/
theorem PutAt.find_of_ne (h : PutAt fs fs' here text place node)
    (hfind : fs.find here text' = .ok (q, old)) (hq : q ≠ place) :
    fs'.find here text' = .ok (q, old) := by
  obtain ⟨hloc, hold⟩ := find_eq_ok.1 hfind
  exact find_eq_ok.2 ⟨h.keeps.locate hloc, (h.frame q hq).trans hold⟩

/-- A leaf where there was nothing, or a leaf. -/
theorem IsRooted.putAt (h : fs.IsRooted here) (hloc : fs.locate here text true = .ok place)
    (hnode : node.IsLeaf) (hold : ∀ old, fs.get? place = some old → old.IsLeaf) :
    PutAt fs (fs.put place node) here text place node := by
  -- At the root there is a directory, which is no leaf.
  have hplace : place ≠ [] := by
    rintro rfl
    exact (hold .directory rfl).ne_directory rfl
  have htree : (fs.put place node).IsTree := by
    cases hthere : fs.get? place with
    | none => exact h.tree.put_new hthere (h.locate_end hloc).1 node
    | some old => exact h.tree.put_leaf hthere (hold old hthere)
  exact ⟨hloc, Keeps.put hplace hold hnode.ne_link, htree, get?_put_self fs hplace node,
    fun q hq => get?_put_of_ne fs hplace node hq⟩

/-- The node that stands there already. -/
theorem IsRooted.putAt_same (h : fs.IsRooted here) (hfind : fs.find here text = .ok (place, node)) :
    PutAt fs (fs.put place node) here text place node := by
  obtain ⟨hloc, hnode⟩ := find_eq_ok.1 hfind
  have hsame := get?_put_same hnode
  refine ⟨hloc, ⟨fun q hq => ?_, fun q target => ?_⟩, ?_, ?_, fun q _ => hsame q⟩
  · rw [hsame]
    exact hq
  · rw [hsame]
  · intro q there hq hthere
    rw [hsame] at hthere ⊢
    exact h.tree q there hq hthere
  · rw [hsame]
    exact hnode

/-! ## Section 3: Calls -/

/-- What is written to is no directory, and a leaf is left: a file with the
    content, or a device. -/
theorem written_cases {there : Option Node} (h : written there content = .ok node) :
    there ≠ some .directory ∧ node.IsLeaf ∧
      ((∃ mode, node = .sink mode) ∨ ∃ mode, node = .file mode content) := by
  have hfile {mode : Nat} (h : (.ok (.file mode content) : Except Errno Node) = .ok node) :
      node.IsLeaf ∧ ((∃ mode, node = .sink mode) ∨ ∃ mode, node = .file mode content) := by
    obtain rfl := Except.ok.inj h
    exact ⟨Node.isLeaf_file mode content, .inr ⟨mode, rfl⟩⟩
  match there with
  | none => exact ⟨by simp, hfile h⟩
  | some .directory => cases h
  | some (.file mode _) => exact ⟨by simp, hfile h⟩
  | some (.link _) => exact ⟨by simp, hfile h⟩
  | some (.tool _) => exact ⟨by simp, hfile h⟩
  | some (.sink mode) =>
    -- A device that lets itself be written to stays what it is.
    by_cases hrefused : mode &&& ownerWriteBit = 0
    · simp only [written, if_pos hrefused] at h
      cases h
    · simp only [written, if_neg hrefused] at h
      obtain rfl := Except.ok.inj h
      exact ⟨by simp, Node.isLeaf_sink mode, .inl ⟨mode, rfl⟩⟩

/-- Writing leaves a file with the content, or a device. -/
theorem IsRooted.putAt_of_write (h : fs.IsRooted here)
    (hwrite : fs.write here text content = .ok fs') :
    ∃ place node, PutAt fs fs' here text place node ∧
      ((∃ mode, node = .sink mode) ∨ ∃ mode, node = .file mode content) := by
  unfold write at hwrite
  obtain ⟨place, hloc, hwrite⟩ := exists_of_bind_ok hwrite
  obtain ⟨node, hnode, hwrite⟩ := exists_of_bind_ok hwrite
  obtain rfl := Except.ok.inj hwrite
  obtain ⟨hdirectory, hleaf, hcontent⟩ := written_cases hnode
  refine ⟨place, node, h.putAt hloc hleaf fun old hold => ⟨?_, ?_⟩, hcontent⟩
  · rintro rfl
    exact hdirectory hold
  · -- Links are followed to their ends.
    rintro target rfl
    exact (h.locate_end hloc).2 target hold

/-- Permissions change for what is found, and only files and devices have any. -/
theorem IsRooted.putAt_of_chmod (h : fs.IsRooted here)
    (hchmod : fs.chmod here text bits = .ok fs') :
    ∃ place old, fs.find here text = .ok (place, old) ∧
      PutAt fs fs' here text place (withMode bits old) := by
  unfold chmod at hchmod
  cases hfind : fs.find here text with
  | error e =>
    rw [hfind] at hchmod
    cases hchmod
  | ok found =>
    obtain ⟨place, old⟩ := found
    rw [hfind] at hchmod
    obtain rfl := Except.ok.inj hchmod
    refine ⟨place, old, rfl, ?_⟩
    cases old with
    | file mode bytes =>
      obtain ⟨hloc, hold⟩ := find_eq_ok.1 hfind
      exact h.putAt hloc (Node.isLeaf_file bits bytes) (by simp [hold, Node.isLeaf_file])
    | sink mode =>
      obtain ⟨hloc, hold⟩ := find_eq_ok.1 hfind
      exact h.putAt hloc (Node.isLeaf_sink bits) (by simp [hold, Node.isLeaf_sink])
    | _ => exact h.putAt_same hfind

end DenoBridge.FileSystem
