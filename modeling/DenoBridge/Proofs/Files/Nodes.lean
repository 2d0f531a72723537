import Mathlib.Data.List.Induction
import DenoBridge.Machine.Layout

/-! # Nodes of a file system

    What putting and removing a node does to every other place, and the
    relations between two file systems that walks depend on: trees
    (`IsTree`), systems with the same directories and links (`Keeps`), and
    systems that differ in what their files hold (`SameShape`).
-/

namespace DenoBridge

/-- A node that a walk cannot go through. -/
structure Node.IsLeaf (node : Node) : Prop where
  ne_directory : node ≠ .directory
  ne_link : ∀ target, node ≠ .link target

theorem Node.isLeaf_file (mode : Nat) (content : Bytes) : (Node.file mode content).IsLeaf :=
  ⟨by simp, by simp⟩

theorem Node.isLeaf_sink (mode : Nat) : (Node.sink mode).IsLeaf :=
  ⟨by simp, by simp⟩

/-- A node without what it holds. -/
def Node.shape : Node → Node
  | .directory => .directory
  | .link target => .link target
  | _ => .sink 0

theorem Node.IsLeaf.shape_eq {node : Node} (h : node.IsLeaf) : node.shape = .sink 0 := by
  cases node with
  | directory => exact absurd rfl h.ne_directory
  | link target => exact absurd rfl (h.ne_link target)
  | file => rfl
  | tool => rfl
  | sink => rfl

namespace FileSystem

/-! ## Section 1: Looking nodes up -/

@[simp]
theorem get?_root (fs : FileSystem) : fs.get? [] = some .directory :=
  rfl

theorem lookup_filter (nodes : List (Place × Node)) (p : Place → Bool) (place : Place) :
    (nodes.filter fun entry => p entry.1).lookup place =
      if p place then nodes.lookup place else none := by
  induction nodes with
  | nil => simp
  | cons entry rest ih =>
    obtain ⟨key, node⟩ := entry
    by_cases hkey : place = key
    · subst hkey
      by_cases hp : p place = true
      · simp [hp]
      · simp only [hp, Bool.false_eq_true, if_false] at ih
        simp [hp, ih]
    · have hbeq : (place == key) = false := by simpa using hkey
      by_cases hp : p key = true
      · simp [hp, List.lookup_cons, hbeq, ih]
      · simp [hp, List.lookup_cons, hbeq, ih]

theorem get?_put (fs : FileSystem) {place : Place} (hplace : place ≠ []) (node : Node)
    (q : Place) : (fs.put place node).get? q = if q = place then some node else fs.get? q := by
  unfold put get?
  by_cases hroot : q = []
  · rw [if_pos hroot, if_pos hroot, if_neg (hroot ▸ Ne.symm hplace)]
  · rw [if_neg hroot, if_neg hroot]
    by_cases hq : q = place
    · simp [hq]
    · have hbeq : (q == place) = false := by simpa using hq
      have hfilter := lookup_filter fs.nodes (fun key => decide (key ≠ place)) q
      rw [List.lookup_cons, hbeq, if_neg hq]
      simpa [hq] using hfilter

@[simp]
theorem get?_put_self (fs : FileSystem) {place : Place} (hplace : place ≠ []) (node : Node) :
    (fs.put place node).get? place = some node := by
  rw [get?_put fs hplace, if_pos rfl]

theorem get?_put_of_ne (fs : FileSystem) {place q : Place} (hplace : place ≠ []) (node : Node)
    (hq : q ≠ place) : (fs.put place node).get? q = fs.get? q := by
  rw [get?_put fs hplace, if_neg hq]

/-- A node put where it stands already is of no account. -/
theorem get?_put_same {fs : FileSystem} {place : Place} {node : Node}
    (h : fs.get? place = some node) (q : Place) : (fs.put place node).get? q = fs.get? q := by
  by_cases hplace : place = []
  · subst hplace
    obtain rfl : .directory = node := Option.some.inj h
    unfold put get?
    by_cases hroot : q = []
    · rw [if_pos hroot, if_pos hroot]
    · have hbeq : (q == []) = false := by simpa using hroot
      have hfilter := lookup_filter fs.nodes (fun key => decide (key ≠ [])) q
      rw [if_neg hroot, if_neg hroot, List.lookup_cons, hbeq]
      simpa [hroot] using hfilter
  · rw [get?_put fs hplace]
    split
    · rename_i hq
      rw [hq, h]
    · rfl

theorem ne_root_of_leaf {fs : FileSystem} {place : Place} {node : Node}
    (h : fs.get? place = some node) (hleaf : node.IsLeaf) : place ≠ [] := by
  rintro rfl
  exact hleaf.ne_directory (Option.some.inj h).symm

theorem ne_root_of_none {fs : FileSystem} {place : Place} (h : fs.get? place = none) :
    place ≠ [] := by
  rintro rfl
  simp at h

theorem get?_removeTree (fs : FileSystem) {place : Place} (hplace : place ≠ []) (q : Place) :
    (fs.removeTree place).get? q = if place <+: q then none else fs.get? q := by
  unfold removeTree get?
  by_cases hroot : q = []
  · have hpre : ¬ place <+: q := by
      rw [hroot, List.prefix_nil]
      exact hplace
    rw [if_pos hroot, if_pos hroot, if_neg hpre]
  · rw [if_neg hroot, if_neg hroot]
    have hfilter := lookup_filter fs.nodes (fun key => !place.isPrefixOf key) q
    by_cases hpre : place <+: q
    · have hb : place.isPrefixOf q = true := List.isPrefixOf_iff_prefix.2 hpre
      rw [if_pos hpre]
      simpa [hb] using hfilter
    · have hb : place.isPrefixOf q = false := by
        rw [← Bool.not_eq_true, List.isPrefixOf_iff_prefix]
        exact hpre
      rw [if_neg hpre]
      simpa [hb] using hfilter

/-! ## Section 2: Trees -/

/-- Whatever stands somewhere stands in a directory. -/
def IsTree (fs : FileSystem) : Prop :=
  ∀ place node, place ≠ [] → fs.get? place = some node →
    fs.get? place.dropLast = some .directory

theorem IsTree.get?_dropLast {fs : FileSystem} (h : fs.IsTree) {place : Place} {node : Node}
    (hnode : fs.get? place = some node) (hplace : place ≠ []) :
    fs.get? place.dropLast = some .directory :=
  h place node hplace hnode

/-- Above a directory there are directories only. -/
theorem IsTree.directory_dropLast {fs : FileSystem} (h : fs.IsTree) {place : Place}
    (hdir : fs.get? place = some .directory) : fs.get? place.dropLast = some .directory := by
  by_cases hplace : place = []
  · rw [hplace]
    rfl
  · exact h.get?_dropLast hdir hplace

/-- Below what is no directory there is nothing. -/
theorem IsTree.get?_child {fs : FileSystem} (h : fs.IsTree) {place : Place}
    (hdir : fs.get? place ≠ some .directory) (name : String) :
    fs.get? (place ++ [name]) = none := by
  by_contra hsome
  obtain ⟨node, hnode⟩ := Option.ne_none_iff_exists'.1 hsome
  have habove := h.get?_dropLast hnode (by simp)
  rw [List.dropLast_concat] at habove
  exact hdir habove

theorem IsTree.get?_of_prefix {fs : FileSystem} (h : fs.IsTree) {place q : Place}
    (hpre : place <+: q) (hdir : fs.get? place ≠ some .directory) (hq : q ≠ place) :
    fs.get? q = none := by
  obtain ⟨more, rfl⟩ := hpre
  have hmore : more ≠ [] := by
    rintro rfl
    simp at hq
  clear hq
  -- From one name below on, every further name finds nothing above it.
  induction more using List.reverseRecOn with
  | nil => exact absurd rfl hmore
  | append_singleton front last ih =>
    rw [← List.append_assoc]
    by_cases hfront : front = []
    · rw [hfront, List.append_nil]
      exact h.get?_child hdir last
    · refine h.get?_child ?_ last
      rw [ih hfront]
      simp

/-- A leaf in place of a leaf. -/
theorem IsTree.put_leaf {fs : FileSystem} (h : fs.IsTree) {place : Place} {old new : Node}
    (hold : fs.get? place = some old) (hleaf : old.IsLeaf) : (fs.put place new).IsTree := by
  have hplace := ne_root_of_leaf hold hleaf
  intro q node hq hnode
  rw [get?_put fs hplace] at hnode
  have habove : fs.get? q.dropLast = some .directory := by
    split at hnode
    · rename_i heq
      subst heq
      exact h.get?_dropLast hold hq
    · exact h.get?_dropLast hnode hq
  rw [get?_put_of_ne fs hplace]
  · exact habove
  · intro heq
    rw [heq, hold] at habove
    exact hleaf.ne_directory (Option.some.inj habove)

/-- A node where there was none, in a directory. -/
theorem IsTree.put_new {fs : FileSystem} (h : fs.IsTree) {place : Place}
    (hnone : fs.get? place = none) (habove : fs.get? place.dropLast = some .directory) (new : Node) :
    (fs.put place new).IsTree := by
  have hplace := ne_root_of_none hnone
  intro q node hq hnode
  rw [get?_put fs hplace] at hnode
  have hdir : fs.get? q.dropLast = some .directory := by
    split at hnode
    · rename_i heq
      rw [heq]
      exact habove
    · exact h.get?_dropLast hnode hq
  rw [get?_put_of_ne fs hplace]
  · exact hdir
  · intro heq
    rw [heq, hnone] at hdir
    cases hdir

/-- Taking away a node that holds no others. -/
theorem IsTree.get?_removeTree {fs : FileSystem} (h : fs.IsTree) {place : Place} {old : Node}
    (hold : fs.get? place = some old) (hdir : old ≠ .directory) (q : Place) :
    (fs.removeTree place).get? q = if q = place then none else fs.get? q := by
  have hplace : place ≠ [] := by
    rintro rfl
    exact hdir (Option.some.inj hold).symm
  have hne : fs.get? place ≠ some .directory := by
    rw [hold]
    simpa using hdir
  rw [FileSystem.get?_removeTree fs hplace]
  by_cases hq : q = place
  · rw [hq, if_pos List.prefix_rfl, if_pos rfl]
  · rw [if_neg hq]
    split
    · rename_i hpre
      exact (h.get?_of_prefix hpre hne hq).symm
    · rfl

theorem IsTree.removeTree {fs : FileSystem} (h : fs.IsTree) {place : Place} {old : Node}
    (hold : fs.get? place = some old) (hdir : old ≠ .directory) : (fs.removeTree place).IsTree := by
  intro q node hq hnode
  rw [h.get?_removeTree hold hdir] at hnode ⊢
  split at hnode
  · cases hnode
  · have habove := h.get?_dropLast hnode hq
    rw [if_neg]
    · exact habove
    · intro heq
      rw [heq, hold] at habove
      exact hdir (Option.some.inj habove)

/-! ## Section 3: Keeping directories and links -/

/-- The second system has all directories of the first, and its links. -/
structure Keeps (fs fs' : FileSystem) : Prop where
  directory : ∀ place, fs.get? place = some .directory → fs'.get? place = some .directory
  link_iff : ∀ place target,
    fs'.get? place = some (.link target) ↔ fs.get? place = some (.link target)

theorem Keeps.refl (fs : FileSystem) : fs.Keeps fs :=
  ⟨fun _ h => h, fun _ _ => Iff.rfl⟩

/-- Where nothing or a leaf stood, something that is no link may stand. -/
theorem Keeps.put {fs : FileSystem} {place : Place} {new : Node} (hplace : place ≠ [])
    (hold : ∀ old, fs.get? place = some old → old.IsLeaf) (hnew : ∀ target, new ≠ .link target) :
    fs.Keeps (fs.put place new) := by
  constructor
  · intro q hq
    rw [get?_put fs hplace]
    split
    · rename_i heq
      exact absurd rfl (hold _ (heq ▸ hq)).ne_directory
    · exact hq
  · intro q target
    rw [get?_put fs hplace]
    split
    · rename_i heq
      constructor
      · intro hlink
        exact absurd (Option.some.inj hlink) (hnew target)
      · intro hlink
        exact absurd rfl ((hold _ (heq ▸ hlink)).ne_link target)
    · exact Iff.rfl

/-! ## Section 4: The same shape -/

/-- The systems have the same directories, links and leaves. -/
def SameShape (fs fs' : FileSystem) : Prop :=
  ∀ place, (fs'.get? place).map Node.shape = (fs.get? place).map Node.shape

section

variable {fs fs' : FileSystem} {place : Place}

/-- What stands at a place of the other system has the shape of what stands
    there. -/
theorem SameShape.exists_shape (h : fs.SameShape fs') {node : Node}
    (hnode : fs.get? place = some node) :
    ∃ node', fs'.get? place = some node' ∧ node'.shape = node.shape := by
  have hshape := h place
  rw [hnode, Option.map_some, Option.map_eq_some_iff] at hshape
  exact hshape

theorem SameShape.none (h : fs.SameShape fs') (hnone : fs.get? place = none) :
    fs'.get? place = none := by
  have hshape := h place
  rw [hnone, Option.map_none, Option.map_eq_none_iff] at hshape
  exact hshape

theorem SameShape.directory (h : fs.SameShape fs') (hdir : fs.get? place = some .directory) :
    fs'.get? place = some .directory := by
  obtain ⟨node, hnode, hshape⟩ := h.exists_shape hdir
  rw [hnode]
  cases node with
  | directory => rfl
  | _ => cases hshape

theorem SameShape.link (h : fs.SameShape fs') {target : String}
    (hlink : fs.get? place = some (.link target)) : fs'.get? place = some (.link target) := by
  obtain ⟨node, hnode, hshape⟩ := h.exists_shape hlink
  rw [hnode]
  cases node with
  | link other => exact congrArg some hshape
  | _ => cases hshape

theorem SameShape.leaf (h : fs.SameShape fs') {node : Node} (hnode : fs.get? place = some node)
    (hleaf : node.IsLeaf) : ∃ node', fs'.get? place = some node' ∧ node'.IsLeaf := by
  obtain ⟨node', hnode', hshape⟩ := h.exists_shape hnode
  rw [hleaf.shape_eq] at hshape
  refine ⟨node', hnode', ?_, ?_⟩
  · rintro rfl
    cases hshape
  · rintro target rfl
    cases hshape

end

theorem SameShape.put {fs : FileSystem} {place : Place} {old new : Node}
    (hold : fs.get? place = some old) (hleaf : old.IsLeaf) (hnew : new.IsLeaf) :
    fs.SameShape (fs.put place new) := by
  intro q
  rw [get?_put fs (ne_root_of_leaf hold hleaf)]
  split
  · rename_i heq
    rw [heq, hold]
    simp [hleaf.shape_eq, hnew.shape_eq]
  · rfl

end FileSystem

end DenoBridge
