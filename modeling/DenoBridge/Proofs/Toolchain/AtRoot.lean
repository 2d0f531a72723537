import DenoBridge.Proofs.Cache.Placement
import DenoBridge.Proofs.Files.Putting
import DenoBridge.Proofs.Toolchain.Outcomes
import DenoBridge.Proofs.Toolchain.Probing
import DenoBridge.Proofs.Toolchain.Upkeep

/-! # A toolchain beside its cache

    The machines on which runs of passes are shown are seen from the root,
    with the toolchain, the null device and the cache there (`IsAtRoot`).
    Whatever the toolchain is asked, it prints a report, so that every pass
    gets the same declarations; a pass and a touch put one node and leave the
    machine as it should be (`IsAtRoot.pass`, `IsAtRoot.put`).
-/

namespace DenoBridge.Session

open FileSystem Declarations Toolchain
open Cache (declarationName)

variable {m : Machine} {unstable : Bool} {outcome : Outcome} {fs : FileSystem} {mode : Nat}
variable {old content : Bytes}

/-! ## Section 1: Files at the root -/

theorem isNormal_root : Path.IsNormal ⟨.root, []⟩ :=
  ⟨by simp [Path.IsProper], .ordinary (by simp)⟩

theorem isTree_empty : FileSystem.IsTree ⟨[]⟩ := by
  intro place node hplace hnode
  have hnone : FileSystem.get? ⟨[]⟩ place = none := by simp [FileSystem.get?, hplace]
  rw [hnone] at hnode
  cases hnode

theorem not_isTooLong_at_root (unstable : Bool) :
    ¬ IsTooLong (Cache.declarationFile ⟨.root, []⟩ unstable) := by
  cases unstable <;> decide

/-- Where neither file stands at the root, all is ready for a cache there. -/
theorem isReady_of_none (htree : fs.IsTree)
    (hnone : ∀ unstable, fs.get? [declarationName unstable] = none) :
    IsReady [] ⟨.root, []⟩ fs := by
  have hreach : fs.reach true [] ⟨.root, []⟩ = .ok [] := walk_nil
  have habsent (unstable : Bool) : fs.IsAbsent [] (Cache.declarationFile ⟨.root, []⟩ unstable) :=
    .inr ⟨_, locate_new isNormal_root (not_isTooLong_at_root unstable) hreach rfl
      (hnone unstable) false, hnone unstable⟩
  refine ⟨htree, rfl, by decide, fun unstable => .inl (habsent unstable), ?_, ?_⟩
  · intro _ _
    exact ⟨_, ensureDirectories_of_directory htree rfl isNormal_root.proper (by decide)
      (by decide) hreach rfl⟩
  · intro unstable place node node' hfind
    rw [(habsent unstable).find_eq
      (Cache.isProper_declarationFile isNormal_root.proper unstable)] at hfind
    cases hfind

theorem isReady_empty : IsReady [] ⟨.root, []⟩ ⟨[]⟩ :=
  isReady_of_none isTree_empty fun _ => rfl

/-- The place of a declaration file at the root. -/
theorem locate_in_root (fs : FileSystem) (here : Place) (unstable : Bool)
    (hnolink : ∀ target, fs.get? [declarationName unstable] ≠ some (.link target)) :
    fs.locate here (Cache.declarationFile ⟨.root, []⟩ unstable).text true =
      .ok [declarationName unstable] := by
  have hreach : fs.reach true here ⟨.root, []⟩ = .ok [] := walk_nil
  refine locate_of_reach (Cache.isProper_declarationFile isNormal_root.proper unstable)
    (not_isTooLong_at_root unstable) ?_
  rw [Cache.declarationFile_eq]
  exact reach_child_follow (Cache.isPlain_declarationName unstable) hreach rfl hnolink

theorem find_in_root (here : Place) {node : Node}
    (hnode : fs.get? [declarationName unstable] = some node)
    (hnolink : ∀ target, node ≠ .link target) :
    fs.find here (Cache.declarationFile ⟨.root, []⟩ unstable).text =
      .ok ([declarationName unstable], node) := by
  refine find_eq_ok.2 ⟨locate_in_root fs here unstable ?_, hnode⟩
  intro target habsurd
  exact hnolink target (Option.some.inj (hnode.symm.trans habsurd))

/-! ## Section 2: The toolchain -/

/-- The versions that the program prints, whatever it is asked. -/
def printedText : String :=
  "\x7b\"deno\":\"1\",\"v8\":\"1\",\"typescript\":\"1\"\x7d"

/-- What the program prints. -/
def printed : ChildResult :=
  ⟨Utf8.encodeString printedText, [], .exited 0⟩

theorem decodeText_printed : Machine.decodeText printed.output = .ok printedText := by
  decide +kernel

theorem printed_ne_nil : printed.output ≠ [] := by
  intro hempty
  have htext := decodeText_printed.symm.trans (Machine.decodeText_eq_empty_iff.2 hempty)
  exact absurd (Except.ok.inj htext) (by decide)

/-- A session with its cache at the root, and a toolchain beside it. -/
def besideRoot : Session :=
  ⟨{ namedDeno with cacheRootOverride := some ⟨.root, []⟩ }, none, .linux⟩

theorem cacheRoot_besideRoot (m : Machine) : besideRoot.cacheRoot m = ⟨.root, []⟩ := by
  rw [cacheRoot_of_override rfl]
  decide

theorem declarationFileFor_besideRoot (m : Machine) (unstable : Bool) :
    besideRoot.declarationFileFor m unstable = Cache.declarationFile ⟨.root, []⟩ unstable := by
  rw [declarationFileFor, cacheRoot_besideRoot]

theorem typeDeclarations_besideRoot (hserves : m.Serves printed) (hnesting : m.nesting = 1)
    (unstable : Bool) :
    typeDeclarations besideRoot.settings unstable m = (.ok (some printed.output), m) := by
  have hparse : VersionReport.parse m.nesting printedText =
      .ok (some (.ofStrings "1" "1" "1")) := by
    rw [hnesting]
    decide +kernel
  cases unstable with
  | false =>
    have harguments : typeArguments false (some (.ofStrings "1" "1" "1")) = .ok ["types"] := rfl
    exact typeDeclarations_of_serves hserves rfl rfl rfl decodeText_printed hparse harguments
      (by decide)
  | true =>
    have harguments : typeArguments true (some (.ofStrings "1" "1" "1")) =
        .ok ["types", "--unstable"] := by
      decide +kernel
    exact typeDeclarations_of_serves hserves rfl rfl rfl decodeText_printed hparse harguments
      (by decide)

/-! ## Section 3: Machines -/

/-- A machine that is seen from the root and has the program and the null device
    at their places. -/
structure IsAtRoot (m : Machine) : Prop where
  directory : m.directory = []
  tree : m.files.IsTree
  tool : m.files.get? ["deno"] = some (.tool .cat)
  devices : m.files.get? ["dev"] = some .directory
  null : m.files.get? nullPlace = some (.sink nullMode)
  nesting : m.nesting = 1
  child : ∀ launch fs, m.child launch fs = (printed, fs)

theorem IsAtRoot.isRooted (h : IsAtRoot m) : m.files.IsRooted m.directory := by
  rw [h.directory]
  exact ⟨h.tree, rfl⟩

theorem IsAtRoot.answer (h : IsAtRoot m) (unstable : Bool) :
    typeDeclarations besideRoot.settings unstable m = (.ok (some printed.output), m) :=
  typeDeclarations_besideRoot (Machine.serves_of_tool h.tool h.devices h.null h.child) h.nesting
    unstable

/-- Another node in the place of a declaration file. -/
theorem IsAtRoot.put (h : IsAtRoot m) (unstable : Bool) {node : Node}
    (htree : (m.files.put [declarationName unstable] node).IsTree) :
    IsAtRoot { m with files := m.files.put [declarationName unstable] node } := by
  have hkept {place : Place} (hne : place ≠ [declarationName unstable]) :
      (m.files.put [declarationName unstable] node).get? place = m.files.get? place :=
    get?_put_of_ne m.files (by simp) _ hne
  refine ⟨h.directory, htree, ?_, ?_, ?_, h.nesting, h.child⟩
  · exact (hkept (by cases unstable <;> decide)).trans h.tool
  · exact (hkept (by cases unstable <;> decide)).trans h.devices
  · exact (hkept (by cases unstable <;> decide)).trans h.null

/-- A pass that puts one node leaves the rest as it is. -/
theorem IsAtRoot.pass (h : IsAtRoot m) (unstable : Bool) {node : Node}
    (htree : (m.files.put [declarationName unstable] node).IsTree)
    (hrun : (refresh (access m.directory) (Cache.declarationFile ⟨.root, []⟩ unstable)
      printed.output).run m.files = (.ok outcome, m.files.put [declarationName unstable] node)) :
    ∃ after, besideRoot.synchronize (some unstable) m = (.ok outcome, after) ∧
      after.files = m.files.put [declarationName unstable] node ∧ IsAtRoot after := by
  rw [← declarationFileFor_besideRoot m] at hrun
  obtain ⟨after, hpass, hfiles, hage⟩ := synchronize_present (h.answer unstable) hrun
  obtain ⟨hdirectory, htree', htool, hdevices, hnull, hnesting, hchild⟩ := h.put unstable htree
  refine ⟨after, hpass, hfiles, hage.directory_eq.trans hdirectory, ?_, ?_, ?_, ?_, ?_, ?_⟩
  · rwa [hfiles]
  · rwa [hfiles]
  · rwa [hfiles]
  · rwa [hfiles]
  · rwa [hage.nesting_eq]
  · rwa [hage.child_eq]

/-- A missing file is made. -/
theorem IsAtRoot.pass_missing (h : IsAtRoot m) (unstable : Bool)
    (hnone : m.files.get? [declarationName unstable] = none) :
    ∃ after, besideRoot.synchronize (some unstable) m = (.ok .created, after) ∧
      after.files = m.files.put [declarationName unstable] (.file readOnlyMode printed.output) ∧
      IsAtRoot after := by
  have hloc := locate_in_root m.files m.directory unstable (by simp [hnone])
  have hmake : (ensureDirectories m.directory ⟨.root, []⟩).run m.files = (.ok (), m.files) :=
    ensureDirectories_of_directory h.tree h.isRooted.current isNormal_root.proper (by decide)
      (by decide) walk_nil rfl
  refine h.pass unstable (h.tree.put_new hnone rfl _) ?_
  refine run_refresh_missing ?_ (hasEntry_of_noEntry (find_of_none hloc hnone)) ?_ hloc hnone
  · rw [Cache.isUnusable_declarationFile]
    decide
  · rw [Cache.parent_declarationFile]
    exact hmake

/-- Another content is replaced. -/
theorem IsAtRoot.pass_different (h : IsAtRoot m) (unstable : Bool)
    (hnode : m.files.get? [declarationName unstable] = some (.file mode old))
    (hne : old ≠ printed.output) :
    ∃ after, besideRoot.synchronize (some unstable) m = (.ok .updated, after) ∧
      after.files = m.files.put [declarationName unstable] (.file readOnlyMode printed.output) ∧
      IsAtRoot after := by
  refine h.pass unstable (h.tree.put_leaf hnode (Node.isLeaf_file mode old)) ?_
  refine run_refresh_different ?_ (find_in_root m.directory hnode (by simp)) hne
  rw [Cache.isUnusable_declarationFile]
  decide

/-- The same content is protected again where it can be written. -/
theorem IsAtRoot.pass_writable (h : IsAtRoot m) (unstable : Bool)
    (hnode : m.files.get? [declarationName unstable] = some (.file mode printed.output))
    (hmode : mode &&& writeBits ≠ 0) :
    ∃ after, besideRoot.synchronize (some unstable) m = (.ok .unchanged, after) ∧
      after.files = m.files.put [declarationName unstable] (.file readOnlyMode printed.output) ∧
      IsAtRoot after := by
  refine h.pass unstable (h.tree.put_leaf hnode (Node.isLeaf_file mode printed.output)) ?_
  rw [run_refresh_same ?_ (find_in_root m.directory hnode (by simp)), if_pos hmode]
  rw [Cache.isUnusable_declarationFile]
  decide

/-- The machine after something was done to a declaration file from outside. -/
def touched (unstable : Bool) (touch : Touch) (m : Machine) : Machine :=
  { m with files := touch.apply m.directory (besideRoot.declarationFileFor m unstable) m.files }

/-- What an edit or other permissions leave of a declaration file. -/
def touchedNode (mode : Nat) (content : Bytes) : Touch → Option Node
  | .edit bytes => some (.file mode bytes)
  | .chmod bits => some (.file bits content)
  | .delete => none

/-- A touch that leaves a file puts one node, too. -/
theorem IsAtRoot.touch (h : IsAtRoot m) (unstable : Bool)
    (hnode : m.files.get? [declarationName unstable] = some (.file mode content)) {touch : Touch}
    {node : Node} (htouch : touchedNode mode content touch = some node) :
    (touched unstable touch m).files = m.files.put [declarationName unstable] node ∧
      IsAtRoot (touched unstable touch m) := by
  have hfind := find_in_root m.directory hnode (by simp)
  have htree : (m.files.put [declarationName unstable] node).IsTree :=
    h.tree.put_leaf hnode (Node.isLeaf_file mode content)
  have hfiles : touch.apply m.directory (besideRoot.declarationFileFor m unstable) m.files =
      m.files.put [declarationName unstable] node := by
    rw [declarationFileFor_besideRoot]
    unfold Touch.apply
    cases touch with
    | edit bytes =>
      obtain rfl := Option.some.inj htouch
      dsimp only
      rw [write_of_find hfind]
      rfl
    | chmod bits =>
      obtain rfl := Option.some.inj htouch
      dsimp only
      rw [chmod_of_find hfind]
      rfl
    | delete => cases htouch
  refine ⟨hfiles, ?_⟩
  unfold touched
  rw [hfiles]
  exact h.put unstable htree

/-- A machine with the program and the null device, and nothing else. -/
def serving : Machine :=
  .single ⟨[]⟩ printed

theorem isAtRoot_serving : IsAtRoot serving := by
  have hdevices : (FileSystem.put ⟨[]⟩ ["dev"] .directory).IsTree :=
    isTree_empty.put_new rfl rfl _
  have hnull : FileSystem.IsTree ⟨Machine.nullNodes⟩ :=
    hdevices.put_new (show FileSystem.get? _ nullPlace = none from rfl) rfl (.sink nullMode)
  have htree : serving.files.IsTree :=
    hnull.put_new (show FileSystem.get? _ ["deno"] = none from rfl) rfl (.tool .cat)
  exact ⟨rfl, htree, rfl, rfl, rfl, rfl, fun _ _ => rfl⟩

end DenoBridge.Session
