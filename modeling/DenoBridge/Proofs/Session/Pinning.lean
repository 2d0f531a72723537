import DenoBridge.Proofs.Cache.Placement
import DenoBridge.Proofs.Session.Steps
import DenoBridge.Proofs.Toolchain.Targets

/-! # Pinned cache roots

    A cache root is pinned by its text.  What is stored is the normal form of
    the text, and what is read is the normal form of what is stored.  In any
    run without another change of the override the places of the cache follow
    that one root (`rooted_of_pinned`), and it is the normal form of the text
    unless this still begins with the lower-case letter of a drive
    (`pinned_root_in_every_run`): a drive that shows up only when the text is
    collapsed is not raised before the second reading
    (`uncovered_drive_not_kept`).
-/

namespace DenoBridge.Session

variable {s pinned : Session} {m : Machine} {text : String}

/-! ## Section 1: Places at one root -/

/-- The cache root is this path, and the places of the cache are right below
    it. -/
structure IsRootedAt (s : Session) (m : Machine) (root : Path) : Prop where
  cacheRoot : s.cacheRoot m = root
  dependencies : (s.dependencyRoot m).parent = root
  declarations : ∀ unstable, (s.declarationFileFor m unstable).parent = root

theorem parent_dependencies (root : Path) : (Cache.dependencies root).parent = root := by
  simp [Cache.dependencies_eq, Path.parent]

/-- The places follow the root, whatever it is. -/
theorem isRootedAt_iff {root : Path} : s.IsRootedAt m root ↔ s.cacheRoot m = root := by
  constructor
  · intro h
    exact h.cacheRoot
  · rintro rfl
    refine ⟨rfl, ?_, ?_⟩
    · exact parent_dependencies (s.cacheRoot m)
    · intro unstable
      exact Cache.parent_declarationFile (s.cacheRoot m) unstable

/-! ## Section 2: Pinning -/

/-- A text that is not empty can always be pinned. -/
theorem setCacheRoot_of_ne_empty (s : Session) (h : text ≠ "") :
    ∃ pinned, s.setCacheRoot (some text) = .ok pinned ∧
      pinned.settings.cacheRootOverride = some (Path.normalForm text) := by
  let root := Path.normalForm text
  refine ⟨{ s with settings := { s.settings with cacheRootOverride := some root } }, ?_, rfl⟩
  rw [setCacheRoot, Path.normalize?_of_ne_empty h]
  rfl

/-- Wherever a run leads, the root is what the pinned path reads as. -/
theorem rooted_of_pinned {scene : Scene}
    (hpinned : pinned.settings.cacheRootOverride = some (Path.normalForm text))
    (hrun : Scene.Runs Scene.LeavesOverride ⟨pinned, m⟩ scene) :
    scene.session.IsRootedAt scene.machine (Path.normalForm text).raise := by
  have hoverride : scene.session.settings.cacheRootOverride = some (Path.normalForm text) := by
    rw [hrun.override_eq]
    exact hpinned
  apply isRootedAt_iff.2
  rw [cacheRoot_of_override hoverride, Path.normalize_normalForm]

/-- A text that is not empty can be pinned, and from then on, in every run
    without another successful change of the override, the cache has one root:
    the normal form of the text with its drive letter raised.  It is the normal
    form itself exactly when that does not begin with the lower-case letter of
    a drive. -/
theorem pinned_root_in_every_run (s : Session) (m : Machine) (h : text ≠ "") :
    ∃ pinned, s.setCacheRoot (some text) = .ok pinned ∧ ∀ scene,
      Scene.Runs Scene.LeavesOverride ⟨pinned, m⟩ scene →
        scene.session.IsRootedAt scene.machine (Path.normalForm text).raise ∧
        (scene.session.IsRootedAt scene.machine (Path.normalForm text) ↔
          ¬ (Path.normalForm text).HasLowerDrive) := by
  obtain ⟨pinned, hset, hpinned⟩ := s.setCacheRoot_of_ne_empty h
  refine ⟨pinned, hset, fun scene hrun => ?_⟩
  have hrooted := rooted_of_pinned hpinned hrun
  refine ⟨hrooted, ?_⟩
  rw [isRootedAt_iff, hrooted.cacheRoot]
  exact Path.raise_eq_self_iff (Path.isNormal_normalForm text).proper

/-! ## Section 3: A drive that collapsing uncovers -/

/-- A session with the default settings. -/
def plain : Session :=
  ⟨Settings.default, none, .linux⟩

/-- The session after the text `./c:\\x` was pinned. -/
def uncovered : Session :=
  ⟨{ Settings.default with cacheRootOverride := some ⟨.relative, ["c:\\x"]⟩ }, none, .linux⟩

theorem setCacheRoot_uncovered : plain.setCacheRoot (some "./c:\\x") = .ok uncovered := by
  rw [setCacheRoot, Path.normalize?_of_ne_empty (by decide)]
  rfl

theorem hasLowerDrive_uncovered : (Path.normalForm "./c:\\x").HasLowerDrive :=
  ⟨'c', ['x'], by decide, by decide⟩

/-- A root that is asked for in vain, another value of a variable and another
    mode, after which the cache is not at the normal form of the text. -/
theorem uncovered_drive_in_a_run : "./c:\\x" ≠ "" ∧
    plain.setCacheRoot (some "./c:\\x") = .ok uncovered ∧ ∃ scene : Scene,
      Scene.Runs Scene.LeavesOverride ⟨uncovered, .idle⟩ scene ∧
        scene.session.settings.unstable = true ∧
        scene.session.IsRootedAt scene.machine ⟨.relative, ["C:\\x"]⟩ ∧
        ¬ scene.session.IsRootedAt scene.machine (Path.normalForm "./c:\\x") := by
  obtain ⟨pinned, hset, hruns⟩ :=
    pinned_root_in_every_run plain .idle (show "./c:\\x" ≠ "" by decide)
  -- Three steps: a refused root, a variable, and the other mode.
  obtain rfl : uncovered = pinned := Except.ok.inj (setCacheRoot_uncovered.symm.trans hset)
  have hvain : Scene.LeavesOverride ⟨uncovered, .idle⟩ (.setCacheRoot none) := by
    rintro ⟨session, habsurd⟩
    cases habsurd
  have hmode (scene : Scene) :
      scene.LeavesOverride (.assign (.toField .unstable (.bool true))) := by
    rintro ⟨habsurd, -⟩
    exact absurd habsurd (by decide)
  have hstart : Scene.Runs Scene.LeavesOverride ⟨uncovered, .idle⟩ _ := .start
  have hrun := ((hstart.step _ hvain).step (.setVariable "DENO_DIR" (some "/d")) id).step _ (hmode _)
  obtain ⟨hrooted, hiff⟩ := hruns _ hrun
  exact ⟨by decide, hset, _, hrun, rfl, hrooted, fun hkept => hiff.1 hkept hasLowerDrive_uncovered⟩

/-- The pinned root is not the normal form of the text that was pinned. -/
theorem uncovered_drive_not_kept : ∃ pinned, plain.setCacheRoot (some "./c:\\x") = .ok pinned ∧
    pinned.cacheRoot .idle ≠ Path.normalForm "./c:\\x" := by
  refine ⟨uncovered, setCacheRoot_uncovered, ?_⟩
  rw [cacheRoot_of_override rfl]
  decide

end DenoBridge.Session
