import DenoBridge.Session
import DenoBridge.Proofs.Path.Containment
import DenoBridge.Proofs.Url.Key

/-! # Where modules are cached

    The cache root is a normal path whatever it was read from, so the file of
    a module comes from pushing `deps` and the names of its key onto the names
    of the root (`normalize_cachedFile`).  A climb among these names takes away
    the scheme and nothing else: the file stays among the dependencies
    (`resolved_inside_dependencies`), but with a host of dots only it does not
    keep its three names, and two keys can share a file
    (`resolved_names_and_collisions`).
-/

namespace DenoBridge

/-! ## Section 1: The places above -/

theorem Cache.isNormal_root (settings : Settings) (env : Environment) (platform : Platform) :
    (Cache.root settings env platform).IsNormal := by
  unfold Cache.root
  split
  · exact Path.isNormal_normalForm _
  · split
    · exact Path.isNormal_normalForm _
    · exact Path.isNormal_normalForm _

theorem Path.isName_deps : Path.IsName "deps" :=
  ⟨by decide, by decide, by decide⟩

theorem Cache.dependencies_eq (root : Path) :
    Cache.dependencies root = ⟨root.anchor, root.names ++ ["deps"]⟩ :=
  Path.child_of_isName root Path.isName_deps

/-- Names put behind `deps` do not touch the names of the root. -/
theorem normalize_below_dependencies {root : Path} (h : root.IsNormal) {names : List String}
    (hnames : ∀ name ∈ names, Path.IsName name) :
    Path.normalize ⟨root.anchor, root.names ++ "deps" :: names⟩ =
      ⟨root.anchor,
        (names.foldl (Path.push root.anchor) ("deps" :: root.raise.names.reverse)).reverse⟩ := by
  have hall : ∀ name ∈ "deps" :: names, Path.IsName name := by
    intro name hname
    rcases List.mem_cons.1 hname with rfl | hname
    · exact Path.isName_deps
    · exact hnames name hname
  have hdrive : ∀ first ∈ ("deps" :: names).head?, Path.raiseName first = first := by
    intro first hfirst
    obtain rfl : "deps" = first := by simpa using hfirst
    decide
  rw [Path.normalize_append h hall hdrive, List.foldl_cons]
  rfl

theorem normalize_dependencies {root : Path} (h : root.IsNormal) :
    (Cache.dependencies root).normalize = ⟨root.anchor, root.raise.names ++ ["deps"]⟩ := by
  have hnone : ∀ name ∈ ([] : List String), Path.IsName name := by simp
  rw [Cache.dependencies_eq, normalize_below_dependencies h hnone]
  simp

/-! ## Section 2: The place of a key -/

namespace Url.Key

/-- The names of a key that are left below the dependencies in normal form: a
    host `.` vanishes and a host `..` takes the scheme with it. -/
def placed (key : Key) : List String :=
  if key.host = ".." then [key.contentHash] else key.names

theorem IsPlaceable.foldl_push {key : Key} (h : key.IsPlaceable) (anchor : Anchor)
    (stack : List String) :
    key.names.foldl (Path.push anchor) stack = key.placed.reverse ++ stack := by
  have hscheme := h.scheme_ne_dotDot
  have hhash := h.contentHash_ne_dotDot
  unfold placed
  split
  · -- The climb of the host meets the scheme, which is no climb itself.
    rename_i hhost
    simp [names, hhost, Path.push, hscheme, hhash]
  · rename_i hhost
    refine Path.foldl_push_ordinary anchor ?_ stack
    unfold names
    split <;> simp [Ne.symm hscheme, Ne.symm hhash, Ne.symm hhost]

/-- Only a host of one or two dots changes the three names of a key. -/
theorem placed_eq_iff (key : Key) :
    key.placed = [key.scheme, key.host, key.contentHash] ↔ key.host ≠ "." ∧ key.host ≠ ".." := by
  unfold placed names
  by_cases hup : key.host = ".."
  · simp [hup]
  · by_cases hdot : key.host = "." <;> simp [hup, hdot]

/-- Two keys are left with the same names only when they are the same, or when
    both schemes were taken away. -/
theorem placed_inj {k₁ k₂ : Key} : k₁.placed = k₂.placed ↔
    k₁ = k₂ ∨ k₁.host = ".." ∧ k₂.host = ".." ∧ k₁.contentHash = k₂.contentHash := by
  obtain ⟨scheme₁, host₁, hash₁⟩ := k₁
  obtain ⟨scheme₂, host₂, hash₂⟩ := k₂
  simp only [placed, names, Key.mk.injEq]
  by_cases hup₁ : host₁ = ".."
  · by_cases hup₂ : host₂ = ".."
    · subst hup₁ hup₂
      simp +contextual
    · by_cases hdot₂ : host₂ = "." <;> simp [hup₁, hup₂, hdot₂, Ne.symm hup₂]
  · by_cases hup₂ : host₂ = ".."
    · by_cases hdot₁ : host₁ = "." <;> simp [hup₁, hup₂, hdot₁]
    · by_cases hdot₁ : host₁ = "."
      · by_cases hdot₂ : host₂ = "."
        · simp [hdot₁, hdot₂]
        · simp [hdot₁, hdot₂, hup₂, Ne.symm hdot₂]
      · by_cases hdot₂ : host₂ = "." <;> simp [hdot₁, hdot₂, hup₁, hup₂]

end Url.Key

/-! ## Section 3: A host of dots -/

/-- The parts of a URL whose host is two dots. -/
def Url.Parts.dotted (scheme : String) : Url.Parts :=
  ⟨scheme.toList, "..".toList, "/x".toList, [], []⟩

theorem Url.keyOf_dotted_https : Url.keyOf "https://../x" = .ok (Url.Parts.dotted "https").key :=
  Url.keyOf_of_parts rfl (by decide)

theorem Url.keyOf_dotted_http : Url.keyOf "http://../x" = .ok (Url.Parts.dotted "http").key :=
  Url.keyOf_of_parts rfl (by decide)

/-- A session whose cache root is pinned to `/r`. -/
def Session.pinned : Session :=
  ⟨{ Settings.default with cacheRootOverride := some ⟨.root, ["r"]⟩ }, none, .linux⟩

/-- A machine without files, whose children do nothing. -/
def Machine.idle : Machine :=
  ⟨⟨[]⟩, .empty, [], fun _ files => (⟨[], [], .exited 0⟩, files), 1, []⟩

/-! ## Section 4: Files of modules -/

namespace Session

theorem cacheRoot_of_override {s : Session} {root : Path} (h : s.settings.cacheRootOverride = some root)
    (m : Machine) : s.cacheRoot m = root.normalize := by
  rw [cacheRoot, Cache.root, h]

theorem isNormal_cacheRoot (s : Session) (m : Machine) : (s.cacheRoot m).IsNormal :=
  Cache.isNormal_root _ _ _

theorem cachedFile_of_keyOf (s : Session) (m : Machine) {url : String} {key : Url.Key}
    (h : Url.keyOf url = .ok key) :
    s.cachedFile m url = .ok ⟨(s.cacheRoot m).anchor,
      (s.cacheRoot m).names ++ "deps" :: key.names⟩ := by
  have hpath := (Url.isPlaceable_of_keyOf h).path_eq
  rw [cachedFile, h]
  show Except.ok ((s.dependencyRoot m).join key.path) = _
  rw [hpath, dependencyRoot, Cache.dependencies_eq]
  simp [Path.join, Path.isAbsolute]

theorem isProper_file (s : Session) (m : Machine) {key : Url.Key} (h : key.IsPlaceable) :
    Path.IsProper ⟨(s.cacheRoot m).anchor, (s.cacheRoot m).names ++ "deps" :: key.names⟩ := by
  intro name hname
  rcases List.mem_append.1 hname with hname | hname
  · exact (s.isNormal_cacheRoot m).proper name hname
  · rcases List.mem_cons.1 hname with rfl | hname
    · exact Path.isName_deps
    · exact h.isName name hname

/-- In normal form the file of a module stands below the dependencies under
    the names that are left of its key. -/
theorem normalize_cachedFile (s : Session) (m : Machine) {url : String} {key : Url.Key}
    {file : Path} (h : Url.keyOf url = .ok key) (hfile : s.cachedFile m url = .ok file) :
    file.normalize = ⟨(s.dependencyRoot m).normalize.anchor,
      (s.dependencyRoot m).normalize.names ++ key.placed⟩ := by
  have hroot := s.isNormal_cacheRoot m
  have hkey := Url.isPlaceable_of_keyOf h
  rw [s.cachedFile_of_keyOf m h] at hfile
  obtain rfl := Except.ok.inj hfile
  rw [normalize_below_dependencies hroot hkey.isName, hkey.foldl_push, dependencyRoot,
    normalize_dependencies hroot]
  simp

/-- No scheme, host or path in a URL leads out of the dependencies: the file
    of a module is among them and in the cache. -/
theorem resolved_inside_dependencies (s : Session) (m : Machine) {url : String} {key : Url.Key}
    (h : Url.keyOf url = .ok key) : ∃ file, s.cachedFile m url = .ok file ∧
      s.isInCache m (some file.text) = .ok true ∧
      isWithin (some file.text) (some (s.dependencyRoot m).text) = .ok true := by
  have hroot := s.isNormal_cacheRoot m
  have hfile := s.cachedFile_of_keyOf m h
  have hplace := s.normalize_cachedFile m h hfile
  have hproper := s.isProper_file m (Url.isPlaceable_of_keyOf h)
  have hdeps : (s.dependencyRoot m).normalize =
      ⟨(s.cacheRoot m).anchor, (s.cacheRoot m).raise.names ++ ["deps"]⟩ :=
    normalize_dependencies hroot
  refine ⟨_, hfile, ?_, ?_⟩
  · rw [isInCache, Path.isWithin_text hproper hroot.proper, hplace, hdeps,
      Path.normalize_of_isNormal hroot]
    have hanchor := (Path.anchor_raise (s.cacheRoot m)).symm
    exact congrArg Except.ok
      (Path.isAtOrBelow_iff.2 ⟨hanchor, ⟨"deps" :: key.placed, by simp⟩⟩)
  · have hproperDeps : (s.dependencyRoot m).IsProper := hroot.proper.child "deps"
    rw [Path.isWithin_text hproper hproperDeps, hplace]
    exact congrArg Except.ok (Path.isAtOrBelow_iff.2 ⟨rfl, key.placed, rfl⟩)

theorem climbing_host_inside_dependencies :
    Url.keyOf "https://../x" = .ok (Url.Parts.dotted "https").key ∧
      ∃ file, pinned.cachedFile .idle "https://../x" = .ok file ∧
        pinned.isInCache .idle (some file.text) = .ok true ∧
        isWithin (some file.text) (some (pinned.dependencyRoot .idle).text) = .ok true :=
  ⟨Url.keyOf_dotted_https, resolved_inside_dependencies pinned .idle Url.keyOf_dotted_https⟩

/-- Exactly with a host of one or two dots the file of a module does not keep
    scheme, host and digest as its names below the dependencies; two keys share
    a file exactly when both hosts are two dots and the digests agree. -/
theorem resolved_names_and_collisions (s : Session) (m : Machine) {url₁ url₂ : String}
    {key₁ key₂ : Url.Key} {file₁ file₂ : Path} (h₁ : Url.keyOf url₁ = .ok key₁)
    (h₂ : Url.keyOf url₂ = .ok key₂) (hfile₁ : s.cachedFile m url₁ = .ok file₁)
    (hfile₂ : s.cachedFile m url₂ = .ok file₂) :
    (file₁.normalize = ⟨(s.dependencyRoot m).normalize.anchor,
        (s.dependencyRoot m).normalize.names ++ [key₁.scheme, key₁.host, key₁.contentHash]⟩ ↔
      key₁.host ≠ "." ∧ key₁.host ≠ "..") ∧
    (file₁.normalize = file₂.normalize ↔
      key₁ = key₂ ∨ key₁.host = ".." ∧ key₂.host = ".." ∧ key₁.contentHash = key₂.contentHash) := by
  rw [s.normalize_cachedFile m h₁ hfile₁, s.normalize_cachedFile m h₂ hfile₂]
  simp only [Path.mk.injEq, true_and, List.append_cancel_left_eq]
  exact ⟨Url.Key.placed_eq_iff key₁, Url.Key.placed_inj⟩

theorem dotted_hosts_names_and_collisions : ∃ file₁ file₂,
    pinned.cachedFile .idle "https://../x" = .ok file₁ ∧
      pinned.cachedFile .idle "http://../x" = .ok file₂ ∧
      file₁.normalize ≠ ⟨(pinned.dependencyRoot .idle).normalize.anchor,
        (pinned.dependencyRoot .idle).normalize.names ++
          ["https", "..", (Url.Parts.dotted "https").key.contentHash]⟩ ∧
      file₁.normalize = file₂.normalize := by
  have hfile₁ := pinned.cachedFile_of_keyOf .idle Url.keyOf_dotted_https
  have hfile₂ := pinned.cachedFile_of_keyOf .idle Url.keyOf_dotted_http
  obtain ⟨hnames, hcollide⟩ := resolved_names_and_collisions pinned .idle
    Url.keyOf_dotted_https Url.keyOf_dotted_http hfile₁ hfile₂
  refine ⟨_, _, hfile₁, hfile₂, ?_, hcollide.2 (.inr ⟨by decide, by decide, rfl⟩)⟩
  intro hkept
  exact absurd rfl (hnames.1 hkept).2

/-- Two modules of different schemes that share one file. -/
theorem dotted_hosts_share_a_file :
    Url.keyOf "https://../x" = .ok (Url.Parts.dotted "https").key ∧
      Url.keyOf "http://../x" = .ok (Url.Parts.dotted "http").key ∧
      (Url.Parts.dotted "https").key ≠ (Url.Parts.dotted "http").key ∧
      ∃ file₁ file₂, pinned.cachedFile .idle "https://../x" = .ok file₁ ∧
        pinned.cachedFile .idle "http://../x" = .ok file₂ ∧
        file₁.normalize = file₂.normalize := by
  have hfile₁ := pinned.cachedFile_of_keyOf .idle Url.keyOf_dotted_https
  have hfile₂ := pinned.cachedFile_of_keyOf .idle Url.keyOf_dotted_http
  refine ⟨Url.keyOf_dotted_https, Url.keyOf_dotted_http, ?_, _, _, hfile₁, hfile₂, ?_⟩
  · intro hkeys
    exact absurd (congrArg Url.Key.scheme hkeys) (by decide)
  · rw [pinned.normalize_cachedFile .idle Url.keyOf_dotted_https hfile₁,
      pinned.normalize_cachedFile .idle Url.keyOf_dotted_http hfile₂]
    rfl

end Session

end DenoBridge
