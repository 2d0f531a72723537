import DenoBridge.Proofs.Cache.Placement
import DenoBridge.Proofs.Session.Steps
import DenoBridge.Proofs.Settings.Assigning
import DenoBridge.Proofs.Toolchain.Targets

/-! # What the cache root is read from

    The root is read from the first source that is present: an override, a
    variable that the settings name, or the platform with the variables that
    count there (`Sources.Speaks`).  Settings can be built, read from the
    environment, changed field by field and pinned in any order, and their
    override stays a path that has a text (`Settings.IsReachable.proper`).  So
    reading the first source never fails, the root is in normal form as a path
    and as a text, and sources further down do not count
    (`Sources.root_of_first_source`).
-/

namespace DenoBridge

/-! ## Section 1: Settings that can come about -/

namespace Settings

variable {s s' : Settings} {field : Field} {value : Json} {name : String}

/-- The settings that can come about. -/
inductive IsReachable : Settings → Prop where
  /-- Settings are built from values. -/
  | built {values : Values} {s : Settings} : ofValues values = .ok s → IsReachable s
  /-- The environment and overrides give settings. -/
  | read {env : Environment} {overrides : Values} {s : Settings} :
      fromOverrides env overrides = .ok s → IsReachable s
  /-- A value is assigned to a field. -/
  | assigned {s s' : Settings} {a : Assignment} : IsReachable s →
      s.assign a = .ok s' → IsReachable s'
  /-- A root is pinned by its text. -/
  | pinned {s : Settings} {text : Option String} {root : Path} : IsReachable s →
      normalize? text = .ok root → IsReachable { s with cacheRootOverride := some root }
  /-- A path, not the text of one, is put in place, as the command line does. -/
  | placed {s : Settings} {root : Path} : IsReachable s → root.IsProper →
      IsReachable { s with cacheRootOverride := some root }

/-- However settings came about, their override has a text. -/
theorem IsReachable.proper (h : s.IsReachable) : s.IsProper := by
  induction h with
  | built hbuilt => exact lasts_isProper.ofValues hbuilt
  | read hread => exact lasts_isProper.fromOverrides hread
  | assigned _ hassign ih => exact lasts_isProper.assign ih hassign
  | @pinned s text root _ hroot ih =>
    intro found hfound
    obtain rfl : root = found := by simpa using hfound
    unfold normalize? at hroot
    split at hroot
    · cases hroot
    · cases hroot
    · obtain rfl := Except.ok.inj hroot
      exact (Path.isNormal_normalForm _).proper
  | @placed s root _ hproper ih =>
    intro found hfound
    obtain rfl : root = found := by simpa using hfound
    exact hproper

end Settings

/-! ## Section 2: Texts in normal form -/

namespace Path

/-- A text in which nothing is left to collapse: a single dot, or slashes and
    names of which only leading ones climb; and it does not end in a slash
    unless it is slashes only. -/
structure IsNormalText (text : String) : Prop where
  shape : text = "." ∨ text ≠ "" ∧ ∃ anchor names, text = anchor.text ++ joinNames names ∧
    (∀ name ∈ names, IsName name) ∧ Climbs anchor names
  trailing : text.toList.getLast? = some '/' → text = "/" ∨ text = "//"

/-- The text of names ends as the last name does. -/
theorem getLast?_joinPieces_ne_slash {names : List String} (h : ∀ name ∈ names, IsName name) :
    (Text.joinPieces ['/'] (names.map String.toList)).getLast? ≠ some '/' := by
  induction names with
  | nil => simp [Text.joinPieces]
  | cons first rest ih =>
    have hfirst := h first List.mem_cons_self
    have hrest := ih fun name hname => h name (List.mem_cons_of_mem _ hname)
    cases rest with
    | nil =>
      intro hlast
      exact hfirst.slash_not_mem (List.mem_of_getLast? (by simpa [Text.joinPieces] using hlast))
    | cons next more =>
      -- What is joined after the first name is not empty, so it has the last character.
      have hne : Text.joinPieces ['/'] ((next :: more).map String.toList) ≠ [] :=
        joinPieces_ne_nil (List.cons_ne_nil next more) fun name hname =>
          h name (List.mem_cons_of_mem _ hname)
      rw [List.map_cons, Text.joinPieces_cons (by simp)]
      rw [List.getLast?_append_of_ne_nil _ hne]
      exact hrest

theorem text_of_names (anchor : Anchor) {names : List String} (h : names ≠ []) :
    text ⟨anchor, names⟩ = anchor.text ++ joinNames names := by
  cases names with
  | nil => exact absurd rfl h
  | cons first rest => cases anchor <;> rfl

theorem IsNormal.isNormalText {path : Path} (h : path.IsNormal) : IsNormalText path.text := by
  obtain ⟨anchor, names⟩ := path
  have hne := text_ne_empty _ h.proper
  by_cases hnames : names = []
  · -- Without names the text is a dot or the slashes of a bare root.
    subst hnames
    cases anchor with
    | relative => exact ⟨.inl rfl, by decide⟩
    | root => exact ⟨.inr ⟨hne, .root, [], by decide, h.proper, h.climbs⟩, fun _ => .inl rfl⟩
    | doubleRoot =>
      exact ⟨.inr ⟨hne, .doubleRoot, [], by decide, h.proper, h.climbs⟩, fun _ => .inr rfl⟩
  · have htext := text_of_names anchor hnames
    refine ⟨.inr ⟨hne, anchor, names, htext, h.proper, h.climbs⟩, ?_⟩
    intro hlast
    have hjoined := joinPieces_ne_nil hnames h.proper
    rw [htext, String.toList_append, joinNames, String.toList_ofList,
      List.getLast?_append_of_ne_nil _ hjoined] at hlast
    exact absurd hlast (getLast?_joinPieces_ne_slash h.proper)

end Path

/-! ## Section 3: Sources -/

namespace Cache

/-- All that the cache root may be read from: settings, an environment and the
    name of a platform. -/
structure Sources where
  settings : Settings
  environment : Environment
  platform : String

namespace Sources

variable {here there : Sources} {text : String}

/-- The cache root. -/
def root (here : Sources) : Path :=
  Cache.root here.settings here.environment (Platform.ofName here.platform)

/-- The settings have this override. -/
def Pins (here : Sources) (root : Path) : Prop :=
  here.settings.cacheRootOverride = some root

/-- There is no override, and the variable that the settings name holds this
    text, which is not empty. -/
def Names (here : Sources) (text : String) : Prop :=
  here.settings.cacheRootOverride = none ∧
    here.environment.get? here.settings.rootVariable = some text ∧ text ≠ ""

/-- A variable is unset or empty. -/
def Lacks (env : Environment) (name : String) : Prop :=
  ∀ text, env.get? name = some text → text = ""

/-- There is no override, and the variable that the settings name is unset or
    empty. -/
def IsSilent (here : Sources) : Prop :=
  here.settings.cacheRootOverride = none ∧ Lacks here.environment here.settings.rootVariable

/-- What the platform of this name and its variables give. -/
inductive Defaults (env : Environment) : String → String → Prop where
  | windows : Defaults env "win32" (env.getD "LOCALAPPDATA" ++ "\\deno")
  | mac : Defaults env "darwin" (env.getD "HOME" ++ "/Library/Caches/deno")
  | linuxCache {kind cache : String} : env.get? "XDG_CACHE_HOME" = some cache → cache ≠ "" →
      Defaults env ("linux" ++ kind) (cache ++ "/deno")
  | linuxHome {kind : String} : Lacks env "XDG_CACHE_HOME" →
      Defaults env ("linux" ++ kind) (env.getD "HOME" ++ "/.cache/deno")
  | other {name : String} : name ≠ "win32" → name ≠ "darwin" → (∀ kind, name ≠ "linux" ++ kind) →
      Defaults env name (env.getD "HOME" ++ "/.deno")

/-- The first source that is present gives this text for the root. -/
inductive Speaks (here : Sources) : String → Prop where
  | pinned {root : Path} : here.Pins root → Speaks here root.text
  | named {text : String} : here.Names text → Speaks here text
  | standard {text : String} : here.IsSilent → Defaults here.environment here.platform text →
      Speaks here (Path.ofString text).text

/-- The variables that count on the platform of this name are the same in two
    environments. -/
inductive SameDefaults (env env' : Environment) : String → Prop where
  | windows : env.getD "LOCALAPPDATA" = env'.getD "LOCALAPPDATA" → SameDefaults env env' "win32"
  | mac : env.getD "HOME" = env'.getD "HOME" → SameDefaults env env' "darwin"
  | linuxCache {kind cache : String} : cache ≠ "" → env.get? "XDG_CACHE_HOME" = some cache →
      env'.get? "XDG_CACHE_HOME" = some cache → SameDefaults env env' ("linux" ++ kind)
  | linuxHome {kind : String} : Lacks env "XDG_CACHE_HOME" → Lacks env' "XDG_CACHE_HOME" →
      env.getD "HOME" = env'.getD "HOME" → SameDefaults env env' ("linux" ++ kind)
  | other {name : String} : name ≠ "win32" → name ≠ "darwin" → (∀ kind, name ≠ "linux" ++ kind) →
      env.getD "HOME" = env'.getD "HOME" → SameDefaults env env' name

/-- Two sources agree on the first one that is present; what comes further
    down can differ. -/
inductive Agree (here there : Sources) : Prop where
  | pinned {root : Path} : here.Pins root → there.Pins root → Agree here there
  | named {text : String} : here.Names text → there.Names text → Agree here there
  | standard : here.IsSilent → there.IsSilent → there.platform = here.platform →
      SameDefaults here.environment there.environment here.platform → Agree here there

/-! ## Section 4: The first source decides -/

theorem nonEmpty?_of_lacks {env : Environment} {name : String} (h : Lacks env name) :
    env.nonEmpty? name = none := by
  unfold Environment.nonEmpty?
  cases hget : env.get? name with
  | none => rfl
  | some text =>
    obtain rfl := h text hget
    rfl

theorem nonEmpty?_of_get? {env : Environment} {name : String} (h : env.get? name = some text)
    (hne : text ≠ "") : env.nonEmpty? name = some text := by
  simp [Environment.nonEmpty?, h, hne]

theorem ofName_linux (kind : String) : Platform.ofName ("linux" ++ kind) = .linux := by
  have hwindows : "linux" ++ kind ≠ "win32" := by
    intro h
    have hchars := congrArg String.toList h
    simp [String.toList_append] at hchars
  have hmac : "linux" ++ kind ≠ "darwin" := by
    intro h
    have hchars := congrArg String.toList h
    simp [String.toList_append] at hchars
  have hlinux : "linux".toList.isPrefixOf ("linux" ++ kind).toList = true := by
    rw [String.toList_append]
    exact List.isPrefixOf_iff_prefix.2 (List.prefix_append _ _)
  rw [Platform.ofName, if_neg hwindows, if_neg hmac, if_pos hlinux]

theorem ofName_other {name : String} (hwindows : name ≠ "win32") (hmac : name ≠ "darwin")
    (hlinux : ∀ kind, name ≠ "linux" ++ kind) : Platform.ofName name = .other := by
  have hprefix : ¬ "linux".toList.isPrefixOf name.toList = true := by
    intro h
    obtain ⟨rest, hrest⟩ := List.isPrefixOf_iff_prefix.1 h
    apply hlinux (String.ofList rest)
    rw [String.ext_iff, ← hrest]
    simp
  rw [Platform.ofName, if_neg hwindows, if_neg hmac, if_neg hprefix]

/-- What platforms and their variables give is the text of the default root. -/
theorem Defaults.text_eq {env : Environment} {name : String} (h : Defaults env name text) :
    (Platform.ofName name).defaultRootText env = text := by
  cases h with
  | windows => rfl
  | mac => rfl
  | linuxCache hcache hne =>
    rw [ofName_linux, Platform.defaultRootText, nonEmpty?_of_get? hcache hne]
  | linuxHome hcache =>
    rw [ofName_linux, Platform.defaultRootText, nonEmpty?_of_lacks hcache]
  | other hwindows hmac hlinux =>
    rw [ofName_other hwindows hmac hlinux, Platform.defaultRootText]

/-- Every platform has a default, whatever variables are set. -/
theorem exists_defaults (env : Environment) (name : String) : ∃ text, Defaults env name text := by
  by_cases hwindows : name = "win32"
  · subst hwindows
    exact ⟨_, .windows⟩
  by_cases hmac : name = "darwin"
  · subst hmac
    exact ⟨_, .mac⟩
  by_cases hlinux : ∃ kind, name = "linux" ++ kind
  · obtain ⟨kind, rfl⟩ := hlinux
    by_cases hcache : Lacks env "XDG_CACHE_HOME"
    · exact ⟨_, .linuxHome hcache⟩
    · simp only [Lacks, not_forall] at hcache
      obtain ⟨cache, hget, hne⟩ := hcache
      exact ⟨_, .linuxCache hget hne⟩
  · exact ⟨_, .other hwindows hmac (not_exists.1 hlinux)⟩

theorem exists_speaks (here : Sources) : ∃ text, here.Speaks text := by
  cases hoverride : here.settings.cacheRootOverride with
  | some root => exact ⟨_, .pinned hoverride⟩
  | none =>
    by_cases hvariable : Lacks here.environment here.settings.rootVariable
    · obtain ⟨text, htext⟩ := exists_defaults here.environment here.platform
      exact ⟨_, .standard ⟨hoverride, hvariable⟩ htext⟩
    · simp only [Lacks, not_forall] at hvariable
      obtain ⟨text, hget, hne⟩ := hvariable
      exact ⟨text, .named ⟨hoverride, hget, hne⟩⟩

/-- The root is the normal form of what the first source says. -/
theorem Speaks.root_eq (h : here.Speaks text) : here.root = Path.normalForm text := by
  cases h with
  | pinned hpins =>
    rw [Sources.root, Cache.root, hpins]
    rfl
  | named hnames =>
    obtain ⟨hnone, hget, hne⟩ := hnames
    rw [Sources.root, Cache.root, hnone]
    simp only [nonEmpty?_of_get? hget hne]
  | standard hsilent hdefaults =>
    obtain ⟨hnone, hlacks⟩ := hsilent
    rw [Sources.root, Cache.root, hnone]
    simp only [nonEmpty?_of_lacks hlacks]
    rw [Platform.defaultRoot, hdefaults.text_eq, Path.normalize]

/-- What the first source says is never empty: an override has a text, an
    empty variable is no source, and the text of a path is not empty. -/
theorem Speaks.ne_empty (hsettings : here.settings.IsReachable) (h : here.Speaks text) :
    text ≠ "" := by
  cases h with
  | @pinned root hpins => exact Path.text_ne_empty root (hsettings.proper root hpins)
  | named hnames => exact hnames.2.2
  | standard hsilent hdefaults => exact Path.text_ne_empty _ (Path.isProper_ofString _)

/-! ## Section 5: Sources further down -/

/-- Where the variables that count are the same, a text is given by both. -/
theorem SameDefaults.exists_both {env env' : Environment} {name : String}
    (h : SameDefaults env env' name) : ∃ text, Defaults env name text ∧ Defaults env' name text := by
  cases h with
  | windows hdata => exact ⟨_, .windows, hdata ▸ .windows⟩
  | mac hhome => exact ⟨_, .mac, hhome ▸ .mac⟩
  | linuxCache hne hcache hcache' => exact ⟨_, .linuxCache hcache hne, .linuxCache hcache' hne⟩
  | linuxHome hlacks hlacks' hhome => exact ⟨_, .linuxHome hlacks, hhome ▸ .linuxHome hlacks'⟩
  | other hwindows hmac hlinux hhome =>
    exact ⟨_, .other hwindows hmac hlinux, hhome ▸ .other hwindows hmac hlinux⟩

theorem Agree.exists_both (h : Agree here there) : ∃ text, here.Speaks text ∧ there.Speaks text := by
  cases h with
  | pinned hhere hthere => exact ⟨_, .pinned hhere, .pinned hthere⟩
  | named hhere hthere => exact ⟨_, .named hhere, .named hthere⟩
  | standard hhere hthere hplatform hsame =>
    obtain ⟨text, hdefaults, hdefaults'⟩ := hsame.exists_both
    exact ⟨_, .standard hhere hdefaults, .standard hthere (hplatform ▸ hdefaults')⟩

/-- What stands behind the first source does not count. -/
theorem Agree.root_eq (h : Agree here there) : there.root = here.root := by
  obtain ⟨text, hhere, hthere⟩ := h.exists_both
  rw [hthere.root_eq, hhere.root_eq]

/-- However settings came about, and in every environment and on every
    platform: some source is present, and reading the first one never fails; the
    root is in normal form, as a path and as a text, and the same wherever the
    first source is; the dependencies and the declarations stand one name below
    it. -/
theorem root_of_first_source (here : Sources) (h : here.settings.IsReachable) :
    (∃ text, here.Speaks text) ∧
    (∀ text, here.Speaks text → normalize? (some text) = .ok here.root) ∧
    here.root.IsNormal ∧ Path.IsNormalText here.root.text ∧
    (∀ there, Agree here there → there.root = here.root) ∧
    dependencies here.root = ⟨here.root.anchor, here.root.names ++ ["deps"]⟩ ∧
    declarationFile here.root false = ⟨here.root.anchor, here.root.names ++ ["lib.deno.d.ts"]⟩ ∧
    declarationFile here.root true =
      ⟨here.root.anchor, here.root.names ++ ["lib.deno.unstable.d.ts"]⟩ := by
  have hnormal : here.root.IsNormal := isNormal_root _ _ _
  refine ⟨here.exists_speaks, ?_, hnormal, hnormal.isNormalText, ?_, dependencies_eq _,
    declarationFile_eq _ _, declarationFile_eq _ _⟩
  · intro text hspeaks
    rw [hspeaks.root_eq]
    exact Path.normalize?_of_ne_empty (hspeaks.ne_empty h)
  · intro there hagree
    exact hagree.root_eq

/-- Settings to whose override the empty text was assigned, in a place where
    all other sources would speak too. -/
def emptied : Sources :=
  ⟨{ Settings.default with cacheRootOverride := some ⟨.relative, []⟩ },
    ⟨[("DENO_DIR", "/d"), ("HOME", "/h"), ("XDG_CACHE_HOME", "/x")]⟩, "linux2"⟩

theorem isReachable_emptied : emptied.settings.IsReachable := by
  have hbuilt : Settings.ofValues [] = .ok Settings.default := rfl
  have hassigned : Settings.default.assign (.toField .cacheRootOverride (.string [])) =
      .ok emptied.settings := rfl
  exact .assigned (.built hbuilt) hassigned

/-- An empty override is the place itself, and no other source takes over. -/
theorem root_of_empty_override : emptied.settings.IsReachable ∧
    (∃ text, emptied.Speaks text) ∧ normalize? (some ".") = .ok emptied.root ∧
    ∀ there : Sources, there.Pins ⟨.relative, []⟩ → there.root = ⟨.relative, []⟩ := by
  obtain ⟨hspeaks, hread, -, -, hagree, -⟩ := root_of_first_source emptied isReachable_emptied
  have hpins : emptied.Pins ⟨.relative, []⟩ := rfl
  have hroot : emptied.root = ⟨.relative, []⟩ := by decide
  refine ⟨isReachable_emptied, hspeaks, hread "." (.pinned hpins), fun there hthere => ?_⟩
  rw [hagree there (.pinned hpins hthere), hroot]

end Sources

end Cache

end DenoBridge
