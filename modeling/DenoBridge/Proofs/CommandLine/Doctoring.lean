import DenoBridge.Proofs.CommandLine.Formatting
import DenoBridge.Proofs.Session.Pinning
import DenoBridge.Proofs.Terminal.Markup

/-! # What the checks of the environment end with

    The checks are healthy exactly when the executable is found, a version is
    obtained and the reported root is the computed one (`isHealthy_iff`).  But
    the table of the checks is written before the command exits, and what is
    told of a check is read as markup then.  So the command exits only when the
    declaration files can be looked at, every detail reads as markup where the
    table has room, and no half of a pair is shown (`doctor_exits_iff`); a path
    with a closing tag in it is enough to make the command fail
    (`tag_in_root_not_shown`).
-/

namespace DenoBridge

open Terminal

/-! ## Section 1: Checks -/

namespace Doctor

variable {s : Session} {m : Machine} {report : Option VersionReport} {checks : List Check}
  {path : Path} {check : Check}

/-- The root that the toolchain reports once it was asked for its version. -/
def reported (s : Session) (m : Machine) : Option Path :=
  (Toolchain.reportedRoot s.settings (Toolchain.version s.settings m).2).1

/-- The toolchain is found, tells its version and agrees on the cache root. -/
structure IsUsable (s : Session) (m : Machine) : Prop where
  found : ∃ path, s.executable m = some path
  version : ∃ report, (Toolchain.version s.settings m).1 = .ok (some report)
  root : reported s m = some (s.cacheRoot m)

theorem name_of_checkDeclarations (h : checkDeclarations m path = .ok check) :
    check.name = path.name := by
  unfold checkDeclarations at h
  split at h
  · obtain rfl := Except.ok.inj h
    rfl
  · split at h
    · cases h
    · obtain rfl := Except.ok.inj h
      rfl

/-- Whether declaration files are there is not required. -/
theorem isRequired_of_checkDeclarations {root : Path} {unstable : Bool}
    (h : checkDeclarations m (Cache.declarationFile root unstable) = .ok check) :
    isRequired check = false := by
  have hname : check.name = Cache.declarationName unstable := by
    rw [name_of_checkDeclarations h, Cache.declarationFile_eq, Path.name]
    simp
  unfold isRequired
  rw [hname]
  cases unstable <;> decide

theorem isHealthy_cons (check : Check) (rest : List Check) :
    isHealthy (check :: rest) = ((!isRequired check || check.passed) && isHealthy rest) := by
  unfold isHealthy
  by_cases hrequired : isRequired check = true
  · rw [List.filter_cons_of_pos hrequired, List.all_cons, hrequired]
    rfl
  · rw [List.filter_cons_of_neg hrequired]
    simp [hrequired]

theorem isHealthy_of_not_isRequired (h : ∀ check ∈ checks, isRequired check = false) :
    isHealthy checks = true := by
  induction checks with
  | nil => rfl
  | cons check rest ih =>
    rw [isHealthy_cons, h check List.mem_cons_self,
      ih fun other hother => h other (List.mem_cons_of_mem _ hother)]
    rfl

theorem passed_checkVersion (report : Option VersionReport) :
    (checkVersion report).passed = report.isSome := by
  cases report <;> rfl

theorem passed_checkRoot (computed : Path) (reported : Option Path) :
    (checkRoot computed reported).passed = true ↔ reported = some computed := by
  unfold checkRoot
  cases reported with
  | none => simp [Check.ofString]
  | some root => by_cases hroot : root = computed <;> simp [Check.ofString, hroot]

theorem isRequired_checkRoot (computed : Path) (reported : Option Path) :
    isRequired (checkRoot computed reported) = true := by
  have hname : (checkRoot computed reported).name = "Reported root" := by
    unfold checkRoot
    split
    · rfl
    · split <;> rfl
  unfold isRequired
  rw [hname]
  decide

/-- The machine on which declaration files are looked for: the toolchain was
    asked twice. -/
def asked (s : Session) (m : Machine) : Machine :=
  (Toolchain.reportedRoot s.settings (Toolchain.version s.settings m).2).2

/-- Once the version is known the checks are made one after the other. -/
theorem checks_eq (hversion : (Toolchain.version s.settings m).1 = .ok report) :
    (Doctor.checks s m).1 = ([false, true].mapM fun unstable =>
        checkDeclarations (asked s m) (s.declarationFileFor (asked s m) unstable)).map
      ([checkExecutable (s.executable m), checkVersion report,
        .ofString "Cache root" true (s.cacheRoot m).text,
        checkRoot (s.cacheRoot m) (reported s m)] ++ ·) := by
  have hroot : s.cacheRoot (Toolchain.version s.settings m).2 = s.cacheRoot m := by
    unfold Session.cacheRoot
    rw [(Toolchain.aged_version s.settings m).environment_eq]
  have hpair : Toolchain.version s.settings m = (.ok report, (Toolchain.version s.settings m).2) :=
    Prod.ext hversion rfl
  unfold Doctor.checks
  rw [hpair]
  dsimp only
  rw [hroot]
  rfl

theorem isHealthy_iff (hversion : (Toolchain.version s.settings m).1 = .ok report)
    (hchecks : (Doctor.checks s m).1 = .ok checks) : isHealthy checks = true ↔ IsUsable s m := by
  rw [checks_eq hversion] at hchecks
  obtain ⟨declarations, hdeclarations, rfl⟩ := exists_of_map_ok hchecks
  -- Only the checks that come before those of the declaration files count.
  have hoptional : isHealthy declarations = true := by
    apply isHealthy_of_not_isRequired
    intro check hcheck
    obtain ⟨unstable, -, hdeclared⟩ := of_mem_mapM hdeclarations check hcheck
    exact isRequired_of_checkDeclarations hdeclared
  have hroot := passed_checkRoot (s.cacheRoot m) (reported s m)
  have hrequired := isRequired_checkRoot (s.cacheRoot m) (reported s m)
  have hexecutable : isRequired (checkExecutable (s.executable m)) = true := rfl
  have hreport : isRequired (checkVersion report) = true := by cases report <;> rfl
  have hcomputed : isRequired (.ofString "Cache root" true (s.cacheRoot m).text) = false := rfl
  simp only [List.cons_append, List.nil_append, isHealthy_cons, hoptional, hexecutable, hreport,
    hcomputed, hrequired, Bool.not_true, Bool.false_or, Bool.not_false, Bool.true_or,
    Bool.true_and, Bool.and_true, Bool.and_eq_true, hroot]
  constructor
  · rintro ⟨hfound, hknown, hreported⟩
    obtain ⟨found, rfl⟩ := Option.isSome_iff_exists.1 ((passed_checkVersion report).symm.trans hknown)
    exact ⟨Option.isSome_iff_exists.1 hfound, ⟨found, hversion⟩, hreported⟩
  · rintro ⟨hfound, ⟨found, hknown⟩, hreported⟩
    obtain rfl : report = some found := Except.ok.inj (hversion.symm.trans hknown)
    exact ⟨Option.isSome_iff_exists.2 hfound, rfl, hreported⟩

/-! ## Section 2: The table -/

theorem exists_row_iff {emoji : Bool} : (∃ cells, row emoji check = .ok cells) ↔
    Markup.IsMarkup emoji (Glyph.stringOf check.detail).toList := by
  unfold row Markup.IsMarkup
  exact exists_bind_pure_iff

/-- There is a table when all that it has room for reads as markup. -/
theorem exists_table_iff {emoji : Bool} {room : Nat} :
    (∃ shown, table emoji room checks = .ok shown) ↔ (Table.hasRoom columns room = true →
      ∀ check ∈ checks, Markup.IsMarkup emoji (Glyph.stringOf check.detail).toList) := by
  unfold table
  by_cases hroom : Table.hasRoom columns room = true
  · rw [if_pos hroom, exists_bind_pure_iff, exists_mapM_iff]
    simp only [hroom, true_implies, exists_row_iff]
  · rw [if_neg hroom]
    exact ⟨fun _ habsurd => absurd habsurd hroom, fun _ => ⟨_, rfl⟩⟩

/-- The table can be written on a screen: no half in the details is shown. -/
def HidesHalves (screen : Screen) (checks : List Check) (shown : Table) : Prop :=
  Halves.shown? (checks.map (·.detail)) (screen.display (shown.lines screen.columns)) = none

theorem hidesHalves_of_strings {screen : Screen} {shown : Table}
    (h : ∀ check ∈ checks, ∃ text, check.detail = Glyph.ofString text) :
    HidesHalves screen checks shown := by
  have hnone : (checks.map (·.detail)).any Glyph.holdsHalf = false := by
    rw [List.any_eq_false]
    intro detail hdetail
    obtain ⟨check, hcheck, rfl⟩ := List.mem_map.1 hdetail
    obtain ⟨text, htext⟩ := h check hcheck
    rw [htext, Glyph.holdsHalf_ofString]
    exact Bool.false_ne_true
  unfold HidesHalves Halves.shown?
  rw [hnone, if_neg Bool.false_ne_true]

/-- The title above the table reads as markup. -/
theorem isMarkup_title (emoji : Bool) : Markup.IsMarkup emoji title.toList := by
  have htokens : Markup.tokens title.toList =
      [.tag 0 ⟨"bold cyan".toList, none⟩, .text "denokit Doctor".toList,
        .tag 25 ⟨"/bold cyan".toList, none⟩] := by
    have hopening : Markup.tagAfter? "bold cyan]denokit Doctor[/bold cyan]".toList =
        some ("bold cyan".toList, "denokit Doctor[/bold cyan]".toList) := rfl
    have hclosing : Markup.tagAfter? "/bold cyan]".toList = some ("/bold cyan".toList, []) := rfl
    have htext : "denokit Doctor[/bold cyan]".toList =
        "denokit Doctor".toList ++ '[' :: "/bold cyan]".toList := rfl
    show Markup.tokensAfter 0 [] 0 ('[' :: "bold cyan]denokit Doctor[/bold cyan]".toList) = _
    rw [Markup.tokensAfter_tag hopening, htext, Markup.tokensAfter_append (by decide) (by decide),
      Markup.tokensAfter_tag hclosing, Markup.tokensAfter_of_not_mem (by decide)]
    rfl
  unfold Markup.IsMarkup Markup.read
  rw [htokens]
  cases emoji with
  | false => exact ⟨_, rfl⟩
  | true => exact ⟨_, rfl⟩

end Doctor

namespace CommandLine

variable {m : Machine} {d : Desk} {line : List String} {root : Option String} {emoji : Bool}
  {s : Session} {report : Option VersionReport}

/-! ## Section 3: The command -/

/-- The checks are made, and there is a table of them that can be written on the
    screen. -/
def IsShown (result : Except Doctor.Failure (List Doctor.Check)) (emoji : Bool) (screen : Screen)
    (checks : List Doctor.Check) : Prop :=
  result = .ok checks ∧ ∃ shown, Doctor.table emoji screen.columns checks = .ok shown ∧
    Doctor.HidesHalves screen checks shown

/-- How the command ends: with the table, or with a failure. -/
def EndsShown (result : Except Doctor.Failure (List Doctor.Check)) (emoji : Bool) (screen : Screen)
    (stop : Stop Failure) : Prop :=
  (∃ checks, IsShown result emoji screen checks ∧
    stop = .exit (if Doctor.isHealthy checks then 0 else 1)) ∨
  (¬ ∃ checks, IsShown result emoji screen checks) ∧ ∃ failure, stop = .failed failure

theorem exists_rule (columns : Nat) (emoji : Bool) :
    ∃ line, Heading.rule columns emoji Doctor.title = .ok line := by
  unfold Heading.rule
  obtain ⟨styled, hread⟩ := Doctor.isMarkup_title emoji
  rw [hread]
  split
  · exact ⟨_, rfl⟩
  · exact ⟨_, rfl⟩

theorem ensures_rule (d : Desk) (screen : Screen) (emoji : Bool) :
    d.Ensures (Desk.rule Failure.display screen emoji Doctor.title) (fun _ d' => Written d d')
      (fun _ _ => False) := by
  obtain ⟨line, hline⟩ := exists_rule screen.columns emoji
  unfold Desk.rule
  rw [hline]
  refine Desk.ensures_bind (M := fun _ d' => d = d') (Desk.ensures_pure rfl) ?_
  rintro _ _ rfl
  exact Desk.ensures_change ⟨rfl, rfl⟩

/-- What the command does with the checks, whatever they are. -/
theorem ensures_shown (d : Desk) (screen : Screen) (emoji : Bool)
    (checksOn : Machine → Except Doctor.Failure (List Doctor.Check) × Machine) :
    d.Ensures (do
        match ← Desk.run checksOn with
        | .error (.excess e) => Desk.fail (.excess e)
        | .error (.os e) => Desk.fail (.file (.os e))
        | .ok checks =>
          let table ← Desk.orFail (.display ∘ .markup) (Doctor.table emoji screen.columns checks)
          Desk.writeShown .display (checks.map (·.detail))
            (screen.display (table.lines screen.columns))
          Desk.exit (if Doctor.isHealthy checks then 0 else 1) : Work Failure Unit)
      (fun _ _ => False)
      (fun stop _ => EndsShown (checksOn d.machine).1 emoji screen stop) := by
  refine Desk.ensures_bind (M := fun answer _ => (checksOn d.machine).1 = answer)
    (Desk.ensures_run rfl) ?_
  rintro answer d' rfl
  match (checksOn d.machine).1 with
  | .error (.excess e) =>
    refine Desk.ensures_fail (.inr ⟨?_, _, rfl⟩)
    rintro ⟨checks, habsurd, -⟩
    cases habsurd
  | .error (.os e) =>
    refine Desk.ensures_fail (.inr ⟨?_, _, rfl⟩)
    rintro ⟨checks, habsurd, -⟩
    cases habsurd
  | .ok checks =>
    dsimp only
    refine Desk.ensures_bind (M := fun shown _ =>
      Doctor.table emoji screen.columns checks = .ok shown) ?_ ?_
    · refine Desk.ensures_orFail (fun shown hshown => hshown) ?_
      intro fault hfault
      refine .inr ⟨?_, _, rfl⟩
      rintro ⟨_, ⟨⟩, shown, habsurd, -⟩
      rw [hfault] at habsurd
      cases habsurd
    · intro shown d'' hshown
      refine Desk.ensures_bind (M := fun _ _ => Doctor.HidesHalves screen checks shown) ?_ ?_
      · refine Desk.ensures_writeShown (fun hhides => hhides) fun halves hhalves => .inr ⟨?_, _, rfl⟩
        rintro ⟨_, ⟨⟩, shown', hshown', habsurd⟩
        obtain rfl := Except.ok.inj (hshown'.symm.trans hshown)
        cases hhalves.symm.trans habsurd
      · intro _ _ hhides
        exact Desk.ensures_exit (.inl ⟨checks, ⟨rfl, shown, hshown, hhides⟩, rfl⟩)

theorem ensures_doctor (h : Opens d.machine root s) (hsizes : HasSizes d.machine.environment)
    (emoji : Bool) :
    d.Ensures (doctor root emoji) (fun _ _ => False) (fun stop _ => ∃ screen,
      d.streams.screen d.machine.environment .output true = .ok screen ∧
        EndsShown (Doctor.checks s d.machine).1 emoji screen stop) := by
  unfold doctor
  refine Desk.ensures_after (ensures_openSession_of_opens d h .output emoji) ?_
  intro opened d' hopened
  rw [← hopened.1, ← hopened.2]
  -- How the checks are made is not looked into here.
  generalize Doctor.checks s = checksOn
  refine Desk.ensures_after (ensures_screen _ hsizes .output none) ?_
  rintro screen _ ⟨rfl, hscreen⟩
  refine Desk.ensures_after (ensures_rule d screen emoji) ?_
  intro _ d'' hwritten
  refine (ensures_shown d'' screen emoji checksOn).mono (fun _ _ habsurd => habsurd) ?_
  intro stop _ hends
  rw [hwritten.machine] at hends
  exact ⟨screen, hscreen, hends⟩

/-! ## Section 4: All environments -/

/-- All that the command shows can be shown: screens have sizes, the checks can
    be made, in a table with room every detail reads as markup, and no half is
    shown. -/
structure CanShow (m : Machine) (streams : Streams) (emoji : Bool) (s : Session) : Prop where
  sizes : HasSizes m.environment
  checks : ∃ checks, (Doctor.checks s m).1 = .ok checks ∧
    ∀ screen, streams.screen m.environment .output true = .ok screen →
      (Table.hasRoom Doctor.columns screen.columns = true →
        ∀ check ∈ checks, Markup.IsMarkup emoji (Glyph.stringOf check.detail).toList) ∧
      ∀ shown, Doctor.table emoji screen.columns checks = .ok shown →
        Doctor.HidesHalves screen checks shown

theorem canShow_iff {streams : Streams} {screen : Screen} (hsizes : HasSizes m.environment)
    (hscreen : streams.screen m.environment .output true = .ok screen) :
    CanShow m streams emoji s ↔ ∃ checks, IsShown (Doctor.checks s m).1 emoji screen checks := by
  constructor
  · rintro ⟨-, checks, hchecks, hdetails⟩
    obtain ⟨hmarkup, hhides⟩ := hdetails screen hscreen
    obtain ⟨shown, hshown⟩ := Doctor.exists_table_iff.2 hmarkup
    exact ⟨checks, hchecks, shown, hshown, hhides shown hshown⟩
  · rintro ⟨checks, hchecks, shown, hshown, hhides⟩
    refine ⟨hsizes, checks, hchecks, fun screen' hscreen' => ?_⟩
    obtain rfl := Except.ok.inj (hscreen.symm.trans hscreen')
    refine ⟨Doctor.exists_table_iff.1 ⟨shown, hshown⟩, fun shown' hshown' => ?_⟩
    obtain rfl := Except.ok.inj (hshown.symm.trans hshown')
    exact hhides

/-- The command ends with the table, or with a failure where there is none. -/
theorem stop_of_doctor (streams : Streams) (input : String)
    (h : Requests m line (.doctor root emoji)) (hopens : Opens m root s) :
    (CanShow m streams emoji s ∧ ∃ checks, (Doctor.checks s m).1 = .ok checks ∧
      (run m streams line input).1.stop = .exit (if Doctor.isHealthy checks then 0 else 1)) ∨
    ¬ CanShow m streams emoji s ∧ ∃ failure, (run m streams line input).1.stop = .failed failure := by
  by_cases hsizes : HasSizes m.environment
  · have hends : ∃ screen, streams.screen m.environment .output true = .ok screen ∧
        EndsShown (Doctor.checks s m).1 emoji screen (run m streams line input).1.stop := by
      refine report_of_requests (P := fun stop _ => ∃ screen,
        streams.screen m.environment .output true = .ok screen ∧
          EndsShown (Doctor.checks s m).1 emoji screen stop) h hsizes ?_
      rintro d rfl rfl -
      exact (ensures_doctor hopens hsizes emoji).mono (fun _ _ habsurd => habsurd.elim)
        fun _ _ hends => hends
    obtain ⟨screen, hscreen, hends⟩ := hends
    rw [canShow_iff hsizes hscreen]
    rcases hends with ⟨checks, hshown, hstop⟩ | ⟨hnone, hfailed⟩
    · exact .inl ⟨⟨checks, hshown⟩, checks, hshown.1, hstop⟩
    · exact .inr ⟨hnone, hfailed⟩
  · obtain ⟨fault, hstop⟩ : ∃ fault,
        (run m streams line input).1.stop = .failed (.display (.size fault)) :=
      stop_of_not_hasSizes h hsizes
    exact .inr ⟨fun hshow => hsizes hshow.sizes, _, hstop⟩

/-- When the toolchain's version can be asked for, the command exits with
    status 0 or 1 exactly when all that it shows can be shown, and otherwise it
    fails.  Status 0 then means that the toolchain is found, tells its version
    and agrees on the cache root.  Details that are strings without an opening
    bracket can always be shown. -/
theorem doctor_exits_iff (streams : Streams) (input : String)
    (h : Requests m line (.doctor root emoji)) (hopens : Opens m root s)
    (hversion : (Toolchain.version s.settings m).1 = .ok report) :
    ((run m streams line input).1.stop = .exit 0 ∨ (run m streams line input).1.stop = .exit 1 ↔
      CanShow m streams emoji s) ∧
    (CanShow m streams emoji s →
      ((run m streams line input).1.stop = .exit 0 ↔ Doctor.IsUsable s m)) ∧
    (¬ CanShow m streams emoji s →
      ∃ failure, (run m streams line input).1.stop = .failed failure) ∧
    (HasSizes m.environment → ∀ checks, (Doctor.checks s m).1 = .ok checks →
      (∀ check ∈ checks, ∃ text, check.detail = Glyph.ofString text ∧ '[' ∉ text.toList) →
        CanShow m streams emoji s) := by
  have hplain : HasSizes m.environment → ∀ checks, (Doctor.checks s m).1 = .ok checks →
      (∀ check ∈ checks, ∃ text, check.detail = Glyph.ofString text ∧ '[' ∉ text.toList) →
        CanShow m streams emoji s := by
    intro hsizes checks hchecks hstrings
    refine ⟨hsizes, checks, hchecks, fun screen _ => ⟨fun _ check hcheck => ?_, fun shown _ => ?_⟩⟩
    · obtain ⟨text, htext, hbracket⟩ := hstrings check hcheck
      rw [htext, Glyph.stringOf_ofString]
      exact Markup.isMarkup_of_not_mem hbracket emoji
    · refine Doctor.hidesHalves_of_strings fun check hcheck => ?_
      obtain ⟨text, htext, -⟩ := hstrings check hcheck
      exact ⟨text, htext⟩
  rcases stop_of_doctor streams input h hopens with
    ⟨hshow, checks, hchecks, hstop⟩ | ⟨hnever, failure, hstop⟩
  · have husable := Doctor.isHealthy_iff hversion hchecks
    refine ⟨⟨fun _ => hshow, fun _ => ?_⟩, fun _ => ?_, fun habsurd => absurd hshow habsurd, hplain⟩
    · rw [hstop]
      by_cases hhealthy : Doctor.isHealthy checks = true <;> simp [hhealthy]
    · rw [hstop, ← husable]
      by_cases hhealthy : Doctor.isHealthy checks = true <;> simp [hhealthy]
  · refine ⟨⟨?_, fun habsurd => absurd habsurd hnever⟩, fun habsurd => absurd habsurd hnever,
      fun _ => ⟨failure, hstop⟩, hplain⟩
    rw [hstop]
    rintro (habsurd | habsurd)
    · cases habsurd
    · cases habsurd

/-! ## Section 5: Roots in a variable -/

/-- A machine without a toolchain, on which a variable names the cache root. -/
def bare (root : String) : Machine :=
  { Machine.idle with environment := ⟨[("PATH", ""), ("DENO_DIR", root)]⟩ }

theorem requests_bare (root : String) : Requests (bare root) ["doctor"] (.doctor none true) :=
  ⟨false, .doctor, [], rfl, rfl⟩

theorem opens_bare (root : String) : Opens (bare root) none Session.plain :=
  ⟨Settings.default, rfl, rfl⟩

theorem version_bare (root : String) :
    (Toolchain.version Session.plain.settings (bare root)).1 = .ok none := rfl

theorem hasSizes_bare (root : String) : HasSizes (bare root).environment :=
  ⟨⟨none, rfl⟩, ⟨none, rfl⟩⟩

/-- In a directory that is missing there are no declaration files. -/
theorem checkDeclarations_bare (unstable : Bool) :
    Doctor.checkDeclarations (Doctor.asked Session.plain (bare "/d"))
        (Cache.declarationFile ⟨.root, ["d"]⟩ unstable) =
      .ok (.ofString (Cache.declarationName unstable) false "missing") := by
  have hfiles : (Doctor.asked Session.plain (bare "/d")).files = ⟨[]⟩ := rfl
  have hroot : Path.ofString "/d" = ⟨.root, ["d"]⟩ := by decide
  have hproper : (Cache.declarationFile ⟨.root, ["d"]⟩ unstable).IsProper :=
    Cache.isProper_declarationFile (hroot ▸ Path.isProper_ofString "/d") unstable
  have hshort : ¬ FileSystem.IsTooLong (Cache.declarationFile ⟨.root, ["d"]⟩ unstable) := by
    cases unstable <;> decide
  have hname : (Cache.declarationFile ⟨.root, ["d"]⟩ unstable).name =
      Cache.declarationName unstable := by
    cases unstable <;> decide
  have hnul : FileSystem.isUnusable (Cache.declarationFile ⟨.root, ["d"]⟩ unstable) = false := by
    cases unstable <;> decide
  have hwalk (names : List String) (hnames : names ≠ []) :
      FileSystem.walk ⟨[]⟩ true FileSystem.linkLimit [] ("d" :: names) = .error .noEntry :=
    FileSystem.walk_none ⟨by decide, by decide, by decide⟩ rfl hnames
  have hmissing : FileSystem.hasFile ⟨[]⟩ (Doctor.asked Session.plain (bare "/d")).directory
      (Cache.declarationFile ⟨.root, ["d"]⟩ unstable).text = .ok false := by
    unfold FileSystem.hasFile FileSystem.find
    rw [FileSystem.locate_text hproper, if_neg hshort, Cache.declarationFile_eq]
    have hreach := hwalk [Cache.declarationName unstable] (List.cons_ne_nil _ _)
    unfold FileSystem.reach
    rw [show FileSystem.start _ ⟨.root, ["d"] ++ [Cache.declarationName unstable]⟩ = [] from rfl,
      List.singleton_append, hreach]
    rfl
  unfold Doctor.checkDeclarations
  rw [hnul, hfiles, hmissing, hname]
  rfl

/-- What the checks tell there. -/
def bareChecks : List Doctor.Check :=
  [.ofString "Executable" false "not on PATH", .ofString "Version" false "unavailable",
    .ofString "Cache root" true "/d",
    .ofString "Reported root" false "deno info produced no cache root",
    .ofString "lib.deno.d.ts" false "missing",
    .ofString "lib.deno.unstable.d.ts" false "missing"]

theorem checks_bare : (Doctor.checks Session.plain (bare "/d")).1 = .ok bareChecks := by
  have hroot : Session.plain.cacheRoot (Doctor.asked Session.plain (bare "/d")) =
      ⟨.root, ["d"]⟩ := by decide
  have hdeclared (unstable : Bool) := checkDeclarations_bare unstable
  rw [Doctor.checks_eq (version_bare "/d")]
  simp only [Session.declarationFileFor, hroot, List.mapM_cons, List.mapM_nil, hdeclared]
  rfl

/-- Without a toolchain the command exits, and with status 1. -/
theorem missing_toolchain_exits : Requests (bare "/d") ["doctor"] (.doctor none true) ∧
    Opens (bare "/d") none Session.plain ∧
    (Toolchain.version Session.plain.settings (bare "/d")).1 = .ok none ∧
    (run (bare "/d") piped ["doctor"] "").1.stop = .exit 1 := by
  obtain ⟨hexits, hzero, -, hplain⟩ :=
    doctor_exits_iff piped "" (requests_bare "/d") (opens_bare "/d") (version_bare "/d")
  have hshow : CanShow (bare "/d") piped true Session.plain := by
    refine hplain (hasSizes_bare "/d") _ checks_bare ?_
    simp only [bareChecks, List.forall_mem_cons, List.not_mem_nil, IsEmpty.forall_iff,
      implies_true, and_true]
    exact ⟨⟨_, rfl, by decide⟩, ⟨_, rfl, by decide⟩, ⟨_, rfl, by decide⟩, ⟨_, rfl, by decide⟩,
      ⟨_, rfl, by decide⟩, ⟨_, rfl, by decide⟩⟩
  refine ⟨requests_bare "/d", opens_bare "/d", version_bare "/d", ?_⟩
  rcases hexits.2 hshow with hstop | hstop
  · obtain ⟨report, hreport⟩ := ((hzero hshow).1 hstop).version
    rw [version_bare] at hreport
    cases hreport
  · exact hstop

/-- A cache root with a closing tag in it is told of by a check, and it does
    not read as markup. -/
theorem not_canShow_tagged : ¬ CanShow (bare "/tmp/a[/b]") piped true Session.plain := by
  rintro ⟨-, checks, hchecks, hdetails⟩
  have hread := (hdetails ⟨80, none, false⟩ rfl).1 (by decide)
    (.ofString "Cache root" true "/tmp/a[/b]")
  rw [Doctor.checks_eq (version_bare "/tmp/a[/b]")] at hchecks
  obtain ⟨declarations, -, rfl⟩ := exists_of_map_ok hchecks
  have htext : (Session.plain.cacheRoot (bare "/tmp/a[/b]")).text = "/tmp/a[/b]" := by decide
  obtain ⟨styled, hstyled⟩ := hread (by rw [htext]; simp)
  rw [Doctor.Check.ofString, Glyph.stringOf_ofString] at hstyled
  have hfault : Markup.read true ("/tmp/a".toList ++ '[' :: "/b]".toList) =
      .error (.unmatched ⟨"/b".toList, none⟩ 6) :=
    Markup.read_of_stray (by decide) (by decide) rfl rfl (by decide) (by decide) rfl true
  exact absurd (hstyled.symm.trans hfault) (by simp)

/-- With such a root the command exits with neither status, although the
    toolchain was asked and nothing failed then. -/
theorem tag_in_root_not_shown : Requests (bare "/tmp/a[/b]") ["doctor"] (.doctor none true) ∧
    Opens (bare "/tmp/a[/b]") none Session.plain ∧
    (Toolchain.version Session.plain.settings (bare "/tmp/a[/b]")).1 = .ok none ∧
    (run (bare "/tmp/a[/b]") piped ["doctor"] "").1.stop ≠ .exit 0 ∧
    (run (bare "/tmp/a[/b]") piped ["doctor"] "").1.stop ≠ .exit 1 := by
  refine ⟨requests_bare _, opens_bare _, version_bare _, ?_⟩
  rcases stop_of_doctor piped "" (requests_bare "/tmp/a[/b]") (opens_bare "/tmp/a[/b]") with
    ⟨hshow, -⟩ | ⟨-, failure, hstop⟩
  · exact absurd hshow not_canShow_tagged
  · rw [hstop]
    simp

end CommandLine

end DenoBridge
