import DenoBridge.Proofs.Files.Work
import DenoBridge.Proofs.Files.Growth

/-! # Passes in which something goes wrong

    A pass is run once more over calls of which one is refused, perhaps after
    a part of its work, or before one of which the pass is cut off (`tried`).
    Without a mishap this is the pass itself (`tried_none`).  With one, all
    goes as before until the mishap strikes, and then there is no outcome
    (`tried_struck`, `tried_spared`).  What every call keeps, however it ends,
    is kept by the whole (`Sturdy.tried`).
-/

namespace DenoBridge.Declarations

open FileSystem

variable {α β : Type}

/-! ## Section 1: The shape of a pass -/

section

variable {m n : Type → Type} [Monad m] [Monad n]

/-- A relation between programs that programs put together from related ones
    have too. -/
structure IsCongruent (R : (α : Type) → m α → n α → Prop) : Prop where
  pure : ∀ {α : Type} (a : α), R α (pure a) (pure a)
  bind : ∀ {α β : Type} {first : m α} {first' : n α} {next : α → m β} {next' : α → n β},
    R α first first' → (∀ a, R β (next a) (next' a)) → R β (first >>= next) (first' >>= next')

/-- The calls that a pass over a path makes are related. -/
structure CallsRelated (R : (α : Type) → m α → n α → Prop) (calls : FileAccess m)
    (calls' : FileAccess n) (path : Path) : Prop where
  hasEntry : R _ (calls.hasEntry path) (calls'.hasEntry path)
  makeDirectories : R _ (calls.makeDirectories path.parent) (calls'.makeDirectories path.parent)
  read : R _ (calls.read path) (calls'.read path)
  mode : R _ (calls.mode path) (calls'.mode path)
  chmod : ∀ bits, R _ (calls.chmod path bits) (calls'.chmod path bits)
  write : ∀ content, R _ (calls.write path content) (calls'.write path content)

variable {R : (α : Type) → m α → n α → Prop} {calls : FileAccess m} {calls' : FileAccess n}
variable {path : Path}

theorem related_writeProtected (hR : IsCongruent R) (h : CallsRelated R calls calls' path)
    (content : Bytes) :
    R _ (writeProtected calls path content) (writeProtected calls' path content) := by
  unfold writeProtected
  refine hR.bind h.hasEntry fun found => ?_
  have hwrite := hR.bind (h.write content) fun _ => h.chmod readOnlyMode
  cases found with
  | false => exact hwrite
  | true => exact hR.bind (h.chmod writableMode) fun _ => hwrite

/-- A pass over related calls is related. -/
theorem related_refresh (hR : IsCongruent R) (h : CallsRelated R calls calls' path)
    (content : Bytes) : R _ (refresh calls path content) (refresh calls' path content) := by
  unfold refresh
  -- Which call is next depends on what was returned, and that is the same for both.
  refine hR.bind h.hasEntry fun found => ?_
  cases found with
  | false =>
    refine hR.bind h.makeDirectories fun _ => ?_
    exact hR.bind (related_writeProtected hR h content) fun _ => hR.pure _
  | true =>
    refine hR.bind h.read fun old => ?_
    by_cases hne : old ≠ content
    · rw [if_pos hne, if_pos hne]
      exact hR.bind (related_writeProtected hR h content) fun _ => hR.pure _
    · rw [if_neg hne, if_neg hne]
      refine hR.bind h.mode fun mode => ?_
      by_cases hopen : mode &&& writeBits ≠ 0
      · rw [if_pos hopen, if_pos hopen]
        exact hR.bind (h.chmod readOnlyMode) fun _ => hR.pure _
      · rw [if_neg hopen, if_neg hopen]
        exact hR.pure _

end

/-! ## Section 2: Mishaps -/

/-- One thing that goes wrong in a pass. -/
structure Mishap where
  /-- How many calls are made before. -/
  call : Nat
  /-- The wording of the error with which the call is refused; `none` when
      the pass is cut off before the call. -/
  reason : Option String
  /-- How many names of its path a refused call for directories has got
      through. -/
  made : Nat
  /-- How much a refused call to write has written; `none` when it has not
      come to truncating the file. -/
  written : Option Nat
  deriving Repr, DecidableEq

/-- Why a pass has no outcome. -/
inductive Stop where
  /-- A call failed by itself. -/
  | fault (cause : FileFault)
  /-- The mishap was a refused call. -/
  | refused (reason : String)
  /-- The mishap was an interruption. -/
  | cutOff
  deriving Repr, DecidableEq

/-- How a mishap stops a pass. -/
def Mishap.stop (mishap : Mishap) : Stop :=
  match mishap.reason with
  | some reason => .refused reason
  | none => .cutOff

/-- A file system, and how many calls were made on it. -/
structure Journal where
  calls : Nat
  files : FileSystem

/-- Work on files that counts its calls. -/
abbrev Trial := ExceptT Stop (StateM Journal)

/-- One call.  When the mishap strikes here, a refused call leaves the harm
    that it has done and is the last one. -/
def attempt (mishap : Option Mishap) (harm : Mishap → FileSystem → FileSystem)
    (work : FileWork α) : Trial α :=
  ExceptT.mk fun journal =>
    match mishap.filter (·.call == journal.calls) with
    | none =>
      let (result, files) := work.run journal.files
      (result.mapError .fault, ⟨journal.calls + 1, files⟩)
    | some mishap =>
      match mishap.reason with
      | none => (.error .cutOff, journal)
      | some reason => (.error (.refused reason), ⟨journal.calls + 1, harm mishap journal.files⟩)

/-- What a refused call for directories leaves. -/
def Mishap.directories (here : Place) (path : Path) (mishap : Mishap) (fs : FileSystem) :
    FileSystem :=
  ((ensureDirectories here (path.first mishap.made)).run fs).2

/-- What a refused call to write leaves. -/
def Mishap.content (here : Place) (path : Path) (content : Bytes) (mishap : Mishap)
    (fs : FileSystem) : FileSystem :=
  match mishap.written with
  | none => fs
  | some size => (fs.write here path.text (content.take size)).toOption.getD fs

/-- The calls of a pass in which a mishap may strike.  Calls that only look
    and calls for permissions do nothing when they are refused. -/
def accessUnder (mishap : Option Mishap) (here : Place) : FileAccess Trial where
  hasEntry path := attempt mishap (fun _ fs => fs) ((access here).hasEntry path)
  makeDirectories path :=
    attempt mishap (Mishap.directories here path) ((access here).makeDirectories path)
  read path := attempt mishap (fun _ fs => fs) ((access here).read path)
  mode path := attempt mishap (fun _ fs => fs) ((access here).mode path)
  chmod path bits := attempt mishap (fun _ fs => fs) ((access here).chmod path bits)
  write path content :=
    attempt mishap (Mishap.content here path content) ((access here).write path content)

/-- How a pass ends. -/
inductive Ending where
  | outcome (outcome : Outcome)
  | failure (e : Failure)
  | cutOff
  deriving Repr, DecidableEq

/-- The ending that a stop is for a pass over a path. -/
def Stop.ending (path : Path) : Stop → Ending
  | .fault cause => .failure (.ofFault path cause)
  | .refused reason => .failure (.file ⟨path.text, reason⟩)
  | .cutOff => .cutOff

/-- The ending of a pass over a path. -/
def endingOf (path : Path) : Except Stop Outcome → Ending
  | .ok outcome => .outcome outcome
  | .error stop => stop.ending path

/-- A pass in which a mishap may strike: how it ends, and what it leaves. -/
def tried (mishap : Option Mishap) (here : Place) (path : Path) (content : Bytes)
    (fs : FileSystem) : Ending × Journal :=
  let (result, journal) := (refresh (accessUnder mishap here) path content).run ⟨0, fs⟩
  (endingOf path result, journal)

/-! ## Section 3: Steps of a trial -/

theorem run_attempt_none (harm : Mishap → FileSystem → FileSystem) (work : FileWork α)
    (journal : Journal) : (attempt none harm work).run journal =
      ((work.run journal.files).1.mapError .fault,
        ⟨journal.calls + 1, (work.run journal.files).2⟩) :=
  rfl

theorem run_attempt_ok {work : FileWork α} {fs fs' : FileSystem} {a : α}
    (h : work.run fs = (.ok a, fs')) (harm : Mishap → FileSystem → FileSystem) (calls : Nat) :
    (attempt none harm work).run ⟨calls, fs⟩ = (.ok a, ⟨calls + 1, fs'⟩) := by
  rw [run_attempt_none, h]
  rfl

variable {mishap : Mishap} {journal : Journal}

/-- Another call goes as it would have gone. -/
theorem run_attempt_other (h : mishap.call ≠ journal.calls)
    (harm : Mishap → FileSystem → FileSystem) (work : FileWork α) :
    (attempt (some mishap) harm work).run journal = (attempt none harm work).run journal := by
  have hfilter : (some mishap).filter (·.call == journal.calls) = none := by
    simpa [Option.filter] using h
  show (match (some mishap).filter (·.call == journal.calls) with
    | none => _
    | some mishap => _ : Except Stop α × Journal) = _
  rw [hfilter]
  rfl

/-- The call that is struck. -/
theorem run_attempt_struck (h : mishap.call = journal.calls)
    (harm : Mishap → FileSystem → FileSystem) (work : FileWork α) :
    ((attempt (some mishap) harm work).run journal).1 = .error mishap.stop ∧
      (((attempt (some mishap) harm work).run journal).2.files = journal.files ∨
        ((attempt (some mishap) harm work).run journal).2.files = harm mishap journal.files) := by
  have hfilter : (some mishap).filter (·.call == journal.calls) = some mishap := by
    simpa [Option.filter] using h
  have hrun : (attempt (some mishap) harm work).run journal =
      match mishap.reason with
      | none => (.error .cutOff, journal)
      | some reason =>
        (.error (.refused reason), ⟨journal.calls + 1, harm mishap journal.files⟩) := by
    show (match (some mishap).filter (·.call == journal.calls) with
      | none => _
      | some mishap => _ : Except Stop α × Journal) = _
    rw [hfilter]
  rw [hrun, Mishap.stop]
  cases mishap.reason with
  | none => exact ⟨rfl, .inl rfl⟩
  | some reason => exact ⟨rfl, .inr rfl⟩

/-! ## Section 4: Without a mishap -/

/-- The trial does what the work does. -/
def Mirrors (α : Type) (trial : Trial α) (work : FileWork α) : Prop :=
  ∀ journal, (trial.run journal).1 = (work.run journal.files).1.mapError .fault ∧
    (trial.run journal).2.files = (work.run journal.files).2

theorem isCongruent_mirrors : IsCongruent Mirrors := by
  constructor
  case pure => exact fun a journal => ⟨rfl, rfl⟩
  case bind =>
    intro α β first first' next next' hfirst hnext journal
    have hsame := hfirst journal
    rw [run_bind, run_bind]
    rcases hrun : first.run journal with ⟨result, after⟩
    rcases hrun' : first'.run journal.files with ⟨fault | a, files⟩
    · rw [hrun, hrun'] at hsame
      obtain ⟨rfl, hfiles⟩ := hsame
      exact ⟨rfl, hfiles⟩
    · rw [hrun, hrun'] at hsame
      obtain ⟨rfl, hfiles⟩ := hsame
      obtain rfl : after.files = files := hfiles
      exact hnext a after

theorem mirrors_accessUnder (here : Place) (path : Path) :
    CallsRelated Mirrors (accessUnder none here) (access here) path :=
  ⟨fun _ => ⟨rfl, rfl⟩, fun _ => ⟨rfl, rfl⟩, fun _ => ⟨rfl, rfl⟩, fun _ => ⟨rfl, rfl⟩,
    fun _ _ => ⟨rfl, rfl⟩, fun _ _ => ⟨rfl, rfl⟩⟩

/-- Without a mishap, a trial is the pass. -/
theorem tried_none (here : Place) (path : Path) (content : Bytes) (fs : FileSystem) :
    (tried none here path content fs).1 =
        endingOf path (((refresh (access here) path content).run fs).1.mapError .fault) ∧
      (tried none here path content fs).2.files =
        ((refresh (access here) path content).run fs).2 := by
  obtain ⟨hresult, hfiles⟩ :=
    related_refresh isCongruent_mirrors (mirrors_accessUnder here path) content ⟨0, fs⟩
  exact ⟨congrArg (endingOf path) hresult, hfiles⟩

/-- The ending of a pass of a session. -/
def endingOfPass : Except Failure Outcome → Ending
  | .ok outcome => .outcome outcome
  | .error e => .failure e

/-- Once the toolchain has answered, a pass of a session is a trial without a
    mishap. -/
theorem synchronize_eq_tried {s : Settings} {unstable : Bool} {m asked : Machine} {content : Bytes}
    (h : Toolchain.typeDeclarations s unstable m = (.ok (some content), asked)) (path : Path) :
    endingOfPass (synchronize s path unstable m).1 =
        (tried none asked.directory path content asked.files).1 ∧
      (synchronize s path unstable m).2.files =
        (tried none asked.directory path content asked.files).2.files := by
  obtain ⟨hending, hfiles⟩ := tried_none asked.directory path content asked.files
  rw [hending, hfiles]
  unfold synchronize
  rw [h]
  dsimp only
  rcases (refresh (access asked.directory) path content).run asked.files with ⟨fault | outcome, fs⟩
  · exact ⟨rfl, rfl⟩
  · dsimp only
    cases record? path content outcome with
    | none => exact ⟨rfl, rfl⟩
    | some text => exact ⟨rfl, rfl⟩

/-! ## Section 5: Until the mishap strikes -/

/-- The trial with a mishap goes as the one without until the call is reached,
    and stops there. -/
structure Follows (mishap : Mishap) (α : Type) (troubled calm : Trial α) : Prop where
  calls_le : ∀ journal, journal.calls ≤ (calm.run journal).2.calls
  spared : ∀ journal, (calm.run journal).2.calls ≤ mishap.call →
    troubled.run journal = calm.run journal
  struck : ∀ journal, journal.calls ≤ mishap.call → mishap.call < (calm.run journal).2.calls →
    (troubled.run journal).1 = .error mishap.stop

theorem isCongruent_follows (mishap : Mishap) : IsCongruent (Follows mishap) := by
  constructor
  case pure =>
    intro α a
    refine ⟨fun journal => Nat.le_refl _, fun journal _ => rfl, ?_⟩
    intro journal hle hlt
    exact absurd (Nat.lt_of_le_of_lt hle hlt) (Nat.lt_irrefl _)
  case bind =>
    intro α β first first' next next' hfirst hnext
    -- What comes after the first part only adds to its calls.
    have hadds (journal : Journal) :
        (first'.run journal).2.calls ≤ ((first' >>= next').run journal).2.calls := by
      rw [run_bind]
      rcases first'.run journal with ⟨stop | a, after⟩
      · exact Nat.le_refl _
      · exact (hnext a).calls_le after
    refine ⟨fun journal => Nat.le_trans (hfirst.calls_le journal) (hadds journal), ?_, ?_⟩
    · intro journal hle
      have hsame := hfirst.spared journal (Nat.le_trans (hadds journal) hle)
      rw [run_bind] at hle
      rw [run_bind, run_bind, hsame]
      rcases hrun : first'.run journal with ⟨stop | a, after⟩
      · rfl
      · rw [hrun] at hle
        exact (hnext a).spared after hle
    · intro journal hle hlt
      by_cases hearly : mishap.call < (first'.run journal).2.calls
      · have hstop := hfirst.struck journal hle hearly
        rw [run_bind]
        rcases hrun : first.run journal with ⟨result, after⟩
        rw [hrun] at hstop
        obtain rfl : result = .error mishap.stop := hstop
        rfl
      · have hlate := Nat.le_of_not_lt hearly
        rw [run_bind] at hlt
        rw [run_bind, hfirst.spared journal hlate]
        rcases hrun : first'.run journal with ⟨stop | a, after⟩
        · rw [hrun] at hlt hearly
          exact absurd hlt hearly
        · rw [hrun] at hlt hlate
          exact (hnext a).struck after hlate hlt

theorem follows_attempt (mishap : Mishap) (harm : Mishap → FileSystem → FileSystem)
    (work : FileWork α) :
    Follows mishap α (attempt (some mishap) harm work) (attempt none harm work) := by
  refine ⟨fun journal => Nat.le_succ _, fun journal hle => ?_, fun journal hle hlt => ?_⟩
  · rw [run_attempt_none] at hle
    exact run_attempt_other (Nat.ne_of_gt hle) harm work
  · rw [run_attempt_none] at hlt
    exact (run_attempt_struck (Nat.le_antisymm (Nat.le_of_lt_succ hlt) hle) harm work).1

theorem follows_accessUnder (mishap : Mishap) (here : Place) (path : Path) :
    CallsRelated (Follows mishap) (accessUnder (some mishap) here) (accessUnder none here)
      path := by
  have hharmless {α : Type} (work : FileWork α) : Follows mishap α
      (attempt (some mishap) (fun _ fs => fs) work) (attempt none (fun _ fs => fs) work) :=
    follows_attempt mishap _ work
  exact ⟨hharmless _, follows_attempt mishap _ _, hharmless _, hharmless _,
    fun bits => hharmless ((access here).chmod path bits),
    fun content => follows_attempt mishap _ ((access here).write path content)⟩

/-- A mishap that strikes leaves no outcome. -/
theorem tried_struck {here : Place} {path : Path} {content : Bytes} {fs : FileSystem}
    (h : mishap.call < (tried none here path content fs).2.calls) :
    (tried (some mishap) here path content fs).1 = mishap.stop.ending path := by
  have hfollows :=
    related_refresh (isCongruent_follows mishap) (follows_accessUnder mishap here path) content
  exact congrArg (endingOf path) (hfollows.struck ⟨0, fs⟩ (Nat.zero_le _) h)

/-- A mishap that does not come to strike changes nothing. -/
theorem tried_spared {here : Place} {path : Path} {content : Bytes} {fs : FileSystem}
    (h : (tried none here path content fs).2.calls ≤ mishap.call) :
    tried (some mishap) here path content fs = tried none here path content fs := by
  have hfollows :=
    related_refresh (isCongruent_follows mishap) (follows_accessUnder mishap here path) content
  unfold tried
  rw [hfollows.spared ⟨0, fs⟩ h]

/-! ## Section 6: Whatever happens -/

/-- A property of file systems that every call of a pass over a path keeps,
    whatever comes of the call. -/
structure Sturdy (P : FileSystem → Prop) (here : Place) (path : Path) : Prop where
  makeDirectories : ∀ fs count, P fs →
    P ((ensureDirectories here (path.parent.first count)).run fs).2
  write : ∀ fs content, P fs → P ((fs.write here path.text content).toOption.getD fs)
  chmod : ∀ fs bits, P fs → P ((fs.chmod here path.text bits).toOption.getD fs)

/-- The trial keeps a property of its file system. -/
def Preserves (P : FileSystem → Prop) (α : Type) (trial _other : Trial α) : Prop :=
  ∀ journal, P journal.files → P (trial.run journal).2.files

theorem isCongruent_preserves (P : FileSystem → Prop) : IsCongruent (Preserves P) := by
  constructor
  case pure => exact fun a journal h => h
  case bind =>
    intro α β first first' next next' hfirst hnext journal h
    have hafter := hfirst journal h
    rw [run_bind]
    rcases hrun : first.run journal with ⟨stop | a, after⟩
    · rw [hrun] at hafter
      exact hafter
    · rw [hrun] at hafter
      exact hnext a after hafter

theorem preserves_attempt {P : FileSystem → Prop} {mishap : Option Mishap}
    {harm : Mishap → FileSystem → FileSystem} {work : FileWork α}
    (hharm : ∀ mishap fs, P fs → P (harm mishap fs)) (hwork : ∀ fs, P fs → P (work.run fs).2) :
    Preserves P α (attempt mishap harm work) (attempt mishap harm work) := by
  intro journal h
  cases mishap with
  | none => exact hwork journal.files h
  | some mishap =>
    by_cases hstrikes : mishap.call = journal.calls
    · rcases (run_attempt_struck hstrikes harm work).2 with hfiles | hfiles
      · rw [hfiles]
        exact h
      · rw [hfiles]
        exact hharm mishap journal.files h
    · rw [run_attempt_other hstrikes]
      exact hwork journal.files h

theorem preserves_accessUnder {P : FileSystem → Prop} {here : Place} {path : Path}
    (h : Sturdy P here path) (mishap : Option Mishap) :
    CallsRelated (Preserves P) (accessUnder mishap here) (accessUnder mishap here) path := by
  have hchange {call : FileSystem → Except Errno FileSystem}
      (hcall : ∀ fs, P fs → P ((call fs).toOption.getD fs)) (fs : FileSystem) (hfs : P fs) :
      P ((change path call).run fs).2 := by
    rcases files_change path call fs with hfiles | hfiles
    · rw [hfiles]
      exact hfs
    · rw [hfiles]
      exact hcall fs hfs
  have hlook {α : Type} {call : FileSystem → Except Errno α} (fs : FileSystem) (hfs : P fs) :
      P ((look path call).run fs).2 := by
    rw [files_look]
    exact hfs
  constructor
  case hasEntry =>
    refine preserves_attempt (fun _ _ hfs => hfs) fun fs hfs => ?_
    rw [files_hasEntry]
    exact hfs
  case makeDirectories =>
    refine preserves_attempt (fun mishap fs hfs => h.makeDirectories fs _ hfs) fun fs hfs => ?_
    have hwhole := h.makeDirectories fs path.parent.names.length hfs
    rw [Path.first_length] at hwhole
    exact hwhole
  case read => exact preserves_attempt (fun _ _ hfs => hfs) fun fs hfs => hlook fs hfs
  case mode => exact preserves_attempt (fun _ _ hfs => hfs) fun fs hfs => hlook fs hfs
  case chmod =>
    intro bits
    exact preserves_attempt (fun _ _ hfs => hfs) (hchange fun fs => h.chmod fs bits)
  case write =>
    intro content
    refine preserves_attempt (fun mishap fs hfs => ?_) (hchange fun fs => h.write fs content)
    unfold Mishap.content
    split
    · exact hfs
    · exact h.write fs _ hfs

/-- What every call keeps is kept by a pass, whether a mishap strikes or
    not. -/
theorem Sturdy.tried {P : FileSystem → Prop} {here : Place} {path : Path}
    (h : Sturdy P here path) (mishap : Option Mishap) (content : Bytes) {fs : FileSystem}
    (hfs : P fs) : P (tried mishap here path content fs).2.files :=
  related_refresh (isCongruent_preserves P) (preserves_accessUnder h mishap) content ⟨0, fs⟩ hfs

end DenoBridge.Declarations
