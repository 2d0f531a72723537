import DenoBridge.Proofs.Toolchain.Mishaps
import DenoBridge.Proofs.Toolchain.Refresh

/-! # The changes that a pass makes

    A pass is run once more over calls of which those that change files are
    recorded.  The record is complete: what a pass leaves of the files is what
    the recorded calls make of them, one after the other (`replay_changes`).
    A pass that has no changes on record has only looked.
-/

namespace DenoBridge.Declarations

open FileSystem

variable {α : Type} {here : Place} {path : Path} {content : Bytes} {fs : FileSystem}

/-! ## Section 1: Changes -/

/-- A call that changes files. -/
inductive Change where
  | makeDirectories (path : Path)
  | chmod (path : Path) (mode : Nat)
  | write (path : Path) (content : Bytes)
  deriving Repr, DecidableEq

/-- The call, seen from a directory. -/
def Change.work (here : Place) : Change → FileWork Unit
  | .makeDirectories path => (access here).makeDirectories path
  | .chmod path mode => (access here).chmod path mode
  | .write path content => (access here).write path content

/-- What the calls make of a file system, one after the other. -/
def replay (here : Place) (changes : List Change) (fs : FileSystem) : FileSystem :=
  changes.foldl (fun fs change => ((change.work here).run fs).2) fs

theorem replay_append (here : Place) (first more : List Change) (fs : FileSystem) :
    replay here (first ++ more) fs = replay here more (replay here first fs) :=
  List.foldl_append

/-! ## Section 2: Recorded calls -/

/-- A file system, and the calls made so far to change it. -/
structure Ledger where
  files : FileSystem
  changes : List Change

/-- Work on files that records its changes, failed ones too. -/
abbrev Recorded := ExceptT FileFault (StateM Ledger)

/-- A call that only looks. -/
def looking (work : FileWork α) : Recorded α :=
  ExceptT.mk fun ledger =>
    let (result, files) := work.run ledger.files
    (result, { ledger with files := files })

/-- A call that goes on record. -/
def changing (here : Place) (change : Change) : Recorded Unit :=
  ExceptT.mk fun ledger =>
    let (result, files) := (change.work here).run ledger.files
    (result, ⟨files, ledger.changes ++ [change]⟩)

/-- The calls of a pass with their record. -/
def recorded (here : Place) : FileAccess Recorded where
  hasEntry path := looking ((access here).hasEntry path)
  makeDirectories path := changing here (.makeDirectories path)
  read path := looking ((access here).read path)
  mode path := looking ((access here).mode path)
  chmod path mode := changing here (.chmod path mode)
  write path content := changing here (.write path content)

/-- The calls that a pass makes to change files, in their order. -/
def changes (here : Place) (path : Path) (content : Bytes) (fs : FileSystem) : List Change :=
  ((refresh (recorded here) path content).run ⟨fs, []⟩).2.changes

theorem run_looking {work : FileWork α} {fs' : FileSystem} {result : Except FileFault α}
    (h : work.run fs = (result, fs')) (changes : List Change) :
    (looking work).run ⟨fs, changes⟩ = (result, ⟨fs', changes⟩) := by
  show ((work.run fs).1, (⟨(work.run fs).2, changes⟩ : Ledger)) = _
  rw [h]

/-! ## Section 3: The record is complete -/

/-- The recorded work does what the work does, and adds to the record what
    was done to the files. -/
def Accounts (here : Place) (α : Type) (recorded : Recorded α) (work : FileWork α) : Prop :=
  ∀ ledger, ∃ more,
    recorded.run ledger =
      ((work.run ledger.files).1, ⟨(work.run ledger.files).2, ledger.changes ++ more⟩) ∧
    replay here more ledger.files = (work.run ledger.files).2

theorem isCongruent_accounts (here : Place) : IsCongruent (Accounts here) := by
  constructor
  case pure =>
    intro α a ledger
    refine ⟨[], ?_, rfl⟩
    rw [List.append_nil]
    rfl
  case bind =>
    intro α β first first' next next' hfirst hnext ledger
    obtain ⟨more, hrun, hreplay⟩ := hfirst ledger
    rw [run_bind, run_bind, hrun]
    rcases hwork : first'.run ledger.files with ⟨fault | a, between⟩
    · rw [hwork] at hreplay
      exact ⟨more, rfl, hreplay⟩
    · rw [hwork] at hreplay
      -- The second part goes on from the files that the first part left.
      obtain ⟨more', hrun', hreplay'⟩ := hnext a ⟨between, ledger.changes ++ more⟩
      refine ⟨more ++ more', ?_, ?_⟩
      · rw [← List.append_assoc]
        exact hrun'
      · rw [replay_append, hreplay]
        exact hreplay'

theorem accounts_looking {work : FileWork α} (h : ∀ fs, (work.run fs).2 = fs) :
    Accounts here α (looking work) work := by
  intro ledger
  refine ⟨[], ?_, (h ledger.files).symm⟩
  rw [List.append_nil]
  rfl

theorem accounts_changing (change : Change) :
    Accounts here Unit (changing here change) (change.work here) :=
  fun _ => ⟨[change], rfl, rfl⟩

theorem accounts_recorded (here : Place) (path : Path) :
    CallsRelated (Accounts here) (recorded here) (access here) path where
  hasEntry := accounts_looking (files_hasEntry here path)
  makeDirectories := accounts_changing (.makeDirectories path.parent)
  read := accounts_looking (files_look path _)
  mode := accounts_looking (files_look path _)
  chmod := fun mode => accounts_changing (.chmod path mode)
  write := fun content => accounts_changing (.write path content)

/-- What a pass leaves of the files is what its recorded changes make of them,
    and it ends as it does without a record. -/
theorem replay_changes (here : Place) (path : Path) (content : Bytes) (fs : FileSystem) :
    (refresh (recorded here) path content).run ⟨fs, []⟩ =
        (((refresh (access here) path content).run fs).1,
          ⟨replay here (changes here path content fs) fs, changes here path content fs⟩) ∧
      replay here (changes here path content fs) fs =
        ((refresh (access here) path content).run fs).2 := by
  obtain ⟨more, hrun, hreplay⟩ :=
    related_refresh (isCongruent_accounts here) (accounts_recorded here path) content ⟨fs, []⟩
  have hmore : changes here path content fs = more := by
    unfold changes
    rw [hrun]
    rfl
  rw [hmore, hreplay]
  exact ⟨hrun, rfl⟩

/-- A pass over an equal file that nobody may write makes no changes. -/
theorem changes_of_guarded {place : Place} {mode : Nat} (husable : isUnusable path = false)
    (hfind : fs.find here path.text = .ok (place, .file mode content))
    (hguarded : mode &&& writeBits = 0) : changes here path content fs = [] := by
  -- Three questions are asked, and after the last one nothing is left to do.
  have hentry := run_looking (run_hasEntry husable (hasEntry_of_find hfind)) []
  have hread := run_looking (run_read husable (read_of_find hfind)) []
  have hmode := run_looking (run_mode husable (mode_of_find hfind)) []
  unfold changes refresh
  rw [run_bind]
  rw [show ((recorded here).hasEntry path).run ⟨fs, []⟩ = _ from hentry]
  dsimp only
  rw [if_neg (by simp), run_bind]
  rw [show ((recorded here).read path).run ⟨fs, []⟩ = _ from hread]
  dsimp only
  rw [if_neg (by simp), run_bind]
  rw [show ((recorded here).mode path).run ⟨fs, []⟩ = _ from hmode]
  dsimp only
  rw [if_neg (by simp [hguarded])]
  rfl

end DenoBridge.Declarations
