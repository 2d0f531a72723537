import DenoBridge.CommandLine.Run
import DenoBridge.Proofs.Results

/-! # How work ends

    Work on a desk is done or stops.  `Desk.Ensures` says of work begun at a
    desk what holds when it is done and what holds when it stops; there is one
    rule for each step that work is made of, and `ensures_bind` puts them
    together.  Showing records and writing notices to standard error leave
    standard output alone (`output_takeRecords`, `ensures_notice`).
-/

namespace DenoBridge

open Terminal

namespace Desk

variable {ε α β δ : Type} {d : Desk}

/-! ## Section 1: What work ensures -/

/-- Work begun at the desk ends in one of two ways: it is done with a result,
    or it stops for a reason.  Each time this holds of the desk it leaves. -/
def Ensures (d : Desk) (work : Work ε α) (done : α → Desk → Prop)
    (stopped : Stop ε → Desk → Prop) : Prop :=
  match work.run d with
  | (.ok a, d') => done a d'
  | (.error stop, d') => stopped stop d'

section Rules

variable {done : α → Desk → Prop} {stopped : Stop ε → Desk → Prop}

theorem ensures_pure {a : α} (h : done a d) : d.Ensures (pure a : Work ε α) done stopped := h

theorem ensures_get {done : Desk → Desk → Prop} (h : done d d) :
    d.Ensures (get : Work ε Desk) done stopped := h

theorem ensures_set {d' : Desk} {done : Unit → Desk → Prop} (h : done () d') :
    d.Ensures (set d' : Work ε Unit) done stopped := h

theorem ensures_change {f : Desk → Desk} {done : Unit → Desk → Prop} (h : done () (f d)) :
    d.Ensures (change f : Work ε Unit) done stopped := h

theorem ensures_asks {f : Desk → α} (h : done (f d) d) :
    d.Ensures (asks f : Work ε α) done stopped := h

theorem ensures_exit {status : Nat} (h : stopped (.exit status) d) :
    d.Ensures (exit status : Work ε α) done stopped := h

theorem ensures_fail {e : ε} (h : stopped (.failed e) d) :
    d.Ensures (fail e : Work ε α) done stopped := h

theorem ensures_orFail {f : δ → ε} {result : Except δ α}
    (hok : ∀ a, result = .ok a → done a d)
    (herror : ∀ e, result = .error e → stopped (.failed (f e)) d) :
    d.Ensures (orFail f result) done stopped := by
  cases result with
  | ok a => exact hok a rfl
  | error e => exact herror e rfl

/-- What is shown is written unless there is a half in it. -/
theorem ensures_writeShown {f : DisplayFault → ε} {texts : List (List Glyph)} {shown : String}
    {done : Unit → Desk → Prop} (hdone : Halves.shown? texts shown = none →
      done () (d.write .output shown))
    (hstopped : ∀ halves, Halves.shown? texts shown = some halves →
      stopped (.failed (f (.halves halves))) d) :
    d.Ensures (writeShown f texts shown) done stopped := by
  unfold writeShown
  cases hshown : Halves.shown? texts shown with
  | none => exact hdone hshown
  | some halves => exact hstopped halves hshown

/-- Work after work: the second part begins at a desk that the first one
    leaves. -/
theorem ensures_bind {work : Work ε α} {next : α → Work ε β} {M : α → Desk → Prop}
    {done : β → Desk → Prop} (hwork : d.Ensures work M stopped)
    (hnext : ∀ a d', M a d' → d'.Ensures (next a) done stopped) :
    d.Ensures (work >>= next) done stopped := by
  unfold Ensures at hwork ⊢
  rw [run_bind]
  rcases hrun : ExceptT.run work d with ⟨r, d'⟩
  rw [hrun] at hwork
  cases r with
  | ok a => exact hnext a d' hwork
  | error stop => exact hwork

theorem Ensures.mono {work : Work ε α} {done' : α → Desk → Prop} {stopped' : Stop ε → Desk → Prop}
    (h : d.Ensures work done stopped) (hdone : ∀ a d', done a d' → done' a d')
    (hstopped : ∀ stop d', stopped stop d' → stopped' stop d') :
    d.Ensures work done' stopped' := by
  unfold Ensures at h ⊢
  rcases hrun : ExceptT.run work d with ⟨r, d'⟩
  rw [hrun] at h
  cases r with
  | ok a => exact hdone a d' h
  | error stop => exact hstopped stop d' h

/-- Work after work that does not stop. -/
theorem ensures_after {work : Work ε α} {next : α → Work ε β} {M : α → Desk → Prop}
    {done : β → Desk → Prop} (hwork : d.Ensures work M fun _ _ => False)
    (hnext : ∀ a d', M a d' → d'.Ensures (next a) done stopped) :
    d.Ensures (work >>= next) done stopped :=
  ensures_bind (hwork.mono (fun _ _ h => h) fun _ _ habsurd => habsurd.elim) hnext

theorem ensures_run {f : Machine → α × Machine}
    (h : done (f d.machine).1 ({ d with machine := (f d.machine).2 } : Desk).takeRecords) :
    d.Ensures (run f : Work ε α) done stopped := h

end Rules

/-! ## Section 2: Standard output -/

/-- What no single record changes, records do not change. -/
theorem foldl_record {V : Desk → β} (h : ∀ d record, V (Desk.record d record) = V d)
    (records : List LogRecord) (d : Desk) : V (records.foldl record d) = V d := by
  induction records generalizing d with
  | nil => rfl
  | cons first rest ih => rw [List.foldl_cons, ih, h]

/-- Records are shown on standard error. -/
theorem output_takeRecords (d : Desk) : d.takeRecords.output = d.output := by
  unfold takeRecords
  refine foldl_record (V := Desk.output) ?_ _ _
  intro d record
  unfold Desk.record
  split <;> rfl

theorem streams_takeRecords (d : Desk) : d.takeRecords.streams = d.streams := by
  unfold takeRecords
  refine foldl_record (V := Desk.streams) ?_ _ _
  intro d record
  unfold Desk.record
  split <;> rfl

/-- A notice to standard error is written, or its screen has no size; in both
    cases standard output stays as it is. -/
theorem ensures_notice {f : DisplayFault → ε} {kind : Notice} {emoji : Bool} {wanted : Option Bool}
    {message : String} {done : Unit → Desk → Prop} {stopped : Stop ε → Desk → Prop}
    (hdone : ∀ d' : Desk, d'.output = d.output → done () d')
    (hstopped : ∀ e, stopped (.failed e) d) :
    d.Ensures (notice f .errors kind emoji wanted message) done stopped := by
  unfold notice
  -- Looking the screen up can fail but changes nothing; the writing cannot fail.
  refine ensures_bind (M := fun _ d' => d' = d) ?_ ?_
  · unfold Desk.screen
    refine ensures_bind (M := fun seen d' => seen = d ∧ d' = d) (ensures_get ⟨rfl, rfl⟩) ?_
    rintro _ _ ⟨rfl, rfl⟩
    exact ensures_orFail (fun _ _ => rfl) (fun e _ => hstopped _)
  · rintro screen _ rfl
    exact ensures_change (hdone _ rfl)

end Desk

end DenoBridge
