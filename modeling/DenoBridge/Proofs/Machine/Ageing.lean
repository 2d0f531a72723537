import DenoBridge.Machine.Command

/-! # What running children leaves of a machine

    A machine ages while children run: their effects on the files follow one
    another, and records are written.  Environment, current directory and the
    behaviour of children stay, and so does whatever every child keeps of the
    files (`Aged.files`).
-/

namespace DenoBridge.Machine

variable {m m' m'' : Machine}

/-- The second machine is the first after some children and some records. -/
inductive Aged (m : Machine) : Machine → Prop where
  | refl : Aged m m
  | child {m' : Machine} (launch : Launch) : Aged m m' →
      Aged m { m' with files := (m'.child launch m'.files).2 }
  | debug {m' : Machine} (logger message : String) : Aged m m' → Aged m (m'.debug logger message)

theorem Aged.trans (h : Aged m m') (h' : Aged m' m'') : Aged m m'' := by
  induction h' with
  | refl => exact h
  | child launch _ ih => exact ih.child launch
  | debug logger message _ ih => exact ih.debug logger message

theorem Aged.environment_eq (h : Aged m m') : m'.environment = m.environment := by
  induction h with
  | refl => rfl
  | child _ _ ih => exact ih
  | debug _ _ _ ih => exact ih

theorem Aged.directory_eq (h : Aged m m') : m'.directory = m.directory := by
  induction h with
  | refl => rfl
  | child _ _ ih => exact ih
  | debug _ _ _ ih => exact ih

theorem Aged.child_eq (h : Aged m m') : m'.child = m.child := by
  induction h with
  | refl => rfl
  | child _ _ ih => exact ih
  | debug _ _ _ ih => exact ih

theorem Aged.nesting_eq (h : Aged m m') : m'.nesting = m.nesting := by
  induction h with
  | refl => rfl
  | child _ _ ih => exact ih
  | debug _ _ _ ih => exact ih

/-- What every child keeps of the files, ageing keeps. -/
theorem Aged.files {P : FileSystem → Prop} (hkept : ∀ launch fs, P fs → P (m.child launch fs).2)
    (h : Aged m m') (hfiles : P m.files) : P m'.files := by
  induction h with
  | refl => exact hfiles
  | @child m' launch h ih =>
    show P (m'.child launch m'.files).2
    rw [h.child_eq]
    exact hkept launch m'.files ih
  | debug _ _ _ ih => exact ih

/-! ## Section 1: Running commands -/

theorem aged_spawn (m : Machine) (name : String) (arguments : List String) (given : Feed) :
    Aged m (m.spawn name arguments given).2 := by
  unfold spawn
  split
  · exact .refl
  · split
    · exact .refl
    · split
      · exact .refl
      · exact .child _ .refl

theorem aged_execute (m : Machine) (command : List String) (given : Feed) :
    Aged m (m.execute command given).2 := by
  unfold execute
  split
  · exact .refl
  · rename_i name arguments
    split
    · exact .refl
    · rename_i program _
      have hspawn := m.aged_spawn program arguments given
      split <;> (rename_i heq; rw [heq] at hspawn; exact hspawn)

theorem aged_runBytes (m : Machine) (command : List String) (check : Bool) :
    Aged m (m.runBytes command check).2 := by
  have hexecute := m.aged_execute command .null
  unfold runBytes
  split <;> (rename_i heq; rw [heq] at hexecute; exact hexecute)

theorem aged_runText (m : Machine) (command : List String) (check : Bool) :
    Aged m (m.runText command check).2 := by
  have hexecute := m.aged_execute command .null
  unfold runText
  split
  · rename_i heq
    rw [heq] at hexecute
    exact hexecute
  · rename_i heq
    rw [heq] at hexecute
    split <;> exact hexecute

end DenoBridge.Machine
