/-! # Runs of mapped code points

    Character mappings of Unicode often move a whole run of code points, or
    every second one of it, by the same distance.
-/

namespace DenoBridge.Text

/-- Every `step`-th code point from `first` to `last` maps to the one `shift`
    further on. -/
structure ShiftRun where
  first : Nat
  last : Nat
  step : Nat
  shift : Int
  deriving Repr, DecidableEq

/-- Does the run map this code point? -/
def ShiftRun.covers (run : ShiftRun) (code : Nat) : Bool :=
  run.first ≤ code && code ≤ run.last && (code - run.first) % run.step == 0

/-- What the run maps a code point to. -/
def ShiftRun.image (run : ShiftRun) (code : Nat) : Nat :=
  (code + run.shift).toNat

/-- A code point is found again from its image, unless that is 0. -/
theorem ShiftRun.toNat_sub_shift {run : ShiftRun} {code image : Nat} (hpos : 0 < image)
    (h : run.image code = image) : (image - run.shift).toNat = code := by
  simp only [ShiftRun.image] at h
  omega

/-- What a list of runs maps a code point to, if one of them maps it. -/
def shifted? (runs : List ShiftRun) (code : Nat) : Option Nat :=
  (runs.find? (·.covers code)).map (·.image code)

theorem exists_run_of_shifted? {runs : List ShiftRun} {code image : Nat}
    (h : shifted? runs code = some image) :
    ∃ run ∈ runs, run.covers code = true ∧ run.image code = image := by
  obtain ⟨run, hrun, himage⟩ := Option.map_eq_some_iff.1 h
  have hcovers : run.covers code = true := by simpa using List.find?_some hrun
  exact ⟨run, List.mem_of_find?_eq_some hrun, hcovers, himage⟩

end DenoBridge.Text
