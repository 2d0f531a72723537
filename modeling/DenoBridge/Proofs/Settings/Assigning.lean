import DenoBridge.Proofs.Path.Reading
import DenoBridge.Proofs.Settings.Fields
import DenoBridge.Proofs.Text.Trim

/-! # Assignments that succeed and fail

    A field is assigned again and again, with values of any kind.  A value
    that passes the check of its field is taken, and nothing else changes; a
    value that does not is refused by the name of the field, and nothing
    changes at all (`answer_attempt`).  So settings that were built, or read
    from the environment, are sound after every run of such attempts
    (`sound_after_attempts`): the executable is never blank and has no blanks
    around it, and the variable always has a name.
-/

namespace DenoBridge.Settings

variable {s s' start : Settings} {field : Field} {value : Json}

/-! ## Section 1: Sound settings -/

/-- The override, if there is one, has names only, so it has a text. -/
def IsProper (s : Settings) : Prop :=
  ∀ root ∈ s.cacheRootOverride, root.IsProper

/-- What is always true of settings.  The mode is one of two anyway, and the
    override a path or nothing. -/
structure IsSound (s : Settings) : Prop where
  executable_ne : s.executable ≠ ""
  executable_trimmed : Text.trim s.executable.toList = s.executable.toList
  rootVariable_ne : s.rootVariable ≠ ""
  override_proper : s.IsProper

theorem isProper_of_checkOverride {found : Option Path} (h : checkOverride value = .ok found) :
    ∀ root ∈ found, root.IsProper := by
  intro root hroot
  unfold checkOverride at h
  split at h
  · obtain rfl := Except.ok.inj h
    simp at hroot
  · split at h
    · rename_i glyphs _
      obtain rfl := Except.ok.inj h
      obtain rfl : Path.ofString (Glyph.stringOf glyphs) = root := by simpa using hroot
      exact Path.isProper_ofString (Glyph.stringOf glyphs)
    · cases h

/-- An executable that passes is what trimming leaves of a text, and that is
    something. -/
theorem of_checkExecutable {text : String} (h : checkExecutable value = .ok text) :
    text ≠ "" ∧ Text.trim text.toList = text.toList := by
  unfold checkExecutable at h
  split at h
  · cases h
  · rename_i given _
    split at h
    · cases h
    · rename_i htrim
      obtain rfl := Except.ok.inj h
      have hne : Text.trim (Glyph.stringOf given).toList ≠ [] := fun hempty => htrim hempty
      constructor
      · intro hempty
        have hnil := congrArg String.toList hempty
        rw [String.toList_ofList] at hnil
        exact hne hnil
      · rw [String.toList_ofList]
        exact Text.trim_trim (Glyph.stringOf given).toList

theorem ne_empty_of_checkVariable {name : String} (h : checkVariable value = .ok name) :
    name ≠ "" := by
  unfold checkVariable at h
  split at h
  · cases h
  · split at h
    · cases h
    · split at h
      · cases h
      · rename_i hne
        obtain rfl := Except.ok.inj h
        exact hne

theorem IsProper.setField (hs : s.IsProper) (h : s.setField field value = .ok s') :
    s'.IsProper := by
  obtain ⟨hholds, hchange⟩ := of_setField h
  by_cases hfield : field = .cacheRootOverride
  · subst hfield
    cases hholds with
    | cacheRootOverride hread => exact isProper_of_checkOverride hread
  · -- Every other field leaves the override alone.
    have hkept := hchange.cacheRootOverride hfield
    rw [IsProper, hkept]
    exact hs

theorem lasts_isProper : Lasts IsProper where
  default := by
    intro root hroot
    cases hroot
  setField := IsProper.setField

/-- Settings stay sound with every value that passes its check. -/
theorem IsSound.setField (hs : s.IsSound) (h : s.setField field value = .ok s') : s'.IsSound := by
  obtain ⟨hholds, hchange⟩ := of_setField h
  -- A field that was set holds a checked value; one that was not is as before.
  have hexecutable : s'.executable ≠ "" ∧
      Text.trim s'.executable.toList = s'.executable.toList := by
    by_cases hfield : field = .executable
    · subst hfield
      cases hholds with
      | executable hread => exact of_checkExecutable hread
    · rw [hchange.executable hfield]
      exact ⟨hs.executable_ne, hs.executable_trimmed⟩
  have hvariable : s'.rootVariable ≠ "" := by
    by_cases hfield : field = .rootVariable
    · subst hfield
      cases hholds with
      | rootVariable hread => exact ne_empty_of_checkVariable hread
    · rw [hchange.rootVariable hfield]
      exact hs.rootVariable_ne
  exact ⟨hexecutable.1, hexecutable.2, hvariable, hs.override_proper.setField h⟩

/-- The default settings pass all checks themselves. -/
theorem lasts_isSound : Lasts IsSound where
  default := ⟨by decide, by decide, by decide, lasts_isProper.default⟩
  setField := IsSound.setField

/-! ## Section 2: Attempts -/

/-- The settings that are there at first. -/
inductive IsBuilt : Settings → Prop where
  /-- They are built from values. -/
  | values {given : Values} {s : Settings} : ofValues given = .ok s → IsBuilt s
  /-- The environment and overrides give them. -/
  | environment {env : Environment} {overrides : Values} {s : Settings} :
      fromOverrides env overrides = .ok s → IsBuilt s

theorem IsBuilt.of_lasts {P : Settings → Prop} (hP : Lasts P) (h : s.IsBuilt) : P s := by
  cases h with
  | values hbuilt => exact hP.ofValues hbuilt
  | environment hread => exact hP.fromOverrides hread

/-- An attempt to assign a value to a field. -/
structure Attempt where
  field : Field
  value : Json

/-- What an attempt comes to: the settings that stand afterwards, and the error
    if it fails.  Nothing is stored before the check has passed. -/
def attempt (s : Settings) (a : Attempt) : Settings × Option AssignError :=
  match s.assign (.toField a.field a.value) with
  | .ok s' => (s', none)
  | .error e => (s, some e)

/-- The settings after some attempts. -/
def after (s : Settings) (attempts : List Attempt) : Settings :=
  attempts.foldl (fun s a => (s.attempt a).1) s

/-- How an attempt can end. -/
inductive Answer (s : Settings) (a : Attempt) : Settings × Option AssignError → Prop where
  /-- The value passes: the field holds it, and nothing else changes. -/
  | taken {s' : Settings} : a.field.flaw? a.value = none → s'.Holds a.value a.field →
      ChangesOnly a.field s s' → Answer s a (s', none)
  /-- The value has a flaw, which is told with the name of the field and the
      value; the settings are what they were. -/
  | refused {flaw : Flaw} : a.field.flaw? a.value = some flaw →
      Answer s a (s, some (.complaint ⟨a.field.name, flaw, a.value⟩))

/-- One attempt, whatever the settings are. -/
theorem answer_attempt (s : Settings) (a : Attempt) : Answer s a (s.attempt a) := by
  unfold attempt
  rw [assign_field]
  rcases s.setField_cases a.field a.value with
    ⟨s', hset, hholds, hchange, hpasses⟩ | ⟨flaw, hset, hflaw⟩
  · rw [hset]
    exact .taken hpasses hholds hchange
  · rw [hset]
    exact .refused hflaw

theorem attempt_of_lasts {P : Settings → Prop} (hP : Lasts P) (hs : P s) (a : Attempt) :
    P (s.attempt a).1 := by
  unfold attempt
  split
  · rename_i hassign
    exact hP.assign hs hassign
  · exact hs

theorem after_of_lasts {P : Settings → Prop} (hP : Lasts P) (hs : P s) (attempts : List Attempt) :
    P (s.after attempts) := by
  induction attempts generalizing s with
  | nil => exact hs
  | cons a rest ih => exact ih (attempt_of_lasts hP hs a)

/-- Settings that were built or read are sound after every run of attempts,
    and the next attempt on them, with whatever value, is taken for its one
    field or refused without any change. -/
theorem sound_after_attempts (h : start.IsBuilt) (attempts : List Attempt) :
    (start.after attempts).IsSound ∧
      ∀ a, Answer (start.after attempts) a ((start.after attempts).attempt a) := by
  have hstart : start.IsSound := h.of_lasts lasts_isSound
  constructor
  · exact after_of_lasts lasts_isSound hstart attempts
  · intro a
    exact answer_attempt (start.after attempts) a

/-! ## Section 3: Four attempts -/

/-- Settings whose executable the environment names, with blanks around it. -/
def named : Settings :=
  { default with executable := "deno2" }

theorem isBuilt_named : named.IsBuilt := by
  have hread : fromOverrides ⟨[(executableVariable, " deno2 ")]⟩ [] = .ok named := rfl
  exact .environment hread

/-- A blank executable, a mode in words, a variable without a name, and another
    executable with blanks around it. -/
def tried : List Attempt :=
  [⟨.executable, .string (Glyph.ofString " \t")⟩, ⟨.unstable, .string (Glyph.ofString "On")⟩,
    ⟨.rootVariable, .string []⟩, ⟨.executable, .string (Glyph.ofString "\nd ")⟩]

/-- The second and the last attempt are taken; a number that is no mode is
    refused afterwards. -/
theorem sound_after_tried : named.IsBuilt ∧
    named.after tried = { named with executable := "d", unstable := true } ∧
    (named.after tried).IsSound ∧ Answer (named.after tried) ⟨.unstable, .integer 2⟩
      (named.after tried, some (.complaint ⟨"unstable", .unclearBool, .integer 2⟩)) := by
  obtain ⟨hsound, hanswers⟩ := sound_after_attempts isBuilt_named tried
  have hanswer := hanswers ⟨.unstable, .integer 2⟩
  exact ⟨isBuilt_named, rfl, hsound, hanswer⟩

end DenoBridge.Settings
