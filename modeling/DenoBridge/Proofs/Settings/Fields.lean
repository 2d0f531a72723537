import DenoBridge.Proofs.Results
import DenoBridge.Settings

/-! # Fields of settings

    What a value does to a field is said once (`setField_cases`).  Either the
    value passes the check of the field, and then the settings hold what it
    reads as and are otherwise the same, or it has a flaw that depends on the
    field and the value alone.  From this follows what settings have in common
    however they come about: a property of the default settings that every
    passing value keeps (`Lasts`) holds of all that are built, read from the
    environment or assigned to.
-/

namespace DenoBridge.Settings

variable {s s' : Settings} {field : Field} {value : Json} {a : Assignment}

/-! ## Section 1: One field -/

/-- The second settings are the first with at most this field changed. -/
structure ChangesOnly (field : Field) (s s' : Settings) : Prop where
  executable : field ≠ .executable → s'.executable = s.executable
  cacheRootOverride : field ≠ .cacheRootOverride → s'.cacheRootOverride = s.cacheRootOverride
  unstable : field ≠ .unstable → s'.unstable = s.unstable
  rootVariable : field ≠ .rootVariable → s'.rootVariable = s.rootVariable

/-- The settings hold in a field what a value reads as. -/
inductive Holds (s : Settings) (value : Json) : Field → Prop where
  | executable : checkExecutable value = .ok s.executable → Holds s value .executable
  | cacheRootOverride :
    checkOverride value = .ok s.cacheRootOverride → Holds s value .cacheRootOverride
  | unstable : checkBool value = .ok s.unstable → Holds s value .unstable
  | rootVariable : checkVariable value = .ok s.rootVariable → Holds s value .rootVariable

/-- The flaw of a value for a field, if it has one. -/
def Field.flaw? : Field → Json → Option Flaw
  | .executable, value => failure? (checkExecutable value)
  | .cacheRootOverride, value => failure? (checkOverride value)
  | .unstable, value => failure? (checkBool value)
  | .rootVariable, value => failure? (checkVariable value)

/-- A value that is read either gives what is put in its place, or its flaw. -/
theorem map_cases {α : Type} (read : Except Flaw α) (put : α → Settings) :
    (∃ a, read = .ok a ∧ read.map put = .ok (put a) ∧ failure? read = none) ∨
      ∃ flaw, read.map put = .error flaw ∧ failure? read = some flaw := by
  cases read with
  | ok a => exact .inl ⟨a, rfl, rfl, rfl⟩
  | error flaw => exact .inr ⟨flaw, rfl, rfl⟩

/-- What a value does to a field: the settings take it and change nowhere else,
    or it is refused for its flaw. -/
theorem setField_cases (s : Settings) (field : Field) (value : Json) :
    (∃ s', s.setField field value = .ok s' ∧ s'.Holds value field ∧ ChangesOnly field s s' ∧
        field.flaw? value = none) ∨
      ∃ flaw, s.setField field value = .error flaw ∧ field.flaw? value = some flaw := by
  -- Reading the value can fail; what is read goes into the one field and no other.
  cases field with
  | executable =>
    rcases map_cases (checkExecutable value) fun text => { s with executable := text } with
      ⟨text, hread, hmap, hnone⟩ | hflaw
    · have hchange : ChangesOnly .executable s { s with executable := text } :=
        ⟨fun hne => absurd rfl hne, fun _ => rfl, fun _ => rfl, fun _ => rfl⟩
      exact .inl ⟨_, hmap, .executable hread, hchange, hnone⟩
    · exact .inr hflaw
  | cacheRootOverride =>
    rcases map_cases (checkOverride value) fun path => { s with cacheRootOverride := path } with
      ⟨path, hread, hmap, hnone⟩ | hflaw
    · have hchange : ChangesOnly .cacheRootOverride s { s with cacheRootOverride := path } :=
        ⟨fun _ => rfl, fun hne => absurd rfl hne, fun _ => rfl, fun _ => rfl⟩
      exact .inl ⟨_, hmap, .cacheRootOverride hread, hchange, hnone⟩
    · exact .inr hflaw
  | unstable =>
    rcases map_cases (checkBool value) fun mode => { s with unstable := mode } with
      ⟨mode, hread, hmap, hnone⟩ | hflaw
    · have hchange : ChangesOnly .unstable s { s with unstable := mode } :=
        ⟨fun _ => rfl, fun _ => rfl, fun hne => absurd rfl hne, fun _ => rfl⟩
      exact .inl ⟨_, hmap, .unstable hread, hchange, hnone⟩
    · exact .inr hflaw
  | rootVariable =>
    rcases map_cases (checkVariable value) fun name => { s with rootVariable := name } with
      ⟨name, hread, hmap, hnone⟩ | hflaw
    · have hchange : ChangesOnly .rootVariable s { s with rootVariable := name } :=
        ⟨fun _ => rfl, fun _ => rfl, fun _ => rfl, fun hne => absurd rfl hne⟩
      exact .inl ⟨_, hmap, .rootVariable hread, hchange, hnone⟩
    · exact .inr hflaw

theorem of_setField (h : s.setField field value = .ok s') :
    s'.Holds value field ∧ ChangesOnly field s s' := by
  rcases s.setField_cases field value with ⟨t, hset, hholds, hchange, -⟩ | ⟨flaw, hset, -⟩
  · rw [hset] at h
    obtain rfl := Except.ok.inj h
    exact ⟨hholds, hchange⟩
  · rw [hset] at h
    cases h

/-! ## Section 2: Assignment by name -/

theorem name_of_ofName? {name : String} (h : Field.ofName? name = some field) : field.name = name := by
  have hfound := List.find?_some h
  simpa using hfound

/-- Names that begin with an underscore are no names of fields. -/
theorem eq_of_assignAside (h : s.assignAside a = .ok s') : s' = s := by
  unfold assignAside at h
  split at h
  · cases h
  · split at h
    · cases h
    · exact (Except.ok.inj h).symm

/-- An assignment that succeeds changes nothing, or it sets the field of this
    name. -/
theorem setField_of_assign (h : s.assign a = .ok s') :
    s' = s ∨ ∃ field : Field, field.name = a.name ∧ s.setField field a.value = .ok s' := by
  unfold assign at h
  split at h
  · cases h
  split at h
  · cases h
  split at h
  · exact .inl (eq_of_assignAside h)
  split at h
  · cases h
  · rename_i field hfield
    split at h
    · rename_i assigned hset
      obtain rfl := Except.ok.inj h
      exact .inr ⟨field, name_of_ofName? hfield, hset⟩
    · cases h

/-- A successful assignment changes nothing, or the field of this name and no
    other. -/
theorem changesOnly_of_assign (h : s.assign a = .ok s') :
    s' = s ∨ ∃ field : Field, field.name = a.name ∧ ChangesOnly field s s' := by
  rcases setField_of_assign h with rfl | ⟨field, hname, hset⟩
  · exact .inl rfl
  · exact .inr ⟨field, hname, (of_setField hset).2⟩

/-- Under the name of a field that field is set, and a flaw is told with the
    name and the value. -/
theorem assign_field (s : Settings) (field : Field) (value : Json) :
    s.assign (.toField field value) = match s.setField field value with
      | .ok s' => .ok s'
      | .error flaw => .error (.complaint ⟨field.name, flaw, value⟩) := by
  have hfield : Field.ofName? field.name = some field := by cases field <;> rfl
  have hcomputed : computedNames.contains field.name = false := by cases field <;> rfl
  have hfixed : fixedNames.contains field.name = false := by cases field <;> rfl
  have haside : field.name.toList.head? ≠ some '_' := by cases field <;> decide
  have hne : ¬ false = true := Bool.false_ne_true
  unfold assign Assignment.toField
  dsimp only
  rw [hcomputed, hfixed, if_neg hne, if_neg hne, if_neg haside]
  cases hset : s.setField field value with
  | ok s' => simp only [hfield, hset]
  | error flaw => simp only [hfield, hset]

/-! ## Section 3: What settings have in common -/

/-- The default settings have the property, and every value that passes its
    check keeps it. -/
structure Lasts (P : Settings → Prop) : Prop where
  default : P default
  setField {s s' : Settings} {field : Field} {value : Json} :
    P s → s.setField field value = .ok s' → P s'

namespace Lasts

variable {P : Settings → Prop}

theorem take (hP : Lasts P) {values : Values} {result : Settings × List Complaint}
    (h : P result.1) (field : Field) : P (Settings.take values result field).1 := by
  unfold Settings.take
  split
  · exact h
  · split
    · rename_i hset
      exact hP.setField h hset
    · exact h

theorem foldl_take (hP : Lasts P) {result : Settings × List Complaint} (h : P result.1)
    (values : Values) (fields : List Field) :
    P (fields.foldl (Settings.take values) result).1 := by
  induction fields generalizing result with
  | nil => exact h
  | cons field rest ih => exact ih (hP.take h field)

theorem ofValues (hP : Lasts P) {values : Values} (h : Settings.ofValues values = .ok s) :
    P s := by
  have hfold : P (Field.all.foldl (Settings.take values) (Settings.default, [])).1 :=
    hP.foldl_take hP.default values Field.all
  unfold Settings.ofValues at h
  split at h
  · rename_i heq
    obtain rfl := Except.ok.inj h
    rw [heq] at hfold
    exact hfold
  · cases h

theorem fromOverrides (hP : Lasts P) {env : Environment} {overrides : Values}
    (h : Settings.fromOverrides env overrides = .ok s) : P s := by
  unfold Settings.fromOverrides at h
  split at h
  · cases h
  · split at h
    · rename_i hread
      obtain rfl := Except.ok.inj h
      exact hP.ofValues hread
    · cases h

theorem assign (hP : Lasts P) (hs : P s) (h : s.assign a = .ok s') : P s' := by
  rcases setField_of_assign h with rfl | ⟨field, -, hset⟩
  · exact hs
  · exact hP.setField hs hset

end Lasts

end DenoBridge.Settings
