import DenoBridge.Proofs.Settings.Fields
import DenoBridge.Proofs.Text.Trim

/-! # Overrides and the environment

    Settings are built from what is given last for each field, and they are
    refused with one complaint for each field whose value has a flaw
    (`ofValues_eq_error_iff`).  What is read from the environment is given
    first and the overrides after it.  So an override hides the variable of its
    field, whatever stands in it, and an override that is null hides nothing;
    without overrides only a blank executable is refused
    (`overrides_prevail`).
-/

namespace DenoBridge.Settings

variable {field other : Field} {values values' overrides : Values} {env env' : Environment}

/-! ## Section 1: What is given -/

/-- What is given last for a field. -/
def given (values : Values) (field : Field) : Option Json :=
  values.reverse.lookup field.name

/-- What is wrong with what is given for a field. -/
def complaint? (values : Values) (field : Field) : Option Complaint :=
  (given values field).bind fun value =>
    (field.flaw? value).map fun flaw => ⟨field.name, flaw, value⟩

theorem given_append (values more : Values) (field : Field) :
    given (values ++ more) field = (given more field).or (given values field) := by
  unfold given
  rw [List.reverse_append, List.lookup_append]

theorem given_isSome {value : Json} (h : (field.name, value) ∈ values) :
    (given values field).isSome = true := by
  unfold given
  rw [List.lookup_isSome_iff]
  exact ⟨(field.name, value), List.mem_reverse.2 h, by simp⟩

/-- Settings depend on what is given last for each field, and on nothing else
    among the values. -/
theorem ofValues_congr (h : ∀ field, given values field = given values' field) :
    ofValues values = ofValues values' := by
  have htake : take values = take values' := by
    funext result field
    have hfield : values.reverse.lookup field.name = values'.reverse.lookup field.name := h field
    unfold take
    rw [hfield]
  unfold ofValues
  rw [htake]

theorem complaints_take (values : Values) (result : Settings × List Complaint) (field : Field) :
    (take values result field).2 = result.2 ++ (complaint? values field).toList := by
  unfold take complaint? given
  cases values.reverse.lookup field.name with
  | none => simp
  | some value =>
    rcases result.1.setField_cases field value with ⟨s', hset, -, -, hpasses⟩ | ⟨flaw, hset, hflaw⟩
    · simp [hset, hpasses]
    · simp [hset, hflaw]

theorem complaints_foldl_take (values : Values) (fields : List Field)
    (result : Settings × List Complaint) :
    (fields.foldl (take values) result).2 = result.2 ++ fields.filterMap (complaint? values) := by
  induction fields generalizing result with
  | nil => simp
  | cons field rest ih =>
    rw [List.foldl_cons, ih, complaints_take, List.append_assoc]
    cases hcomplaint : complaint? values field with
    | none => simp [hcomplaint]
    | some c => simp [hcomplaint]

/-- Values are refused when something is wrong with what is given for a field,
    with all the complaints in the order of the fields. -/
theorem ofValues_eq_error_iff {list : List Complaint} :
    ofValues values = .error list ↔ list ≠ [] ∧ Field.all.filterMap (complaint? values) = list := by
  have hcomplaints := complaints_foldl_take values Field.all (default, [])
  rw [List.nil_append] at hcomplaints
  rw [← hcomplaints]
  unfold ofValues
  split
  · rename_i heq
    rw [heq]
    constructor
    · intro habsurd
      cases habsurd
    · rintro ⟨hne, rfl⟩
      exact absurd rfl hne
  · rename_i complaints hne heq
    rw [heq]
    constructor
    · intro h
      obtain rfl := Except.error.inj h
      refine ⟨?_, rfl⟩
      rintro rfl
      exact hne rfl
    · rintro ⟨-, rfl⟩
      rfl

/-! ## Section 2: What the environment gives -/

/-- The variable that a field is read from, if it is read from one. -/
def Field.variableName? : Field → Option String
  | .executable => some executableVariable
  | .unstable => some unstableVariable
  | .cacheRootOverride | .rootVariable => none

/-- No two fields are read from one variable. -/
theorem Field.variableName?_inj {name : String} (h : field.variableName? = some name)
    (h' : other.variableName? = some name) : field = other := by
  have hsame : field.variableName? = other.variableName? := h.trans h'.symm
  have hsome : field.variableName? ≠ none := by simp [h]
  clear h h'
  revert hsame hsome
  cases field <;> cases other <;> decide

/-- What the text of the field's variable gives. -/
def Field.ofVariable? : Field → String → Option Json
  | .executable, text => if text = "" then none else some (.string (Glyph.ofString text))
  | .unstable, text => some (.bool (saysYes text))
  | .cacheRootOverride, _ | .rootVariable, _ => none

theorem Field.name_inj : field.name = other.name ↔ field = other := by
  cases field <;> cases other <;> decide

/-- A single member is given for its own field only. -/
theorem given_toList {α : Type} (found : Option α) (value : α → Json) (own field : Field) :
    given (found.map fun a => (own.name, value a)).toList field =
      if field = own then found.map value else none := by
  unfold given
  cases found with
  | none => simp
  | some a =>
    by_cases hown : field = own
    · simp [hown]
    · have hname : (field.name == own.name) = false := by
        simpa using fun h => hown (Field.name_inj.1 h)
      simp [hown, List.lookup_cons, hname]

theorem given_environment (env : Environment) (field : Field) :
    given (valuesOfEnvironment env) field =
      (field.variableName?.bind env.get?).bind field.ofVariable? := by
  show given (_ ++ _) field = _
  rw [given_append, given_toList, given_toList]
  cases field with
  | executable =>
    show ((env.nonEmpty? executableVariable).map _) = (env.get? executableVariable).bind _
    unfold Environment.nonEmpty?
    cases env.get? executableVariable with
    | none => rfl
    | some text => by_cases hempty : text = "" <;> simp [Option.filter, hempty, Field.ofVariable?]
  | unstable =>
    show ((env.get? unstableVariable).map _).or none = (env.get? unstableVariable).bind _
    cases env.get? unstableVariable with
    | none => rfl
    | some text => rfl
  | cacheRootOverride => rfl
  | rootVariable => rfl

/-! ## Section 3: Overrides -/

/-- All the names are names of fields. -/
def NamesFields (overrides : Values) : Prop :=
  ∀ member ∈ overrides, ∃ field : Field, field.name = member.1

/-- The overrides that are not null. -/
def present (overrides : Values) : Values :=
  overrides.filter (!isNull ·.2)

/-- The environments are the same but for the variable of a field. -/
def SameBut (field : Field) (env env' : Environment) : Prop :=
  ∀ name, field.variableName? ≠ some name → env.get? name = env'.get? name

theorem fromEnvironment_eq (env : Environment) (overrides : Values) :
    fromEnvironment env overrides = ofValues (valuesOfEnvironment env ++ present overrides) :=
  rfl

/-- The names of fields are not reserved. -/
theorem fromOverrides_eq (h : NamesFields overrides) (env : Environment) :
    fromOverrides env overrides = (fromEnvironment env overrides).mapError .complaints := by
  have hnone : overrides.find? (reservedNames.contains ·.1) = none := by
    rw [List.find?_eq_none]
    intro member hmember
    obtain ⟨field, hname⟩ := h member hmember
    rw [← hname]
    cases field <;> decide
  unfold fromOverrides
  rw [hnone]
  cases fromEnvironment env overrides with
  | ok s => rfl
  | error list => rfl

theorem present_append_null (before after : Values) (name : String) :
    present (before ++ (name, .null) :: after) = present (before ++ after) := by
  unfold present
  rw [List.filter_append, List.filter_append, List.filter_cons_of_neg]
  simp [isNull]

theorem NamesFields.append_null {before after : Values} {name : String}
    (h : NamesFields (before ++ (name, .null) :: after)) : NamesFields (before ++ after) := by
  intro member hmember
  apply h member
  rw [List.mem_append, List.mem_cons]
  rcases List.mem_append.1 hmember with hbefore | hafter
  · exact .inl hbefore
  · exact .inr (.inr hafter)

/-- What is given for a field does not depend on its variable where an override
    hides it. -/
theorem given_of_sameBut {value : Json} (hmember : (field.name, value) ∈ overrides)
    (hvalue : isNull value = false) (henv : SameBut field env env') (other : Field) :
    given (valuesOfEnvironment env ++ present overrides) other =
      given (valuesOfEnvironment env' ++ present overrides) other := by
  rw [given_append, given_append]
  by_cases hother : other = field
  · subst hother
    have hpresent : (other.name, value) ∈ present overrides :=
      List.mem_filter.2 ⟨hmember, by simp [hvalue]⟩
    obtain ⟨found, hfound⟩ := Option.isSome_iff_exists.1 (given_isSome hpresent)
    rw [hfound]
    rfl
  · -- The hidden variable is not the one of this field.
    have hget : other.variableName?.bind env.get? = other.variableName?.bind env'.get? := by
      cases hvariable : other.variableName? with
      | none => rfl
      | some name =>
        apply henv
        intro hsame
        exact hother (Field.variableName?_inj hvariable hsame)
    rw [given_environment, given_environment, hget]

theorem mem_of_given {value : Json} (h : given values field = some value) :
    (field.name, value) ∈ values := by
  obtain ⟨front, back, hvalues, -⟩ := List.lookup_eq_some_iff.1 h
  rw [← List.mem_reverse, hvalues]
  simp

/-! ## Section 4: A mode as the only override -/

/-- Nothing is overridden, except perhaps the mode by a boolean. -/
def OnlyMode (overrides : Values) : Prop :=
  ∀ member ∈ overrides, isNull member.2 = true ∨
    ∃ mode, member = (Field.unstable.name, .bool mode)

theorem OnlyMode.of_given (h : OnlyMode overrides) {value : Json}
    (hgiven : given (present overrides) field = some value) :
    field = .unstable ∧ ∃ mode, value = .bool mode := by
  obtain ⟨hmember, hvalue⟩ := List.mem_filter.1 (mem_of_given hgiven)
  rcases h _ hmember with hnull | ⟨mode, heq⟩
  · simp [hnull] at hvalue
  · obtain ⟨hname, hmode⟩ := Prod.mk.inj heq
    exact ⟨Field.name_inj.1 hname, mode, hmode⟩

/-- A mode that is a boolean has no flaw, wherever it comes from. -/
theorem OnlyMode.complaint?_unstable (h : OnlyMode overrides) (env : Environment) :
    complaint? (valuesOfEnvironment env ++ present overrides) .unstable = none := by
  -- An override is a boolean, and so is what the variable gives, whatever its text.
  unfold complaint?
  rw [given_append, given_environment]
  cases hgiven : given (present overrides) .unstable with
  | some value =>
    obtain ⟨-, mode, rfl⟩ := h.of_given hgiven
    rfl
  | none =>
    show ((env.get? unstableVariable).bind _).bind _ = none
    cases env.get? unstableVariable with
    | none => rfl
    | some text => rfl

theorem OnlyMode.given_eq (h : OnlyMode overrides) (env : Environment)
    (hfield : field ≠ .unstable) :
    given (valuesOfEnvironment env ++ present overrides) field =
      (field.variableName?.bind env.get?).bind field.ofVariable? := by
  rw [given_append, given_environment]
  cases hgiven : given (present overrides) field with
  | none => rfl
  | some value => exact absurd (h.of_given hgiven).1 hfield

/-- An executable that is a text is refused when it is blank. -/
theorem flaw?_executable (text : String) :
    Field.executable.flaw? (.string (Glyph.ofString text)) =
      if Text.trim text.toList = [] then some .blankExecutable else none := by
  have htext : (Json.string (Glyph.ofString text)).text? = some (Glyph.ofString text) := rfl
  unfold Field.flaw? checkExecutable
  dsimp only
  rw [htext]
  dsimp only
  rw [Glyph.stringOf_ofString]
  cases Text.trim text.toList with
  | nil => rfl
  | cons c rest => rfl

/-- Where at most the mode is overridden, a complaint can only be about the
    executable that the environment names. -/
theorem OnlyMode.complaints_eq (h : OnlyMode overrides) (env : Environment) :
    Field.all.filterMap (complaint? (valuesOfEnvironment env ++ present overrides)) =
      (complaint? (valuesOfEnvironment env ++ present overrides) .executable).toList := by
  have hroot :
      complaint? (valuesOfEnvironment env ++ present overrides) .cacheRootOverride = none := by
    unfold complaint?
    rw [h.given_eq env (by decide)]
    rfl
  have hname : complaint? (valuesOfEnvironment env ++ present overrides) .rootVariable = none := by
    unfold complaint?
    rw [h.given_eq env (by decide)]
    rfl
  have hmode := h.complaint?_unstable env
  unfold Field.all
  cases hexecutable : complaint? (valuesOfEnvironment env ++ present overrides) .executable with
  | none => simp [hexecutable, hroot, hname, hmode]
  | some c => simp [hexecutable, hroot, hname, hmode]

theorem OnlyMode.fails_iff (h : OnlyMode overrides) (env : Environment) :
    (∃ list, fromEnvironment env overrides = .error list) ↔
      ∃ text, env.get? executableVariable = some text ∧ text ≠ "" ∧
        ∀ c ∈ text.toList, Text.isBlank c = true := by
  simp only [fromEnvironment_eq, ofValues_eq_error_iff, h.complaints_eq]
  unfold complaint?
  rw [h.given_eq env (by decide)]
  show (∃ list, list ≠ [] ∧ ((((env.get? executableVariable).bind _).bind _).toList) = list) ↔ _
  cases env.get? executableVariable with
  | none => simp
  | some text =>
    by_cases hempty : text = ""
    · simp [hempty, Field.ofVariable?]
    · -- A text that is not empty is given as it is, and its check trims it.
      by_cases hblank : Text.trim text.toList = []
      · simpa [hempty, Field.ofVariable?, flaw?_executable, hblank] using
          Text.trim_eq_nil_iff.1 hblank
      · simpa [hempty, Field.ofVariable?, flaw?_executable, hblank] using
          mt Text.trim_eq_nil_iff.2 hblank

/-! ## Section 5: What prevails -/

/-- Overrides and the environment, for all overrides that name fields.  An
    override that is null might as well be left out; one that is not hides the
    variable of its field, even where this holds something that would be
    refused; where no variable is set, reading the environment is building from
    what is not null; and if at most the mode is overridden, by a boolean, the
    only thing that is refused is an executable of blanks. -/
theorem overrides_prevail (env : Environment) (overrides : Values) (h : NamesFields overrides) :
    (∀ before name after, overrides = before ++ (name, .null) :: after →
      fromOverrides env overrides = fromOverrides env (before ++ after)) ∧
    (∀ field value env', (field.name, value) ∈ overrides → isNull value = false →
      SameBut field env env' → fromOverrides env overrides = fromOverrides env' overrides) ∧
    (env.get? executableVariable = none → env.get? unstableVariable = none →
      fromOverrides env overrides = (ofValues (present overrides)).mapError .complaints) ∧
    (OnlyMode overrides → ((∃ e, fromOverrides env overrides = .error e) ↔
      ∃ text, env.get? executableVariable = some text ∧ text ≠ "" ∧
        ∀ c ∈ text.toList, Text.isBlank c = true)) := by
  refine ⟨?_, ?_, ?_, ?_⟩
  · rintro before name after rfl
    rw [fromOverrides_eq h, fromOverrides_eq h.append_null, fromEnvironment_eq, fromEnvironment_eq,
      present_append_null]
  · intro field value env' hmember hvalue henv
    rw [fromOverrides_eq h, fromOverrides_eq h, fromEnvironment_eq, fromEnvironment_eq,
      ofValues_congr (given_of_sameBut hmember hvalue henv)]
  · intro hexecutable hunstable
    have hnothing : valuesOfEnvironment env = [] := by
      unfold valuesOfEnvironment Environment.nonEmpty?
      rw [hexecutable, hunstable]
      rfl
    rw [fromOverrides_eq h, fromEnvironment_eq, hnothing, List.nil_append]
  · intro hmode
    rw [← hmode.fails_iff env, fromOverrides_eq h]
    cases fromEnvironment env overrides with
    | ok s => simp [Except.mapError]
    | error list => simp [Except.mapError]

/-! ## Section 6: A blank variable -/

/-- An environment whose executable is blank. -/
def blankNamed : Environment :=
  ⟨[(executableVariable, " \t"), (unstableVariable, " Yes")]⟩

/-- An executable, and a mode that is null. -/
def hidingBlank : Values :=
  [(Field.executable.name, .string (Glyph.ofString "d")), (Field.unstable.name, .null)]

theorem namesFields_hidingBlank : NamesFields hidingBlank := by
  intro member hmember
  rcases List.mem_cons.1 hmember with rfl | hrest
  · exact ⟨.executable, rfl⟩
  · obtain rfl := List.mem_singleton.1 hrest
    exact ⟨.unstable, rfl⟩

theorem sameBut_blankNamed :
    SameBut .executable blankNamed ⟨[(unstableVariable, " Yes")]⟩ := by
  intro name hname
  have hne : (name == executableVariable) = false := by
    simpa using fun h => hname (congrArg some h.symm)
  simp [Environment.get?, blankNamed, List.lookup_cons, hne]

theorem onlyMode_bool (mode : Bool) : OnlyMode [(Field.unstable.name, .bool mode)] := by
  intro member hmember
  exact .inr ⟨mode, List.mem_singleton.1 hmember⟩

/-- The blank executable is hidden by one that is not, and refused behind a mode
    alone. -/
theorem blank_variable_hidden : NamesFields hidingBlank ∧
    fromOverrides blankNamed hidingBlank = fromOverrides blankNamed (hidingBlank.take 1) ∧
    fromOverrides blankNamed hidingBlank =
      fromOverrides ⟨[(unstableVariable, " Yes")]⟩ hidingBlank ∧
    fromOverrides blankNamed hidingBlank =
      .ok { default with executable := "d", unstable := true } ∧
    fromOverrides .empty hidingBlank = (ofValues (hidingBlank.take 1)).mapError .complaints ∧
    ∃ e, fromOverrides blankNamed [(Field.unstable.name, .bool true)] = .error e := by
  have hnames := namesFields_hidingBlank
  obtain ⟨hnull, hhides, -, -⟩ := overrides_prevail blankNamed hidingBlank hnames
  obtain ⟨-, -, hnothing, -⟩ := overrides_prevail .empty hidingBlank hnames
  have hmode : NamesFields [(Field.unstable.name, .bool true)] := by
    intro member hmember
    obtain rfl := List.mem_singleton.1 hmember
    exact ⟨.unstable, rfl⟩
  obtain ⟨-, -, -, hfails⟩ := overrides_prevail blankNamed _ hmode
  refine ⟨hnames, ?_, ?_, rfl, ?_, ?_⟩
  · exact hnull (hidingBlank.take 1) Field.unstable.name [] rfl
  · exact hhides .executable _ _ List.mem_cons_self rfl sameBut_blankNamed
  · exact hnothing rfl rfl
  · exact (hfails (onlyMode_bool true)).2 ⟨" \t", rfl, by decide, by decide⟩

end DenoBridge.Settings
