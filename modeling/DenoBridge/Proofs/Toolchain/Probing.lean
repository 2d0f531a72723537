import DenoBridge.Proofs.Json.Lexing
import DenoBridge.Proofs.Machine.Starting
import DenoBridge.Proofs.Text.Utf8
import DenoBridge.Proofs.Toolchain.Answers
import DenoBridge.Proofs.Version.Excess

/-! # Asking without failing

    A toolchain that is missing, does not start or does not end well gives no
    answer, and neither does one that prints what cannot be used.  A question
    fails for one reason alone: what the toolchain prints for its versions is
    too much to read (`answered_unless_excessive`).
-/

namespace DenoBridge

/-! ## Section 1: Captured text -/

theorem Text.unifyLineEnds_eq_nil_iff {text : List Char} :
    Text.unifyLineEnds text = [] ↔ text = [] := by
  constructor
  · intro h
    unfold Text.unifyLineEnds at h
    split at h
    · rfl
    all_goals cases h
  · rintro rfl
    rfl

theorem Text.unifyLineEnds_append {text : List Char} (h : '\r' ∉ text) (rest : List Char) :
    Text.unifyLineEnds (text ++ rest) = text ++ Text.unifyLineEnds rest := by
  induction text with
  | nil => rfl
  | cons c more ih =>
    rw [List.mem_cons, not_or] at h
    have hc : c ≠ '\r' := Ne.symm h.1
    rw [List.cons_append, Text.unifyLineEnds.eq_4 c _ (fun _ heq => absurd heq hc)
      (fun heq => absurd heq hc), ih h.2, List.cons_append]

theorem Text.unifyLineEnds_of_not_mem {text : List Char} (h : '\r' ∉ text) :
    Text.unifyLineEnds text = text := by
  have happend := Text.unifyLineEnds_append h []
  rwa [List.append_nil, Text.unifyLineEnds, List.append_nil] at happend

/-- The text of captured bytes is empty when there are none, and only then. -/
theorem Machine.decodeText_eq_empty_iff {bytes : Bytes} :
    Machine.decodeText bytes = .ok "" ↔ bytes = [] := by
  rw [← Utf8.decode_eq_nil_iff]
  unfold Machine.decodeText
  cases Utf8.decode bytes with
  | error fault => simp
  | ok text => simp [Text.unifyLineEnds_eq_nil_iff]

/-- ASCII without carriage returns is captured byte by byte. -/
theorem Machine.decodeText_ascii {bytes : Bytes} (h : Utf8.IsAscii bytes)
    (hreturn : '\r' ∉ Utf8.charsOf bytes) :
    Machine.decodeText bytes = .ok (String.ofList (Utf8.charsOf bytes)) := by
  unfold Machine.decodeText
  rw [Utf8.decode_ascii h]
  dsimp only
  rw [Text.unifyLineEnds_of_not_mem hreturn]

namespace Toolchain

variable {s : Settings} {m m' : Machine} {arguments : List String} {child : ChildResult}

/-! ## Section 2: What a child delivers -/

/-- A child was started to answer, with these arguments, and ended well. -/
def Delivers (s : Settings) (m : Machine) (arguments : List String) (child : ChildResult)
    (m' : Machine) : Prop :=
  ∃ path program, executable m s = some path ∧ m.resolve path.text = .ok program ∧
    m.spawn program arguments .null = (.ok child, m') ∧ child.ending.status = 0

theorem execute_of_delivers (h : Delivers s m arguments child m') :
    ∃ path program, executable m s = some path ∧ m.execute (path.text :: arguments) .null =
      (.ok ⟨program, arguments, 0, child.output, child.errors⟩, m') := by
  obtain ⟨path, program, hpath, hresolve, hspawn, hstatus⟩ := h
  refine ⟨path, program, hpath, ?_⟩
  unfold Machine.execute
  dsimp only
  rw [hresolve]
  dsimp only
  rw [hspawn, ← hstatus]

theorem aged_of_delivers (h : Delivers s m arguments child m') : Machine.Aged m m' := by
  obtain ⟨path, program, -, -, hspawn, -⟩ := h
  have hage := m.aged_spawn program arguments .null
  rwa [hspawn] at hage

/-- The two texts that a child wrote answer the question. -/
theorem queryText_of_delivers (h : Delivers s m arguments child m') {output errors : String}
    (houtput : Machine.decodeText child.output = .ok output)
    (herrors : Machine.decodeText child.errors = .ok errors) :
    ∃ program, queryText s arguments m = (some ⟨program, arguments, 0, output, errors⟩, m') := by
  obtain ⟨path, program, hpath, hexecute⟩ := execute_of_delivers h
  refine ⟨program, ?_⟩
  have htext : Machine.asText ⟨program, arguments, 0, child.output, child.errors⟩ =
      .ok ⟨program, arguments, 0, output, errors⟩ := by
    unfold Machine.asText
    dsimp only
    rw [houtput, herrors]
    rfl
  unfold queryText query
  rw [hpath]
  dsimp only
  unfold Machine.runText
  rw [hexecute]
  dsimp only
  rw [htext]
  rfl

/-- So do its bytes. -/
theorem queryBytes_of_delivers (h : Delivers s m arguments child m') :
    ∃ program, queryBytes s arguments m =
      (some ⟨program, arguments, 0, child.output, child.errors⟩, m') := by
  obtain ⟨path, program, hpath, hexecute⟩ := execute_of_delivers h
  refine ⟨program, ?_⟩
  unfold queryBytes query
  rw [hpath]
  dsimp only
  unfold Machine.runBytes
  rw [hexecute]
  rfl

/-- An answer is what a child delivered. -/
theorem of_queryText {done : Completed String} (h : queryText s arguments m = (some done, m')) :
    ∃ child, Delivers s m arguments child m' ∧
      Machine.decodeText child.output = .ok done.output ∧
      Machine.decodeText child.errors = .ok done.errors := by
  obtain ⟨path, hpath, hrun⟩ := of_query h
  obtain ⟨program, child, hresolve, hspawn, hstatus, htexts⟩ := of_runText hrun
  exact ⟨child, ⟨path, program, hpath, hresolve, hspawn, hstatus⟩, htexts⟩

/-- Where no child delivers there is no answer. -/
theorem queryText_of_undelivered (h : ¬ ∃ child m', Delivers s m arguments child m') :
    ∃ m', queryText s arguments m = (none, m') := by
  rcases hquery : queryText s arguments m with ⟨answer, m'⟩
  cases answer with
  | none => exact ⟨m', rfl⟩
  | some done =>
    obtain ⟨child, hdelivers, -⟩ := of_queryText hquery
    exact absurd ⟨child, m', hdelivers⟩ h

/-! ## Section 3: Versions -/

/-- The toolchain prints the text when it is asked for its versions, and
    nothing to standard error. -/
def PrintsPayload (s : Settings) (m : Machine) (payload : String) (m' : Machine) : Prop :=
  ∃ child, Delivers s m ["eval", versionScript] child m' ∧ child.errors = [] ∧
    Machine.decodeText child.output = .ok payload

theorem version_of_prints {payload : String} (h : PrintsPayload s m payload m') :
    version s m = readPayload payload m' := by
  obtain ⟨child, hdelivers, hsilent, houtput⟩ := h
  obtain ⟨program, hquery⟩ := queryText_of_delivers hdelivers houtput
    (Machine.decodeText_eq_empty_iff.2 hsilent)
  unfold version
  rw [hquery]
  rfl

theorem nesting_of_prints {payload : String} (h : PrintsPayload s m payload m') :
    m'.nesting = m.nesting := by
  obtain ⟨child, hdelivers, -⟩ := h
  exact (aged_of_delivers hdelivers).nesting_eq

/-- A payload is read, or there are no versions. -/
theorem version_cases (s : Settings) (m : Machine) :
    (∃ payload m', PrintsPayload s m payload m' ∧ version s m = readPayload payload m') ∨
      (¬ (∃ payload m', PrintsPayload s m payload m') ∧ (version s m).1 = .ok none) := by
  by_cases hprints : ∃ payload m', PrintsPayload s m payload m'
  · obtain ⟨payload, m', hpayload⟩ := hprints
    exact .inl ⟨payload, m', hpayload, version_of_prints hpayload⟩
  · refine .inr ⟨hprints, ?_⟩
    -- An answer without a payload is one with a word on standard error.
    unfold version
    rcases hquery : queryText s ["eval", versionScript] m with ⟨answer, m'⟩
    cases answer with
    | none => rfl
    | some done =>
      dsimp only
      by_cases hsilent : done.errors = ""
      · obtain ⟨child, hdelivers, houtput, herrors⟩ := of_queryText hquery
        rw [hsilent] at herrors
        exact absurd ⟨done.output, m', child, hdelivers,
          Machine.decodeText_eq_empty_iff.1 herrors, houtput⟩ hprints
      · rw [if_pos hsilent]

theorem readPayload_eq (payload : String) (m : Machine) :
    (readPayload payload m).1 = VersionReport.parse m.nesting payload := by
  unfold readPayload VersionReport.parse
  cases VersionReport.read m.nesting payload with
  | error excess => rfl
  | ok reading =>
    dsimp only
    split <;> rfl

/-- Whatever comes of asking for the versions comes of a payload. -/
theorem version_eq_iff {answer : Except VersionReport.Excess (Option VersionReport)}
    (h : answer ≠ .ok none) : (version s m).1 = answer ↔
      ∃ payload m', PrintsPayload s m payload m' ∧
        VersionReport.parse m.nesting payload = answer := by
  constructor
  · rintro rfl
    rcases version_cases s m with ⟨payload, m', hprints, hversion⟩ | ⟨-, hnone⟩
    · refine ⟨payload, m', hprints, ?_⟩
      rw [hversion, readPayload_eq, nesting_of_prints hprints]
    · exact absurd hnone h
  · rintro ⟨payload, m', hprints, rfl⟩
    rw [version_of_prints hprints, readPayload_eq, nesting_of_prints hprints]

/-! ## Section 4: What is too much -/

/-- What the toolchain prints for its versions is too much to read. -/
def PrintsExcess (s : Settings) (m : Machine) (excess : VersionReport.Excess) : Prop :=
  ∃ payload m', PrintsPayload s m payload m' ∧
    Json.TooMuch m.nesting (Json.lex payload.toList) excess.failure

/-- The toolchain reports a version with a number that has too many digits. -/
def ReportsTooMany (s : Settings) (m : Machine) (refusal : Digits.TooMany) : Prop :=
  ∃ payload m' report deno spelling, PrintsPayload s m payload m' ∧
    VersionReport.read m.nesting payload = .ok (.found report) ∧
    report.deno = Glyph.ofString deno ∧
    Version.Spelling.parse deno.toList = some spelling ∧ spelling.tooMany? = some refusal

theorem version_error_iff {excess : VersionReport.Excess} :
    (version s m).1 = .error excess ↔ PrintsExcess s m excess := by
  have hne : (.error excess : Except _ (Option VersionReport)) ≠ .ok none :=
    fun habsurd => nomatch habsurd
  rw [version_eq_iff hne]
  simp only [VersionReport.parse_eq_error_iff]
  rfl

theorem reportsTooMany_iff {refusal : Digits.TooMany} : ReportsTooMany s m refusal ↔
    ∃ report, (version s m).1 = .ok (some report) ∧
      typeArguments true (some report) = .error refusal := by
  have hversion (report : VersionReport) : (version s m).1 = .ok (some report) ↔
      ∃ payload m', PrintsPayload s m payload m' ∧
        VersionReport.read m.nesting payload = .ok (.found report) := by
    rw [version_eq_iff (by simp)]
    simp only [VersionReport.parse_eq_some_iff]
  constructor
  · rintro ⟨payload, m', report, deno, spelling, hprints, hread, hspelling⟩
    exact ⟨report, (hversion report).2 ⟨payload, m', hprints, hread⟩,
      typeArguments_error_iff.2 ⟨rfl, deno, spelling, hspelling⟩⟩
  · rintro ⟨report, hreport, harguments⟩
    obtain ⟨payload, m', hprints, hread⟩ := (hversion report).1 hreport
    obtain ⟨-, deno, spelling, hspelling⟩ := typeArguments_error_iff.1 harguments
    exact ⟨payload, m', report, deno, spelling, hprints, hread, hspelling⟩

/-- Asking for declarations fails when asking for the versions does, or when
    the version that the unstable declarations depend on is refused. -/
theorem typeDeclarations_error_iff {unstable : Bool} {excess : VersionReport.Excess} :
    (typeDeclarations s unstable m).1 = .error excess ↔
      PrintsExcess s m excess ∨
        unstable = true ∧ ∃ refusal, excess = .digits refusal ∧ ReportsTooMany s m refusal := by
  simp only [← version_error_iff, reportsTooMany_iff]
  unfold typeDeclarations
  rcases version s m with ⟨answer, asked⟩
  cases answer with
  | error e => simp
  | ok found =>
    cases found with
    | none => simp
    | some report =>
      dsimp only
      cases harguments : typeArguments unstable (some report) with
      | error refusal =>
        -- The stable declarations never depend on the version.
        obtain ⟨rfl, -⟩ := typeArguments_error_iff.1 harguments
        simp [harguments, eq_comm]
      | ok arguments =>
        constructor
        · intro habsurd
          dsimp only at habsurd
          split at habsurd <;> cases habsurd
        · rintro (habsurd | ⟨rfl, refusal, -, report', hreport, hrefused⟩)
          · cases habsurd
          · obtain rfl := Option.some.inj (Except.ok.inj hreport)
            rw [harguments] at hrefused
            cases hrefused

/-! ## Section 5: Questions -/

/-- What the toolchain is asked for. -/
inductive Question where
  | executable
  | version
  | typeDeclarations (unstable : Bool)
  | reportedRoot

namespace Question

/-- What there is to answer. -/
def Answer : Question → Type
  | executable | reportedRoot => Path
  | version => VersionReport
  | typeDeclarations _ => Bytes

/-- What comes of a question: an answer, none, or a failure. -/
def ask (s : Settings) (m : Machine) :
    (question : Question) → Except VersionReport.Excess (Option question.Answer)
  | executable => .ok (Toolchain.executable m s)
  | version => (Toolchain.version s m).1
  | typeDeclarations unstable => (Toolchain.typeDeclarations s unstable m).1
  | reportedRoot => .ok (Toolchain.reportedRoot s m).1

/-- The arguments that a question runs the toolchain with first, if it runs
    it. -/
def arguments? : Question → Option (List String)
  | executable => none
  | version | typeDeclarations _ => some ["eval", versionScript]
  | reportedRoot => some ["info"]

/-- What the question depends on is too much to read. -/
def MeetsExcess (s : Settings) (m : Machine) (excess : VersionReport.Excess) : Question → Prop
  | executable | reportedRoot => False
  | version => PrintsExcess s m excess
  | typeDeclarations unstable => PrintsExcess s m excess ∨
      unstable = true ∧ ∃ refusal, excess = .digits refusal ∧ ReportsTooMany s m refusal

/-- Where no child delivers there is no answer. -/
theorem ask_of_undelivered {question : Question} (harguments : question.arguments? = some arguments)
    (h : ¬ ∃ child m', Delivers s m arguments child m') : question.ask s m = .ok none := by
  cases question with
  | executable => cases harguments
  | version =>
    obtain rfl := Option.some.inj harguments
    obtain ⟨m', hquery⟩ := queryText_of_undelivered h
    show (Toolchain.version s m).1 = .ok none
    unfold Toolchain.version
    rw [hquery]
  | typeDeclarations unstable =>
    -- Without versions the declarations are not asked for.
    obtain rfl := Option.some.inj harguments
    obtain ⟨m', hquery⟩ := queryText_of_undelivered h
    show (Toolchain.typeDeclarations s unstable m).1 = .ok none
    unfold Toolchain.typeDeclarations Toolchain.version
    rw [hquery]
  | reportedRoot =>
    obtain rfl := Option.some.inj harguments
    obtain ⟨m', hquery⟩ := queryText_of_undelivered h
    show Except.ok (Toolchain.reportedRoot s m).1 = .ok none
    unfold Toolchain.reportedRoot
    rw [hquery]

end Question

/-! ## Section 6: A long number, and a killed toolchain -/

section Serving

variable {result : ChildResult}

theorem delivers_of_serves (hserves : m.Serves result) (hexecutable : s.executable = "/deno")
    (hended : result.ending = .exited 0) (harguments : ∀ word ∈ arguments, '\x00' ∉ word.toList) :
    Delivers s m arguments result m := by
  have htext : Path.text ⟨.root, ["deno"]⟩ = "/deno" := by decide
  have hexecute := hserves.execute_eq harguments .null
  obtain ⟨program, child, hresolve, hspawn, -⟩ := of_execute hexecute
  -- The path of the executable is absolute and resolves to itself.
  obtain rfl := hserves.of_spawn hspawn
  refine ⟨⟨.root, ["deno"]⟩, program, executable_of_serves hexecutable hserves, ?_, hspawn, ?_⟩
  · rw [htext]
    exact hresolve
  · rw [hended]
    rfl

theorem status_of_serves (hserves : m.Serves result) (h : Delivers s m arguments child m') :
    result.ending.status = 0 := by
  obtain ⟨path, program, -, -, hspawn, hstatus⟩ := h
  obtain rfl := hserves.of_spawn hspawn
  exact hstatus

/-- A program that prints a report, whatever it is asked, has these versions. -/
theorem version_of_serves (hserves : m.Serves result) (hexecutable : s.executable = "/deno")
    (hended : result.ending = .exited 0) (hsilent : result.errors = []) {payload : String}
    (hpayload : Machine.decodeText result.output = .ok payload) {report : VersionReport}
    (hparse : VersionReport.parse m.nesting payload = .ok (some report)) :
    version s m = (.ok (some report), m) := by
  have hdelivers : Delivers s m ["eval", versionScript] result m :=
    delivers_of_serves hserves hexecutable hended (by decide)
  rw [version_of_prints ⟨result, hdelivers, hsilent, hpayload⟩]
  unfold readPayload
  rw [VersionReport.parse_eq_some_iff.1 hparse]
  rfl

/-- It declares the same report. -/
theorem typeDeclarations_of_serves (hserves : m.Serves result) (hexecutable : s.executable = "/deno")
    (hended : result.ending = .exited 0) (hsilent : result.errors = []) {payload : String}
    (hpayload : Machine.decodeText result.output = .ok payload) {report : VersionReport}
    (hparse : VersionReport.parse m.nesting payload = .ok (some report)) {unstable : Bool}
    (harguments : typeArguments unstable (some report) = .ok arguments)
    (hwords : ∀ word ∈ arguments, '\x00' ∉ word.toList) :
    typeDeclarations s unstable m = (.ok (some result.output), m) := by
  have hversion := version_of_serves hserves hexecutable hended hsilent hpayload hparse
  obtain ⟨program, hquery⟩ :=
    queryBytes_of_delivers (delivers_of_serves hserves hexecutable hended hwords)
  unfold typeDeclarations
  rw [hversion]
  dsimp only
  rw [harguments]
  dsimp only
  rw [hquery]

end Serving

/-- Settings that name the program by its path. -/
def namedDeno : Settings :=
  { Settings.default with executable := "/deno" }

/-- The digits that the first toolchain prints, one more than are read. -/
def manyOnes : List Char :=
  List.replicate (Digits.digitLimit + 1) '1'

/-- A toolchain that answers with a number, whatever it is asked. -/
def countless : Machine :=
  .single ⟨[]⟩ ⟨List.replicate (Digits.digitLimit + 1) 0x31, [], .exited 0⟩

/-- A toolchain that is killed, whatever it is asked. -/
def killed : Machine :=
  .single ⟨[]⟩ ⟨[], [], .killed 9⟩

theorem printsPayload_countless :
    PrintsPayload namedDeno countless (String.ofList manyOnes) countless := by
  have hascii : Utf8.IsAscii (List.replicate (Digits.digitLimit + 1) 0x31) := by
    intro byte hbyte
    rw [List.eq_of_mem_replicate hbyte]
    decide
  have hchars : Utf8.charsOf (List.replicate (Digits.digitLimit + 1) 0x31) = manyOnes := by
    have hone : Char.ofNat (0x31 : UInt8).toNat = '1' := by decide
    rw [Utf8.charsOf, List.map_replicate, hone, manyOnes]
  have hreturn : '\r' ∉ manyOnes := by
    intro hmem
    exact absurd (List.eq_of_mem_replicate hmem) (by decide)
  have htext := Machine.decodeText_ascii hascii (by rwa [hchars])
  rw [hchars] at htext
  exact ⟨_, delivers_of_serves (Machine.serves_single _ _) rfl rfl (by decide), rfl, htext⟩

/-- The digits are a number, and it has too many of them. -/
theorem tooMuch_manyOnes (limit : Nat) :
    Json.TooMuch limit (Json.lex manyOnes) (.tooManyDigits ⟨4301⟩) := by
  have hdigits : ∀ c ∈ manyOnes, c.isDigit = true := by
    intro c hc
    rw [List.eq_of_mem_replicate hc]
    decide
  have hlength : manyOnes.length = 4301 := List.length_replicate
  rw [Json.lex_digits hdigits (List.cons_ne_nil _ _) (by
    show some '1' ≠ some '0'
    decide), ← hlength]
  refine Json.tooMuch_whole ?_
  rw [hlength]
  decide

theorem printsExcess_countless : PrintsExcess namedDeno countless (.digits ⟨4301⟩) := by
  refine ⟨String.ofList manyOnes, countless, printsPayload_countless, ?_⟩
  rw [String.toList_ofList]
  exact tooMuch_manyOnes countless.nesting

theorem undelivered_killed (arguments : List String) :
    ¬ ∃ child m', Delivers namedDeno killed arguments child m' := by
  rintro ⟨child, m', hdelivers⟩
  have hstatus := status_of_serves (Machine.serves_single _ _) hdelivers
  exact absurd hstatus (by decide)

/-! ## Section 7: What comes of a question -/

/-- A question fails exactly when what it depends on is too much to read.
    Otherwise there is an answer or none, and none where no child delivers:
    the executable is missing or does not start, or the child ends with another
    status or by a signal. -/
theorem answered_unless_excessive (s : Settings) (m : Machine) (question : Question) :
    (∀ excess, question.ask s m = .error excess ↔ question.MeetsExcess s m excess) ∧
    ((∃ answer, question.ask s m = .ok answer) ↔
      ¬ ∃ excess, question.MeetsExcess s m excess) ∧
    ∀ arguments, question.arguments? = some arguments →
      (¬ ∃ child m', Delivers s m arguments child m') → question.ask s m = .ok none := by
  have hfails (excess : VersionReport.Excess) :
      question.ask s m = .error excess ↔ question.MeetsExcess s m excess := by
    cases question with
    | executable => exact ⟨fun habsurd => (nomatch habsurd), fun habsurd => habsurd.elim⟩
    | version => exact version_error_iff
    | typeDeclarations unstable => exact typeDeclarations_error_iff
    | reportedRoot => exact ⟨fun habsurd => (nomatch habsurd), fun habsurd => habsurd.elim⟩
  refine ⟨hfails, ?_, fun arguments => Question.ask_of_undelivered⟩
  simp only [← hfails]
  cases question.ask s m with
  | ok answer => simp
  | error excess => simp

/-- A killed toolchain answers nothing, and one that prints a long number makes
    the question for its versions fail. -/
theorem killed_and_countless_questions :
    Question.version.arguments? = some ["eval", versionScript] ∧
    (¬ ∃ child m', Delivers namedDeno killed ["eval", versionScript] child m') ∧
    Question.version.ask namedDeno killed = .ok none ∧
    Question.version.ask namedDeno countless = .error (.digits ⟨4301⟩) := by
  obtain ⟨-, -, hnone⟩ := answered_unless_excessive namedDeno killed .version
  obtain ⟨hfails, -, -⟩ := answered_unless_excessive namedDeno countless .version
  have hundelivered := undelivered_killed ["eval", versionScript]
  exact ⟨rfl, hundelivered, hnone _ rfl hundelivered, (hfails _).2 printsExcess_countless⟩

/-- The toolchain ends well and prints nothing but a number, and yet there is
    neither an answer nor none. -/
theorem long_number_not_answered :
    PrintsPayload namedDeno countless (String.ofList manyOnes) countless ∧
    ∀ answer, Question.version.ask namedDeno countless ≠ .ok answer := by
  have hfails : Question.version.ask namedDeno countless = .error (.digits ⟨4301⟩) :=
    version_error_iff.2 printsExcess_countless
  refine ⟨printsPayload_countless, ?_⟩
  intro answer habsurd
  rw [hfails] at habsurd
  cases habsurd

end Toolchain

end DenoBridge
