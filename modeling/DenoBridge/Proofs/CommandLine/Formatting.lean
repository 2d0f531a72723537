import DenoBridge.Proofs.CommandLine.Controls
import DenoBridge.Proofs.CommandLine.Opening
import DenoBridge.Proofs.Text.Utf8
import DenoBridge.Proofs.Toolchain.Answers

/-! # What the formatting command prints

    The command opens a session, reads its source, has it formatted and writes
    the formatted text.  Until then nothing is written to standard output
    (`ensures_format`), so a command that ends well has written that text and
    nothing else.  A terminal gets the text as it is; elsewhere it is stripped
    of sequences that control a terminal, and so it is not the formatted text
    whenever there is one in it (`printed_iff_unstripped`).
-/

namespace DenoBridge.CommandLine

open Terminal

variable {m : Machine} {d : Desk} {input formatted : String} {file : Option String}
  {fragment emoji : Bool}

/-! ## Section 1: The formatted text -/

/-- The text that is to be formatted: what a file holds, or standard input. -/
def IsSource (m : Machine) (input : String) (file : Option String) (source : String) : Prop :=
  match file with
  | none => source = String.ofList (Text.unifyLineEnds input.toList)
  | some file => ∃ bytes text, m.files.read m.directory (Path.ofString file).text = .ok bytes ∧
      Utf8.decode bytes = .ok text ∧ source = String.ofList (Text.unifyLineEnds text)

/-- How the toolchain formats a whole document or a part of one. -/
def formatterFor (fragment : Bool) (s : Settings) (source : String) (m : Machine) :
    Except Toolchain.FormatFailure (Option String) × Machine :=
  if fragment then Toolchain.formatFragment s source m else Toolchain.format s source m

/-- The text is what formatting gives for the source, under the settings of
    the environment. -/
def IsFormatted (m : Machine) (input : String) (file : Option String) (fragment : Bool)
    (formatted : String) : Prop :=
  ∃ settings source after, Settings.fromEnvironment m.environment [] = .ok settings ∧
    IsSource m input file source ∧
    formatterFor fragment settings source m = (.ok (some formatted), after)

/-- What is written to standard output for a text. -/
def written (streams : Streams) (text : String) : String :=
  if streams.isTerminal .output then text else String.ofList (stripControls text.toList)

/-- A text is written as it is exactly on a terminal, or when it holds nothing
    that controls one. -/
theorem written_eq_self_iff (streams : Streams) (text : String) : written streams text = text ↔
    streams.isTerminal .output = true ∨ ¬ HasControl text.toList := by
  unfold written
  by_cases hterminal : streams.isTerminal .output = true
  · simp [hterminal]
  · rw [if_neg hterminal, String.ext_iff, String.toList_ofList, stripControls_eq_self_iff]
    simp [hterminal]

theorem IsSource.unique {source other : String} (h : IsSource m input file source)
    (hother : IsSource m input file other) : source = other := by
  cases file with
  | none =>
    have hsource : source = String.ofList (Text.unifyLineEnds input.toList) := h
    exact hsource.trans (Eq.symm hother)
  | some file =>
    obtain ⟨bytes, text, hread, hdecode, rfl⟩ := h
    obtain ⟨bytes', text', hread', hdecode', rfl⟩ := hother
    obtain rfl := Except.ok.inj (hread.symm.trans hread')
    obtain rfl := Except.ok.inj (hdecode.symm.trans hdecode')
    rfl

theorem IsFormatted.unique {other : String} (h : IsFormatted m input file fragment formatted)
    (hother : IsFormatted m input file fragment other) : formatted = other := by
  obtain ⟨settings, source, after, hsettings, hsource, hformat⟩ := h
  obtain ⟨settings', source', after', hsettings', hsource', hformat'⟩ := hother
  obtain rfl := Except.ok.inj (hsettings.symm.trans hsettings')
  obtain rfl := hsource.unique hsource'
  rw [hformat] at hformat'
  exact Option.some.inj (Except.ok.inj (Prod.mk.inj hformat').1)

/-! ## Section 2: The steps of the command -/

/-- The command ended without success, and standard output is as it was. -/
def Unsuccessful (d : Desk) (stop : Stop Failure) (d' : Desk) : Prop :=
  stop ≠ .exit 0 ∧ d'.output = d.output

/-- What keeps the command from its work is told on standard error. -/
theorem ensures_refusal {α : Type} (d : Desk) (message : String) {status : Nat} (h : status ≠ 0) :
    d.Ensures (do
        say .errors .failure emoji message
        Desk.exit status : Work Failure α)
      (fun _ _ => False) (Unsuccessful d) := by
  refine Desk.ensures_bind (M := fun _ d' => d'.output = d.output) ?_ ?_
  · refine Desk.ensures_notice (fun _ houtput => houtput) fun e => ?_
    exact ⟨by simp, rfl⟩
  · intro _ d' houtput
    exact Desk.ensures_exit ⟨by simpa using h, houtput⟩

theorem ensures_openSession (d : Desk) (emoji : Bool) :
    d.Ensures (openSession .errors emoji none none)
      (fun s d' => d = d' ∧ Settings.fromEnvironment d.machine.environment [] = .ok s.settings)
      (fun stop d' => Unsuccessful d stop d' ∧
        ∃ complaints, Settings.fromEnvironment d.machine.environment [] = .error complaints) := by
  unfold openSession
  refine Desk.ensures_bind (M := fun m d' => m = d.machine ∧ d = d')
    (Desk.ensures_asks ⟨rfl, rfl⟩) ?_
  rintro _ _ ⟨rfl, rfl⟩
  simp only [Option.toList_none, List.map_nil]
  cases hsettings : Settings.fromEnvironment d.machine.environment [] with
  | ok settings => exact Desk.ensures_pure ⟨rfl, rfl⟩
  | error complaints =>
    refine (ensures_refusal d _ (show 2 ≠ 0 by decide)).mono (fun _ _ h => h.elim) ?_
    exact fun stop d' hstop => ⟨hstop, complaints, rfl⟩

theorem ensures_sourceText (d : Desk) (input : String) (file : Option String) :
    d.Ensures (sourceText input file)
      (fun source d' => d = d' ∧ IsSource d.machine input file source)
      (fun stop d' => Unsuccessful d stop d' ∧ ¬ ∃ source, IsSource d.machine input file source) := by
  unfold sourceText
  cases file with
  | none => exact Desk.ensures_pure ⟨rfl, rfl⟩
  | some file =>
    refine Desk.ensures_bind (M := fun m d' => m = d.machine ∧ d = d')
      (Desk.ensures_asks ⟨rfl, rfl⟩) ?_
    rintro _ _ ⟨rfl, rfl⟩
    let path := (Path.ofString file).text
    -- The file is read as bytes and then decoded, and each of the two can fail.
    refine Desk.ensures_bind (M := fun bytes d' =>
      d = d' ∧ d.machine.files.read d.machine.directory path = .ok bytes) ?_ ?_
    · refine Desk.ensures_orFail (fun bytes hread => ⟨rfl, hread⟩) ?_
      intro e hread
      refine ⟨⟨by simp, rfl⟩, ?_⟩
      rintro ⟨_, bytes, _, hread', -, -⟩
      rw [hread] at hread'
      cases hread'
    · rintro bytes _ ⟨rfl, hread⟩
      refine Desk.ensures_bind (M := fun text d' => d = d' ∧ Utf8.decode bytes = .ok text) ?_ ?_
      · refine Desk.ensures_orFail (fun text hdecode => ⟨rfl, hdecode⟩) ?_
        intro e hdecode
        refine ⟨⟨by simp, rfl⟩, ?_⟩
        rintro ⟨_, bytes', _, hread', hdecode', -⟩
        obtain rfl := Except.ok.inj (hread.symm.trans hread')
        rw [hdecode] at hdecode'
        cases hdecode'
      · rintro text _ ⟨rfl, hdecode⟩
        exact Desk.ensures_pure ⟨rfl, bytes, text, hread, hdecode, rfl⟩

/-- What the command does with the formatter's answer. -/
theorem ensures_answer (d : Desk) (s : Session) (emoji : Bool)
    (answer : Except Toolchain.FormatFailure (Option String)) :
    d.Ensures (match answer with
        | .error (.command e) => Desk.fail (.command e)
        | .error (.formatter e) => do
          say .errors .failure emoji e.message
          Desk.exit 1
        | .ok none => do
          say .errors .failure emoji (notFound s)
          Desk.exit 1
        | .ok (some text) => echo text : Work Failure Unit)
      (fun _ d' => ∃ formatted, answer = .ok (some formatted) ∧
        d'.output = d.output ++ written d.streams formatted)
      (fun stop d' => Unsuccessful d stop d' ∧ ∀ formatted, answer ≠ .ok (some formatted)) := by
  match answer with
  | .error (.command e) => exact Desk.ensures_fail ⟨⟨by simp, rfl⟩, by simp⟩
  | .error (.formatter e) =>
    refine (ensures_refusal d _ (show 1 ≠ 0 by decide)).mono (fun _ _ h => h.elim) ?_
    exact fun stop d' hstop => ⟨hstop, by simp⟩
  | .ok none =>
    refine (ensures_refusal d _ (show 1 ≠ 0 by decide)).mono (fun _ _ h => h.elim) ?_
    exact fun stop d' hstop => ⟨hstop, by simp⟩
  | .ok (some text) => exact Desk.ensures_change ⟨text, rfl, rfl⟩

/-- The command writes the formatted text when there is one, and nothing
    otherwise. -/
theorem ensures_format (d : Desk) (input : String) (file : Option String) (fragment emoji : Bool) :
    d.Ensures (format input file fragment emoji)
      (fun _ d' => ∃ formatted, IsFormatted d.machine input file fragment formatted ∧
        d'.output = d.output ++ written d.streams formatted)
      (fun stop d' => Unsuccessful d stop d' ∧
        ¬ ∃ formatted, IsFormatted d.machine input file fragment formatted) := by
  unfold format
  refine Desk.ensures_bind ((ensures_openSession d emoji).mono (fun _ _ h => h) ?_) ?_
  · rintro stop d' ⟨hstop, complaints, hcomplaints⟩
    refine ⟨hstop, ?_⟩
    rintro ⟨_, settings, _, _, hsettings, -, -⟩
    rw [hcomplaints] at hsettings
    cases hsettings
  rintro s _ ⟨rfl, hsettings⟩
  refine Desk.ensures_bind ((ensures_sourceText d input file).mono (fun _ _ h => h) ?_) ?_
  · rintro stop d' ⟨hstop, hnone⟩
    refine ⟨hstop, ?_⟩
    rintro ⟨_, _, source, _, -, hsource, -⟩
    exact hnone ⟨source, hsource⟩
  rintro source _ ⟨rfl, hsource⟩
  have hrun : (if fragment = true then Toolchain.formatFragment else Toolchain.format) s.settings
      source = formatterFor fragment s.settings source := by
    unfold formatterFor
    split <;> rfl
  simp only [hrun]
  refine Desk.ensures_bind (M := fun answer d' =>
    (formatterFor fragment s.settings source d.machine).1 = answer ∧ d'.output = d.output ∧
      d'.streams = d.streams) ?_ ?_
  · refine Desk.ensures_run ⟨rfl, ?_, ?_⟩
    · rw [Desk.output_takeRecords]
    · rw [Desk.streams_takeRecords]
  rintro answer d' ⟨hformat, houtput, hstreams⟩
  refine (ensures_answer d' s emoji answer).mono ?_ ?_
  · rintro _ d'' ⟨formatted, hanswer, hwritten⟩
    have hpair : formatterFor fragment s.settings source d.machine =
        (.ok (some formatted), (formatterFor fragment s.settings source d.machine).2) :=
      Prod.ext (hformat.trans hanswer) rfl
    refine ⟨formatted, ⟨s.settings, source, _, hsettings, hsource, hpair⟩, ?_⟩
    rw [hwritten, houtput, hstreams]
  · rintro stop d'' ⟨⟨hstop, hkept⟩, hnone⟩
    refine ⟨⟨hstop, hkept.trans houtput⟩, ?_⟩
    -- Settings and source are settled, so this answer is the only one there is.
    rintro ⟨formatted, settings, source', after, hsettings', hsource', hformat'⟩
    obtain rfl := Except.ok.inj (hsettings.symm.trans hsettings')
    obtain rfl := hsource.unique hsource'
    rw [hformat'] at hformat
    exact hnone formatted hformat.symm

/-! ## Section 3: The command line -/

/-- The command line ends well, having written a formatted text to a screen
    that is there for records; or something of this is missing. -/
theorem report_of_format {line : List String} (streams : Streams) (input : String)
    (h : Requests m line (.format file fragment emoji)) :
    (((run m streams line input).1.stop = .exit 0 ∧
        ∃ screen, streams.recordScreen m.environment .errors = .ok screen) ∧
      ∃ formatted, IsFormatted m input file fragment formatted ∧
        (run m streams line input).1.output = written streams formatted) ∨
    (run m streams line input).1.stop ≠ .exit 0 ∧
      ¬ ((∃ screen, streams.recordScreen m.environment .errors = .ok screen) ∧
        ∃ formatted, IsFormatted m input file fragment formatted) := by
  have hstart : Requests (Desk.start m streams).machine line (.format file fragment emoji) := h
  refine report_of_ensures (P := fun stop output =>
    ((stop = .exit 0 ∧ ∃ screen, streams.recordScreen m.environment .errors = .ok screen) ∧
      ∃ formatted, IsFormatted m input file fragment formatted ∧
        output = written streams formatted) ∨
    stop ≠ .exit 0 ∧
      ¬ ((∃ screen, streams.recordScreen m.environment .errors = .ok screen) ∧
        ∃ formatted, IsFormatted m input file fragment formatted))
    (ensures_execute rfl hstart input ?_ ?_)
  · intro fault d' _ hfault
    refine .inr ⟨by simp, ?_⟩
    rintro ⟨⟨screen, hscreen⟩, -⟩
    exact absurd (hscreen.symm.trans hfault) (by simp)
  · intro d' hwritten hempty hscreen
    have hmachine : d'.machine = m := hwritten.machine
    have hstreams : d'.streams = streams := hwritten.streams
    have houtput : d'.output = "" := hempty
    refine (ensures_format d' input file fragment emoji).mono ?_ ?_
    · rintro _ d'' ⟨formatted, hformatted, hprinted⟩
      rw [hmachine] at hformatted
      rw [houtput, hstreams, String.empty_append] at hprinted
      exact .inl ⟨⟨rfl, hscreen⟩, formatted, hformatted, hprinted⟩
    · rintro stop d'' ⟨⟨hstop, -⟩, hnone⟩
      rw [hmachine] at hnone
      exact .inr ⟨hstop, fun hboth => hnone hboth.2⟩

/-- With a formatted text and a screen for records the command ends well, and
    the text is all that it has written. -/
theorem run_of_isFormatted {line : List String} {streams : Streams}
    (h : Requests m line (.format file fragment emoji))
    (hscreen : ∃ screen, streams.recordScreen m.environment .errors = .ok screen)
    (hformatted : IsFormatted m input file fragment formatted) :
    (run m streams line input).1.stop = .exit 0 ∧
      (run m streams line input).1.output = written streams formatted := by
  rcases report_of_format streams input h with ⟨⟨hstop, -⟩, text, htext, houtput⟩ | ⟨-, hnone⟩
  · obtain rfl := htext.unique hformatted
    exact ⟨hstop, houtput⟩
  · exact absurd ⟨hscreen, formatted, hformatted⟩ hnone

/-- A command that ends well has shown that there are both. -/
theorem of_run_exit {line : List String} {streams : Streams}
    (h : Requests m line (.format file fragment emoji))
    (hstop : (run m streams line input).1.stop = .exit 0) :
    (∃ screen, streams.recordScreen m.environment .errors = .ok screen) ∧
      ∃ formatted, IsFormatted m input file fragment formatted := by
  rcases report_of_format streams input h with ⟨⟨-, hscreen⟩, text, htext, -⟩ | ⟨hbad, -⟩
  · exact ⟨hscreen, text, htext⟩
  · exact absurd hstop hbad

/-! ## Section 4: Bold letters in a pipe -/

/-- What the formatter writes: the sequence for bold, and a letter. -/
def boldBytes : Bytes :=
  [0x1b, 0x5b, 0x31, 0x6d, 0x62]

/-- A machine whose formatter writes a bold letter, whatever it reads. -/
def boldly : Machine :=
  .single ⟨[(Settings.executableVariable, "/deno")]⟩ ⟨boldBytes, [], .exited 0⟩

/-- Two pipes. -/
def piped : Streams :=
  ⟨.store, .store⟩

theorem requests_boldly : Requests boldly ["fmt"] (.format none false true) :=
  ⟨false, .format, [], rfl, rfl⟩

theorem recordScreen_boldly :
    ∃ screen, piped.recordScreen boldly.environment .errors = .ok screen :=
  ⟨⟨80, none, false⟩, rfl⟩

theorem isFormatted_boldly : IsFormatted boldly "x" none false "\x1b[1mb" := by
  let settings : Settings := { Settings.default with executable := "/deno" }
  have hexecutable : Toolchain.executable boldly settings = some ⟨.root, ["deno"]⟩ :=
    Toolchain.executable_of_serves rfl (Machine.serves_single _ _)
  have hascii : Utf8.IsAscii boldBytes := by
    have hall : boldBytes.all (· < 0x80) = true := by decide
    intro byte hbyte
    exact of_decide_eq_true (List.all_eq_true.1 hall byte hbyte)
  have hchars : String.ofList (Utf8.decodeReplacing boldBytes) = "\x1b[1mb" := by
    rw [Utf8.decodeReplacing_ascii hascii]
    rfl
  have hstream (source : String) : boldly.stream ["/deno", "fmt", "-"] source =
      (.ok ⟨"/deno", ["fmt", "-"], 0, "\x1b[1mb", ""⟩, boldly) := by
    have hserves : boldly.Serves ⟨boldBytes, [], .exited 0⟩ := Machine.serves_single _ _
    unfold Machine.stream
    rw [hserves.execute_eq (by decide)]
    dsimp only
    rw [hchars, Utf8.decodeReplacing_ascii Utf8.isAscii_nil]
    rfl
  -- The one variable that is set names the executable.
  refine ⟨settings, _, boldly, rfl, rfl, ?_⟩
  show Toolchain.format settings _ boldly = _
  unfold Toolchain.format
  rw [hexecutable]
  dsimp only
  have htext : Path.text ⟨.root, ["deno"]⟩ = "/deno" := by decide
  rw [htext, hstream]
  rfl

theorem written_boldly : written piped "\x1b[1mb" = "b" := by
  have hstrip : stripControls "\x1b[1mb".toList = ['b'] := by
    have hsequence : stripControls ['\x1b', '[', '1', 'm', 'b'] = stripControls ['b'] :=
      stripControls_sequence rfl rfl
    refine Eq.trans hsequence ?_
    simp [stripControls]
  unfold written
  rw [if_neg (by decide), hstrip]

/-! ## Section 5: What is printed -/

/-- A formatting command ends well exactly when records can be shown and there
    is a formatted text.  It has then written that text as its streams take it,
    and so the text itself exactly on a terminal or when nothing in the text
    controls one. -/
theorem printed_iff_unstripped {line : List String} (streams : Streams) (input : String)
    (h : Requests m line (.format file fragment emoji)) :
    ((run m streams line input).1.stop = .exit 0 ↔
      (∃ screen, streams.recordScreen m.environment .errors = .ok screen) ∧
        ∃ formatted, IsFormatted m input file fragment formatted) ∧
    ∀ formatted, IsFormatted m input file fragment formatted →
      (run m streams line input).1.stop = .exit 0 →
        (run m streams line input).1.output = written streams formatted ∧
        ((run m streams line input).1.output = formatted ↔
          streams.isTerminal .output = true ∨ ¬ HasControl formatted.toList) := by
  refine ⟨⟨of_run_exit h, ?_⟩, ?_⟩
  · rintro ⟨hscreen, formatted, hformatted⟩
    exact (run_of_isFormatted h hscreen hformatted).1
  · intro formatted hformatted hstop
    obtain ⟨hscreen, -⟩ := of_run_exit h hstop
    obtain ⟨-, houtput⟩ := run_of_isFormatted h hscreen hformatted
    refine ⟨houtput, ?_⟩
    rw [houtput, written_eq_self_iff]

/-- The command ends well with a bold letter formatted, and it has not written
    the text that was formatted. -/
theorem bold_letter_in_a_pipe : Requests boldly ["fmt"] (.format none false true) ∧
    IsFormatted boldly "x" none false "\x1b[1mb" ∧
    (run boldly piped ["fmt"] "x").1.stop = .exit 0 ∧
    (run boldly piped ["fmt"] "x").1.output ≠ "\x1b[1mb" := by
  obtain ⟨hends, hprinted⟩ := printed_iff_unstripped piped "x" requests_boldly
  have hstop := hends.2 ⟨recordScreen_boldly, "\x1b[1mb", isFormatted_boldly⟩
  obtain ⟨houtput, -⟩ := hprinted "\x1b[1mb" isFormatted_boldly hstop
  refine ⟨requests_boldly, isFormatted_boldly, hstop, ?_⟩
  rw [houtput, written_boldly]
  decide

/-- The command ends well, but the letter that it writes is not bold. -/
theorem bold_letter_stripped : (run boldly piped ["fmt"] "x").1.stop = .exit 0 ∧
    IsFormatted boldly "x" none false "\x1b[1mb" ∧
    (run boldly piped ["fmt"] "x").1.output = "b" := by
  obtain ⟨hstop, houtput⟩ :=
    run_of_isFormatted requests_boldly recordScreen_boldly isFormatted_boldly
  exact ⟨hstop, isFormatted_boldly, houtput.trans written_boldly⟩

end DenoBridge.CommandLine
