import Mathlib
import DenoBridge.Proofs.Json.Lexing
import DenoBridge.Proofs.Json.Writing
import DenoBridge.Proofs.Version.Excess

/-! # Reports in documents

    A payload reports versions when it is a document of an object, and of the
    members with the three names the last ones are the texts (`Reports`).
    Such payloads, and no others, are read as a report, whatever else is in
    them and however they are written (`parse_iff_reports`).  A report can be
    written when the halves in its texts stand alone (`reports_written`), and
    then only (`halvesAreLone_of_reports`).
-/

namespace DenoBridge

/-! ## Section 1: Members that are written -/

namespace Json

/-- Lexemes one after the other, without blanks. -/
theorem written_of_lexemes {lexemes : List (Token × List Char)}
    (h : ∀ entry ∈ lexemes, Lexeme entry.1 entry.2) :
    Written (lexemes.map Prod.fst) (lexemes.flatMap Prod.snd) := by
  induction lexemes with
  | nil => exact written_nil
  | cons entry rest ih =>
    have hrest := ih fun other hother => h other (List.mem_cons_of_mem _ hother)
    exact .of_lexeme (h entry List.mem_cons_self) hrest

theorem spells_member (limit depth : Nat) (name : List Glyph) (value : Json) :
    Spells limit depth (.members [(name, value)]) [.atom (.string name), .colon, .atom value] :=
  .member .atom

theorem spells_nextMember {limit depth : Nat} {members : List (List Glyph × Json)}
    {before : List Token} (name : List Glyph) (value : Json)
    (h : Spells limit depth (.members members) before) :
    Spells limit depth (.members (members ++ [(name, value)]))
      (before ++ [.comma, .atom (.string name), .colon, .atom value]) :=
  .nextMember h .atom

/-! ## Section 2: Last members -/

/-- The last member with this name has this value. -/
def IsLast (members : List (List Glyph × Json)) (name : String) (value : Json) : Prop :=
  ∃ before after, members = before ++ (Glyph.ofString name, value) :: after ∧
    ∀ member ∈ after, member.1 ≠ Glyph.ofString name

theorem member?_eq_some_iff {members : List (List Glyph × Json)} {name : String} {value : Json} :
    member? members name = some value ↔ IsLast members name value := by
  -- The lookup goes through the members from the last to the first.
  unfold member? IsLast
  rw [List.lookup_eq_some_iff]
  constructor
  · rintro ⟨front, back, hmembers, hfront⟩
    refine ⟨back.reverse, front.reverse, ?_, ?_⟩
    · rw [← List.reverse_reverse members, hmembers]
      simp
    · intro member hmember
      have hne := hfront member (List.mem_reverse.1 hmember)
      exact fun heq => absurd hne (by simp [heq])
  · rintro ⟨before, after, rfl, hafter⟩
    refine ⟨after.reverse, before.reverse, by simp, ?_⟩
    intro member hmember
    have hne := hafter member (List.mem_reverse.1 hmember)
    simpa using hne.symm

end Json

namespace VersionReport

open Glyph (AreLone)
open Json (Document IsLast IsModest Token)

variable {limit : Nat} {payload : String} {report : VersionReport}

/-! ## Section 3: Reports -/

/-- The payload is a document of an object whose last members with the three
    names are the texts of the report. -/
def Reports (limit : Nat) (payload : String) (report : VersionReport) : Prop :=
  ∃ members, Document limit (.object members) payload.toList ∧
    IsLast members "deno" (.string report.deno) ∧
    IsLast members "v8" (.string report.v8) ∧
    IsLast members "typescript" (.string report.typescript)

theorem ofJson?_object_eq_some_iff {members : List (List Glyph × Json)} :
    ofJson? (.object members) = some report ↔
      IsLast members "deno" (.string report.deno) ∧
      IsLast members "v8" (.string report.v8) ∧
      IsLast members "typescript" (.string report.typescript) := by
  have hmember (name : String) (text : List Glyph) :
      (∃ value, (Json.object members).get? name = some value ∧ value.text? = some text) ↔
        IsLast members name (.string text) := by
    rw [← Json.member?_eq_some_iff]
    simp only [Json.text?_eq_some_iff, exists_eq_right]
    rfl
  rw [← hmember, ← hmember, ← hmember]
  unfold ofJson?
  simp only [Option.bind_eq_bind, Option.bind_eq_some_iff, Option.pure_def, Option.some.injEq]
  constructor
  · rintro ⟨deno, hdeno, denoText, hdenoText, v8, hv8, v8Text, hv8Text, typescript, htypescript,
      typescriptText, htypescriptText, rfl⟩
    exact ⟨⟨deno, hdeno, hdenoText⟩, ⟨v8, hv8, hv8Text⟩, ⟨typescript, htypescript, htypescriptText⟩⟩
  · rintro ⟨⟨deno, hdeno, hdenoText⟩, ⟨v8, hv8, hv8Text⟩,
      ⟨typescript, htypescript, htypescriptText⟩⟩
    exact ⟨deno, hdeno, _, hdenoText, v8, hv8, _, hv8Text, typescript, htypescript, _,
      htypescriptText, rfl⟩

/-- A report is found in an object that was read, and nowhere else. -/
theorem read_eq_found_iff : read limit payload = .ok (.found report) ↔
    ∃ members, Json.read limit payload.toList = .ok (.object members) ∧
      ofJson? (.object members) = some report := by
  unfold read
  constructor
  · intro h
    split at h
    · cases h
    · cases h
    · cases h
    · rename_i members hmembers
      split at h
      · rename_i found hfound
        obtain rfl : found = report := Reading.found.inj (Except.ok.inj h)
        exact ⟨members, hmembers, hfound⟩
      · cases h
    · cases h
  · rintro ⟨members, hmembers, hreport⟩
    rw [hmembers]
    dsimp only
    rw [hreport]

theorem parse_eq_some_iff_reports :
    parse limit payload = .ok (some report) ↔ Reports limit payload report := by
  rw [parse_eq_some_iff, read_eq_found_iff]
  unfold Reports
  simp only [Json.read_iff_document, ofJson?_object_eq_some_iff]

/-- What is not too much and reports nothing is read as nothing. -/
theorem parse_eq_none (hmodest : IsModest limit (Json.lex payload.toList))
    (hnone : ∀ report, ¬Reports limit payload report) : parse limit payload = .ok none := by
  cases hparse : parse limit payload with
  | error excess => exact absurd (parse_eq_error_iff.1 hparse) (hmodest.not_tooMuch _)
  | ok found =>
    cases found with
    | none => rfl
    | some report => exact absurd (parse_eq_some_iff_reports.1 hparse) (hnone report)

/-! ## Section 4: Reports that are written -/

/-- The halves in the texts of the report stand alone. -/
def HalvesAreLone (report : VersionReport) : Prop :=
  AreLone report.deno ∧ AreLone report.v8 ∧ AreLone report.typescript

/-- So they do where there are none. -/
theorem halvesAreLone_ofStrings (deno v8 typescript : String) :
    (ofStrings deno v8 typescript).HalvesAreLone :=
  ⟨Glyph.areLone_ofString _, Glyph.areLone_ofString _, Glyph.areLone_ofString _⟩

theorem halvesAreLone_of_reports (h : Reports limit payload report) : report.HalvesAreLone := by
  obtain ⟨members, hdocument, hlast⟩ := h
  have hmember {name : String} {text : List Glyph} (hlast : IsLast members name (.string text)) :
      AreLone text := by
    obtain ⟨before, after, hmembers, -⟩ := hlast
    have hmem : (Glyph.ofString name, Json.string text) ∈ members := by
      rw [hmembers]
      exact List.mem_append_right _ List.mem_cons_self
    exact Json.areLone_of_document hdocument hmem
  exact ⟨hmember hlast.1, hmember hlast.2.1, hmember hlast.2.2⟩

/-- The tokens of a report and how they are written. -/
def lexemes (report : VersionReport) : List (Token × List Char) :=
  let text (text : List Glyph) := (.atom (.string text), Json.writeText text)
  [(.opening .object, ['\x7b']),
    text (Glyph.ofString "deno"), (.colon, [':']), text report.deno, (.comma, [',']),
    text (Glyph.ofString "v8"), (.colon, [':']), text report.v8, (.comma, [',']),
    text (Glyph.ofString "typescript"), (.colon, [':']), text report.typescript,
    (.closing .object, ['\x7d'])]

/-- The report as a JSON object. -/
def written (report : VersionReport) : String :=
  String.ofList (report.lexemes.flatMap Prod.snd)

/-- The members of a report that is written. -/
def members (report : VersionReport) : List (List Glyph × Json) :=
  let member (name : String) (text : List Glyph) := (Glyph.ofString name, Json.string text)
  [member "deno" report.deno, member "v8" report.v8, member "typescript" report.typescript]

theorem document_written (hlone : report.HalvesAreLone) (hlimit : 0 < limit) :
    Document limit (.object report.members) report.written.toList := by
  have hlexemes : ∀ entry ∈ report.lexemes, Json.Lexeme entry.1 entry.2 := by
    simp only [lexemes, List.forall_mem_cons, List.not_mem_nil, IsEmpty.forall_iff, implies_true,
      and_true, Json.lexeme_writeText, Glyph.areLone_ofString, hlone.1, hlone.2.1, hlone.2.2,
      true_and]
    exact ⟨.mark rfl, .mark rfl, .mark rfl, .mark rfl, .mark rfl, .mark rfl, .mark rfl⟩
  refine ⟨report.lexemes.map Prod.fst, ?_, ?_⟩
  · have hdeno := Json.spells_member limit 1 (Glyph.ofString "deno") (.string report.deno)
    have hv8 := Json.spells_nextMember (Glyph.ofString "v8") (.string report.v8) hdeno
    have htypescript :=
      Json.spells_nextMember (Glyph.ofString "typescript") (.string report.typescript) hv8
    exact .object hlimit htypescript
  · rw [written, String.toList_ofList]
    exact Json.written_of_lexemes hlexemes

theorem reports_written (hlone : report.HalvesAreLone) (hlimit : 0 < limit) :
    Reports limit report.written report := by
  have hnames : Glyph.ofString "v8" ≠ Glyph.ofString "deno" ∧
      Glyph.ofString "typescript" ≠ Glyph.ofString "deno" ∧
      Glyph.ofString "typescript" ≠ Glyph.ofString "v8" := by
    decide
  refine ⟨report.members, document_written hlone hlimit, ⟨[], _, rfl, ?_⟩, ⟨[_], _, rfl, ?_⟩,
    ⟨[_, _], [], rfl, fun _ hmember => nomatch hmember⟩⟩
  · intro member hmember
    rcases List.mem_cons.1 hmember with rfl | hmember
    · exact hnames.1
    · rw [List.mem_singleton.1 hmember]
      exact hnames.2.1
  · intro member hmember
    rw [List.mem_singleton.1 hmember]
    exact hnames.2.2

/-- The reports that are read are those of which the payload is a document, those
    whose halves stand alone can be written, no others are found anywhere, and
    what is no report in its limits is nothing. -/
theorem parse_iff_reports (limit : Nat) (payload : String) :
    (∀ report, parse limit payload = .ok (some report) ↔ Reports limit payload report) ∧
    (∀ report, 0 < limit → report.HalvesAreLone →
      parse limit (written report) = .ok (some report)) ∧
    (∀ report, Reports limit payload report → report.HalvesAreLone) ∧
    (IsModest limit (Json.lex payload.toList) → (∀ report, ¬Reports limit payload report) →
      parse limit payload = .ok none) := by
  refine ⟨fun _ => parse_eq_some_iff_reports, ?_, fun _ => halvesAreLone_of_reports,
    parse_eq_none⟩
  intro report hlimit hlone
  exact parse_eq_some_iff_reports.2 (reports_written hlone hlimit)

/-- A payload with a member twice, in an order of its own, with blanks and with
    escapes, one of them a half that stands alone. -/
def oddPayload : String :=
  "\t\x7b\"v8\": 1, \"typescript\":\"\\ud83d\\uDE00\\n\",\r\n" ++
    "\"d\\u0065no\": \"1\\/2\", \"v8\": \"\\udc00\"\x7d "

/-- What it reports. -/
def oddReport : VersionReport :=
  ⟨Glyph.ofString "1/2", [.half 0xDC00], Glyph.ofString "😀\n"⟩

/-- A payload that lacks a name. -/
def lackingPayload : String :=
  "\x7b\"deno\": \"1.2\", \"v8\": [12]\x7d"

/-- The tokens of the payload that lacks a name. -/
def lackingTokens : List Token :=
  [.opening .object, .atom (.string (Glyph.ofString "deno")), .colon,
    .atom (.string (Glyph.ofString "1.2")), .comma, .atom (.string (Glyph.ofString "v8")), .colon,
    .opening .array, .whole false ['1', '2'], .closing .array, .closing .object]

theorem lex_lackingPayload : Json.lex lackingPayload.toList = lackingTokens := by
  cbv

theorem isModest_lackingPayload : IsModest 11 (Json.lex lackingPayload.toList) := by
  rw [lex_lackingPayload]
  apply Json.isModest_of_length
  · decide
  · intro negative digits hmember
    simp only [lackingTokens, List.mem_cons, Token.whole.injEq, List.not_mem_nil, reduceCtorEq,
      false_or, or_false] at hmember
    rw [hmember.2]
    decide

theorem not_reports_lackingPayload (report : VersionReport) :
    ¬Reports 11 lackingPayload report := by
  rintro ⟨members, hdocument, -, -, htypescript⟩
  -- Reading gives the one object that the payload is a document of.
  have hread : Json.read 11 lackingPayload.toList = .ok (.object
      [(Glyph.ofString "deno", .string (Glyph.ofString "1.2")),
        (Glyph.ofString "v8", .array [.integer 12])]) := by
    rw [Json.read, lex_lackingPayload]
    rfl
  have hmembers := hread.symm.trans (Json.read_iff_document.2 hdocument)
  obtain rfl := Json.object.inj (Except.ok.inj hmembers)
  have hmember := Json.member?_eq_some_iff.2 htypescript
  cases hmember

set_option maxRecDepth 4000 in
/-- The last members of the odd payload are reported, and the payload that lacks a
    name reports nothing. -/
theorem odd_payload_read :
    parse 11 oddPayload = .ok (some oddReport) ∧ Reports 11 oddPayload oddReport ∧
    oddReport.HalvesAreLone ∧ parse 11 oddReport.written = .ok (some oddReport) ∧
    IsModest 11 (Json.lex lackingPayload.toList) ∧
    (∀ report, ¬Reports 11 lackingPayload report) ∧ parse 11 lackingPayload = .ok none := by
  have hodd : parse 11 oddPayload = .ok (some oddReport) := by cbv
  obtain ⟨hiff, hwritten, hlone, -⟩ := parse_iff_reports 11 oddPayload
  obtain ⟨-, -, -, hnone⟩ := parse_iff_reports 11 lackingPayload
  have hreports := (hiff _).1 hodd
  have hhalves := hlone _ hreports
  exact ⟨hodd, hreports, hhalves, hwritten _ (by decide) hhalves, isModest_lackingPayload,
    not_reports_lackingPayload, hnone isModest_lackingPayload not_reports_lackingPayload⟩

/-- A payload in which half a pair stands alone. -/
def halfPayload : String :=
  "\x7b\"deno\":\"\\ud800\",\"v8\":\"\",\"typescript\":\"\"\x7d"

/-- The half is reported, and no three strings are. -/
theorem half_reported :
    parse 1 halfPayload = .ok (some ⟨[.half 0xD800], [], []⟩) ∧
    ∀ deno v8 typescript, ¬Reports 1 halfPayload (.ofStrings deno v8 typescript) := by
  have hhalf : parse 1 halfPayload = .ok (some ⟨[.half 0xD800], [], []⟩) := by cbv
  refine ⟨hhalf, ?_⟩
  intro deno v8 typescript hreports
  have hstrings := hhalf.symm.trans (parse_eq_some_iff_reports.2 hreports)
  have hdeno := congrArg VersionReport.deno (Option.some.inj (Except.ok.inj hstrings))
  -- A string is made of characters only.
  have hmem : Glyph.half 0xD800 ∈ Glyph.ofString deno := by
    rw [← show [Glyph.half 0xD800] = Glyph.ofString deno from hdeno]
    exact List.mem_cons_self
  obtain ⟨c, -, habsurd⟩ := List.mem_map.1 hmem
  cases habsurd

end VersionReport

end DenoBridge
