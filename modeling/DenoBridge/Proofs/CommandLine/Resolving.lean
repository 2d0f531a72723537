import DenoBridge.Proofs.CommandLine.Formatting
import DenoBridge.Proofs.Url.Faults

/-! # What becomes of a URL

    A URL that is to be resolved has an answer, lacks a part, or has an
    authority that is refused.  The command exits with status 0 in the first
    case and with status 2 in the second.  In the third case the refusal is
    not the error that the command looks for, and the command fails with it
    (`resolved_unless_unsound`), as it does for a bracket that stands alone
    (`lone_bracket_escapes`).
-/

namespace DenoBridge.CommandLine

open Terminal Url

variable {m : Machine} {d : Desk} {streams : Streams} {line : List String} {input url : String}
  {emoji : Bool}

/-! ## Section 1: The command -/

/-- How the command ends for a URL. -/
def Resolves (url : String) (stop : Stop Failure) : Prop :=
  stop = .exit 0 ∧ Answered url ∨ stop = .exit 2 ∧ Denied url (.incomplete url) ∨
    ∃ cause, stop = .failed (.url (.fault cause)) ∧ Denied url (.fault cause)

/-- The end of the command for a file, or for the error in its place. -/
def stopFor : Except KeyError Path → Stop Failure
  | .ok _ => .exit 0
  | .error (.incomplete _) => .exit 2
  | .error (.fault cause) => .failed (.url (.fault cause))

theorem resolves_stopFor (s : Session) (m : Machine) (url : String) :
    Resolves url (stopFor (s.cachedFile m url)) := by
  rcases answered_or_denied url with hanswered | hincomplete | ⟨cause, hfault⟩
  · obtain ⟨file, hfile⟩ := hanswered.file s m
    rw [hfile]
    exact .inl ⟨rfl, hanswered⟩
  · rw [hincomplete.file s m]
    exact .inr (.inl ⟨rfl, hincomplete⟩)
  · rw [hfault.file s m]
    exact .inr (.inr ⟨cause, rfl, hfault⟩)

theorem ensures_told (d : Desk) (hsizes : HasSizes d.machine.environment) (emoji : Bool)
    (fileOn : Machine → Except KeyError Path) :
    d.Ensures (do
        match fileOn (← Desk.asks (·.machine)) with
        | .ok file => echo (file.text ++ "\n")
        | .error (.incomplete url) =>
          say .output .failure emoji (Url.KeyError.incomplete url).message
          Desk.exit 2
        | .error e => Desk.fail (.url e) : Work Failure Unit)
      (fun _ _ => stopFor (fileOn d.machine) = .exit 0)
      (fun stop _ => stopFor (fileOn d.machine) = stop) := by
  refine Desk.ensures_bind (M := fun seen d' => seen = d.machine ∧ d = d')
    (Desk.ensures_asks ⟨rfl, rfl⟩) ?_
  rintro _ _ ⟨rfl, rfl⟩
  match fileOn d.machine with
  | .ok file => exact Desk.ensures_change rfl
  | .error (.incomplete url) =>
    refine Desk.ensures_after (ensures_say hsizes .output .failure emoji _) ?_
    intro _ d' _
    exact Desk.ensures_exit rfl
  | .error (.fault cause) => exact Desk.ensures_fail rfl

theorem ensures_resolve {s : Session} (h : Opens d.machine none s)
    (hsizes : HasSizes d.machine.environment) (url : String) (emoji : Bool) :
    d.Ensures (resolve url none emoji) (fun _ _ => Resolves url (.exit 0))
      (fun stop _ => Resolves url stop) := by
  have hends := resolves_stopFor s d.machine url
  unfold resolve
  refine Desk.ensures_after (ensures_openSession_of_opens d h .output emoji) ?_
  intro opened d' hopened
  rw [← hopened.1, ← hopened.2]
  -- How files are found is not looked into here.
  generalize s.cachedFile = fileOn at hends ⊢
  refine (ensures_told d hsizes emoji fun m => fileOn m url).mono ?_ ?_
  · intro _ _ hstop
    exact hstop ▸ hends
  · intro stop _ hstop
    exact hstop ▸ hends

/-- Each way to end belongs to one thing that can be the case with the URL. -/
theorem Resolves.stop_iff {stop : Stop Failure} (h : Resolves url stop) :
    (stop = .exit 0 ↔ Answered url) ∧ (stop = .exit 2 ↔ Denied url (.incomplete url)) ∧
      ∀ cause, stop = .failed (.url (.fault cause)) ↔ Denied url (.fault cause) := by
  rcases h with ⟨rfl, hanswered⟩ | ⟨rfl, hincomplete⟩ | ⟨cause, rfl, hfault⟩
  · have hnever := hanswered.not_denied
    simp [hanswered, hnever]
  · have hnever : ¬ Answered url := fun h => h.not_denied _ hincomplete
    have hother : ∀ cause, ¬ Denied url (.fault cause) := by
      intro cause h
      cases h.unique hincomplete
    simp [hincomplete, hnever, hother]
  · have hnever : ¬ Answered url := fun h => h.not_denied _ hfault
    have hother : ¬ Denied url (.incomplete url) := by
      intro h
      cases h.unique hfault
    have hsame : ∀ cause', Denied url (.fault cause') ↔ cause = cause' := by
      intro cause'
      constructor
      · intro h
        cases h.unique hfault
        rfl
      · rintro rfl
        exact hfault
    simp [hnever, hother, hsame]

theorem resolves_of_requests {settings : Settings} (h : Requests m line (.resolve url none emoji))
    (hsettings : Settings.fromEnvironment m.environment [] = .ok settings)
    (hsizes : HasSizes m.environment) : Resolves url (run m streams line input).1.stop := by
  refine report_of_requests (P := fun stop _ => Resolves url stop) h hsizes ?_
  rintro d rfl - -
  exact ensures_resolve ⟨settings, hsettings, rfl⟩ hsizes url emoji

/-! ## Section 2: All URLs -/

/-- A URL whose authority is sound is answered, or denied as incomplete when a
    part is missing; any other is denied with a fault, the same in all four
    functions.  With valid settings and sizes that can be read, the command
    exits with status 0 or 2 in the first two cases and fails with the fault in
    the third; without sizes it fails whatever the URL is. -/
theorem resolved_unless_unsound (url : String) :
    (IsSound (authorityOf url).1 → (partsOf url).isComplete = true → Answered url) ∧
    (IsSound (authorityOf url).1 → ¬ (partsOf url).isComplete = true →
      Denied url (.incomplete url)) ∧
    (¬ IsSound (authorityOf url).1 → ∃ cause, Denied url (.fault cause)) ∧
    ∀ {m : Machine} {line : List String} {emoji : Bool} {settings : Settings} (streams : Streams)
      (input : String), Requests m line (.resolve url none emoji) →
      Settings.fromEnvironment m.environment [] = .ok settings →
      ((run m streams line input).1.stop = .exit 0 ↔ HasSizes m.environment ∧ Answered url) ∧
      ((run m streams line input).1.stop = .exit 2 ↔
        HasSizes m.environment ∧ Denied url (.incomplete url)) ∧
      (∀ cause, (run m streams line input).1.stop = .failed (.url (.fault cause)) ↔
        HasSizes m.environment ∧ Denied url (.fault cause)) ∧
      (¬ HasSizes m.environment →
        ∃ fault, (run m streams line input).1.stop = .failed (.display (.size fault))) := by
  refine ⟨answered_of_isComplete, denied_of_incomplete, denied_of_not_isSound, ?_⟩
  intro m line emoji settings streams input hrequests hsettings
  by_cases hsizes : HasSizes m.environment
  · have hends : Resolves url (run m streams line input).1.stop :=
      resolves_of_requests hrequests hsettings hsizes
    obtain ⟨hzero, htwo, hfault⟩ := hends.stop_iff
    simp [hsizes, hzero, htwo, hfault]
  · have hstop : ∃ fault, (run m streams line input).1.stop = .failed (.display (.size fault)) :=
      stop_of_not_hasSizes hrequests hsizes
    obtain ⟨fault, hstop⟩ := hstop
    simp [hsizes, hstop]

/-! ## Section 3: A bracket that stands alone -/

theorem requests_lone_bracket :
    Requests boldly ["resolve", "https://[x/y"] (.resolve "https://[x/y" none true) :=
  ⟨false, .resolve, ["https://[x/y"], rfl, rfl⟩

theorem fromEnvironment_boldly : Settings.fromEnvironment boldly.environment [] =
    .ok { Settings.default with executable := "/deno" } := rfl

theorem hasSizes_boldly : HasSizes boldly.environment :=
  ⟨⟨none, rfl⟩, ⟨none, rfl⟩⟩

theorem denied_lone_bracket : Denied "https://[x/y" (.fault .brackets) :=
  denied_of_error rfl rfl

/-- A URL in which a bracket is opened and not closed is refused everywhere,
    and the command fails. -/
theorem lone_bracket_escapes : ¬ IsSound (authorityOf "https://[x/y").1 ∧
    Requests boldly ["resolve", "https://[x/y"] (.resolve "https://[x/y" none true) ∧
    (∃ cause, Denied "https://[x/y" (.fault cause)) ∧
    (run boldly piped ["resolve", "https://[x/y"] "").1.stop =
      .failed (.url (.fault .brackets)) := by
  obtain ⟨-, -, hdenied, hruns⟩ := resolved_unless_unsound "https://[x/y"
  have hunsound : ¬ IsSound (authorityOf "https://[x/y").1 := by
    intro hsound
    have hclosing := hsound.paired.1 (show '[' ∈ (authorityOf "https://[x/y").1 by decide)
    exact absurd hclosing (by decide)
  obtain ⟨-, -, hfault, -⟩ := hruns piped "" requests_lone_bracket fromEnvironment_boldly
  refine ⟨hunsound, requests_lone_bracket, hdenied hunsound, ?_⟩
  exact (hfault .brackets).2 ⟨hasSizes_boldly, denied_lone_bracket⟩

/-- The functions neither return nor report a missing part, and the command
    exits with neither status. -/
theorem lone_bracket_no_missing_part :
    canonicalResource "https://[x/y" = .error (.fault .brackets) ∧
    keyOf "https://[x/y" = .error (.fault .brackets) ∧
    (run boldly piped ["resolve", "https://[x/y"] "").1.stop ≠ .exit 0 ∧
    (run boldly piped ["resolve", "https://[x/y"] "").1.stop ≠ .exit 2 := by
  have hends : Resolves "https://[x/y" (run boldly piped ["resolve", "https://[x/y"] "").1.stop :=
    resolves_of_requests requests_lone_bracket fromEnvironment_boldly hasSizes_boldly
  have hstop := (hends.stop_iff.2.2 .brackets).2 denied_lone_bracket
  refine ⟨denied_lone_bracket.resource, denied_lone_bracket.key, ?_, ?_⟩
  · rw [hstop]
    simp
  · rw [hstop]
    simp

end DenoBridge.CommandLine
