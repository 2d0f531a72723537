import DenoBridge.Proofs.Machine.Starting
import DenoBridge.Proofs.Results
import DenoBridge.Toolchain.Probe

/-! # The toolchain's answers

    Questions age the machine and do nothing else to it.  Declarations that
    were given are what a child with the arguments for them wrote, byte by
    byte (`of_typeDeclarations`).
-/

namespace DenoBridge.Toolchain

open Machine (Aged)

/-! ## Section 1: Questions -/

theorem aged_query {α : Type} {run : Machine → List String → Except CommandError α × Machine}
    (hrun : ∀ m command, Aged m (run m command).2) (s : Settings) (arguments : List String)
    (m : Machine) : Aged m (query run s arguments m).2 := by
  unfold query
  split
  · exact .debug _ _ .refl
  · rename_i path _
    have hage := hrun m (path.text :: arguments)
    split
    · rename_i heq
      rw [heq] at hage
      exact hage
    · rename_i heq
      rw [heq] at hage
      exact hage.debug _ _

theorem aged_readPayload (payload : String) (m : Machine) : Aged m (readPayload payload m).2 := by
  unfold readPayload
  split
  · exact .refl
  · split
    · exact .debug _ _ .refl
    · exact .refl

theorem aged_version (s : Settings) (m : Machine) : Aged m (version s m).2 := by
  have hquery := aged_query (fun m command => m.aged_runText command true) s
    ["eval", versionScript] m
  unfold version queryText
  split
  · rename_i heq
    rw [heq] at hquery
    exact hquery
  · rename_i done m' heq
    rw [heq] at hquery
    split
    · exact hquery.debug _ _
    · exact hquery.trans (aged_readPayload _ _)

theorem aged_typeDeclarations (s : Settings) (unstable : Bool) (m : Machine) :
    Aged m (typeDeclarations s unstable m).2 := by
  have hversion := aged_version s m
  unfold typeDeclarations
  split
  · rename_i heq
    rw [heq] at hversion
    exact hversion
  · rename_i heq
    rw [heq] at hversion
    exact hversion
  · rename_i report m' heq
    rw [heq] at hversion
    split
    · exact hversion
    · rename_i arguments _
      have hquery := aged_query (fun m command => m.aged_runBytes command true) s arguments m'
      unfold queryBytes
      split <;> (rename_i heq'; rw [heq'] at hquery; exact hversion.trans hquery)

/-! ## Section 2: Declarations -/

/-- The content is all that a child wrote to its output that was started, with
    the arguments for the declarations of a mode, to answer on the machine. -/
def IsRawOutput (s : Settings) (unstable : Bool) (m m' : Machine) (content : Bytes) : Prop :=
  ∃ report asked path program arguments child,
    version s m = (.ok (some report), asked) ∧
      typeArguments unstable (some report) = .ok arguments ∧
      executable asked s = some path ∧ asked.resolve path.text = .ok program ∧
      asked.spawn program arguments .null = (.ok child, m') ∧ child.ending.status = 0 ∧
      child.output = content

theorem of_execute {m m' : Machine} {name : String} {arguments : List String} {given : Feed}
    {done : Completed Bytes} (h : m.execute (name :: arguments) given = (.ok done, m')) :
    ∃ program child, m.resolve name = .ok program ∧
      m.spawn program arguments given = (.ok child, m') ∧
      done = ⟨program, arguments, child.ending.status, child.output, child.errors⟩ := by
  unfold Machine.execute at h
  split at h
  · cases h
  · rename_i name' arguments' hcommand
    obtain ⟨rfl, rfl⟩ := List.cons.inj hcommand
    split at h
    · cases h
    · rename_i program hresolve
      split at h
      · cases h
      · rename_i child m'' hspawn
        obtain ⟨hdone, rfl⟩ := Prod.mk.inj h
        exact ⟨program, child, hresolve, hspawn, (Except.ok.inj hdone).symm⟩

theorem of_checked {α : Type} {capture : α → Captured} {done done' : Completed α}
    (h : Machine.checked capture done = .ok done') : done.status = 0 ∧ done = done' := by
  unfold Machine.checked at h
  split at h
  · rename_i hstatus
    exact ⟨hstatus, Except.ok.inj h⟩
  · cases h

theorem of_asText {done : Completed Bytes} {done' : Completed String}
    (h : Machine.asText done = .ok done') : done'.status = done.status ∧
      Machine.decodeText done.output = .ok done'.output ∧
      Machine.decodeText done.errors = .ok done'.errors := by
  unfold Machine.asText at h
  obtain ⟨output, houtput, h⟩ := exists_of_bind_ok h
  obtain ⟨errors, herrors, h⟩ := exists_of_bind_ok h
  obtain rfl := Except.ok.inj h
  exact ⟨rfl, houtput, herrors⟩

theorem of_runBytes {m m' : Machine} {name : String} {arguments : List String}
    {done : Completed Bytes} (h : m.runBytes (name :: arguments) true = (.ok done, m')) :
    ∃ program child, m.resolve name = .ok program ∧
      m.spawn program arguments .null = (.ok child, m') ∧ child.ending.status = 0 ∧
      child.output = done.output := by
  unfold Machine.runBytes at h
  split at h
  · cases h
  · rename_i found m'' hexecute
    obtain ⟨program, child, hresolve, hspawn, rfl⟩ := of_execute hexecute
    obtain ⟨hchecked, rfl⟩ := Prod.mk.inj h
    rw [if_pos rfl] at hchecked
    obtain ⟨hstatus, rfl⟩ := of_checked hchecked
    exact ⟨program, child, hresolve, hspawn, hstatus, rfl⟩

theorem of_runText {m m' : Machine} {name : String} {arguments : List String}
    {done : Completed String} (h : m.runText (name :: arguments) true = (.ok done, m')) :
    ∃ program child, m.resolve name = .ok program ∧
      m.spawn program arguments .null = (.ok child, m') ∧ child.ending.status = 0 ∧
      Machine.decodeText child.output = .ok done.output ∧
      Machine.decodeText child.errors = .ok done.errors := by
  unfold Machine.runText at h
  split at h
  · cases h
  · rename_i found m'' hexecute
    obtain ⟨program, child, hresolve, hspawn, rfl⟩ := of_execute hexecute
    -- Both texts have to be decoded before the status is looked at.
    split at h
    · cases h
    · rename_i text htext
      obtain ⟨hchecked, rfl⟩ := Prod.mk.inj h
      rw [if_pos rfl] at hchecked
      obtain ⟨hstatus, rfl⟩ := of_checked hchecked
      obtain ⟨hsame, houtput, herrors⟩ := of_asText htext
      exact ⟨program, child, hresolve, hspawn, hsame.symm.trans hstatus, houtput, herrors⟩

/-- An answer comes from a run of the executable. -/
theorem of_query {α : Type} {run : Machine → List String → Except CommandError α × Machine}
    {s : Settings} {arguments : List String} {m m' : Machine} {answer : α}
    (h : query run s arguments m = (some answer, m')) :
    ∃ path, executable m s = some path ∧ run m (path.text :: arguments) = (.ok answer, m') := by
  unfold query at h
  split at h
  · cases h
  · rename_i path hpath
    split at h
    · rename_i answer m'' hrun
      obtain ⟨hanswer, rfl⟩ := Prod.mk.inj h
      obtain rfl := Option.some.inj hanswer
      exact ⟨path, hpath, hrun⟩
    · cases h

theorem of_queryBytes {s : Settings} {arguments : List String} {m m' : Machine}
    {done : Completed Bytes} (h : queryBytes s arguments m = (some done, m')) :
    ∃ path program child, executable m s = some path ∧ m.resolve path.text = .ok program ∧
      m.spawn program arguments .null = (.ok child, m') ∧ child.ending.status = 0 ∧
      child.output = done.output := by
  obtain ⟨path, hpath, hrun⟩ := of_query h
  exact ⟨path, (of_runBytes hrun).imp fun program => fun ⟨child, hrest⟩ =>
    ⟨child, hpath, hrest⟩⟩

theorem of_typeDeclarations {s : Settings} {unstable : Bool} {m m' : Machine} {content : Bytes}
    (h : typeDeclarations s unstable m = (.ok (some content), m')) :
    IsRawOutput s unstable m m' content := by
  unfold typeDeclarations at h
  split at h
  · cases h
  · cases h
  · rename_i report asked hversion
    split at h
    · cases h
    · rename_i arguments harguments
      split at h
      · cases h
      · rename_i done m'' hquery
        obtain ⟨hcontent, rfl⟩ := Prod.mk.inj h
        obtain rfl := Option.some.inj (Except.ok.inj hcontent)
        obtain ⟨path, program, child, hpath, hresolve, hspawn, hstatus, houtput⟩ :=
          of_queryBytes hquery
        exact ⟨report, asked, path, program, arguments, child, hversion, harguments, hpath,
          hresolve, hspawn, hstatus, houtput⟩

/-! ## Section 3: A single program -/

theorem executable_of_serves {s : Settings} (h : s.executable = "/deno") {m : Machine}
    {result : ChildResult} (hserves : m.Serves result) :
    executable m s = some ⟨.root, ["deno"]⟩ := by
  unfold executable
  rw [h, hserves.which_eq]
  decide

end DenoBridge.Toolchain
