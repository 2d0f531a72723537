import DenoBridge.Proofs.Files.Spelling
import DenoBridge.Proofs.Machine.Ageing

/-! # Which file is started

    Whether a file can be started depends on what is found there and not on
    the arguments.  Of the files that are tried for a name the first that can
    be started is started (`launch?_of_find?`), and running a command line is
    running a child on that launch (`execute_eq_launchOf`).  Where the null
    device cannot be opened, nothing is started that is to read it
    (`feed_null_of_readOnly`).
-/

namespace DenoBridge

open FileSystem

/-! ## Section 1: Files that can be started -/

namespace FileSystem

theorem program_isOk_congr {fs : FileSystem} {here : Place} (depth : Nat) {file file' : String}
    (h : fs.find here file = fs.find here file') (arguments arguments' : List String) :
    (fs.program here depth file arguments).isOk =
      (fs.program here depth file' arguments').isOk := by
  -- Arguments are handed on and never looked at, so the next program is the same.
  induction depth generalizing file file' arguments arguments' with
  | zero =>
    rw [program, program, h]
    cases fs.find here file' with
    | error e => rfl
    | ok found =>
      obtain ⟨place, node⟩ := found
      cases node with
      | file mode content =>
        dsimp only
        split
        · rfl
        · cases interpreter? content <;> rfl
      | _ => rfl
  | succ depth ih =>
    rw [program, program, h]
    cases fs.find here file' with
    | error e => rfl
    | ok found =>
      obtain ⟨place, node⟩ := found
      cases node with
      | file mode content =>
        dsimp only
        split
        · rfl
        · cases interpreter? content with
          | none => rfl
          | some interpreter => exact ih rfl _ _
      | _ => rfl

/-- A program that can be started may be executed. -/
theorem isExecutable_of_program {fs : FileSystem} {here : Place} {depth : Nat} {file : String}
    {arguments : List String} (h : (fs.program here depth file arguments).isOk = true) :
    fs.isExecutable here file = true := by
  unfold isExecutable
  rw [program] at h
  cases hfind : fs.find here file with
  | error e =>
    rw [hfind] at h
    cases h
  | ok found =>
    obtain ⟨place, node⟩ := found
    rw [hfind] at h
    cases node with
    | file mode content =>
      dsimp only at h ⊢
      split at h
      · cases h
      · rename_i hmode
        simpa [modeOf] using hmode
    | tool tool =>
      show (0o755 &&& executeBits != 0) = true
      decide
    | directory => cases h
    | link target => cases h
    | sink mode => cases h

/-- The null device is found where it stands. -/
theorem walk_nullDevice {fs : FileSystem} {node : Node} (hdev : fs.get? ["dev"] = some .directory)
    (hnull : fs.get? nullPlace = some node) (hleaf : node.IsLeaf) (links : Nat) :
    fs.walk true links [] ["dev", "null"] = .ok nullPlace := by
  have hlink (target : String) : fs.get? (["dev"] ++ ["null"]) ≠ some (.link target) := by
    intro habsurd
    exact hleaf.ne_link target (Option.some.inj (hnull.symm.trans habsurd))
  rw [walk_directory ⟨by decide, by decide, by decide⟩ hdev]
  exact walk_last ⟨by decide, by decide, by decide⟩ (.inr hlink)

theorem find_nullDevice {fs : FileSystem} {here : Place} {node : Node}
    (hdev : fs.get? ["dev"] = some .directory) (hnull : fs.get? nullPlace = some node)
    (hleaf : node.IsLeaf) : fs.find here nullDevice = .ok (nullPlace, node) := by
  have hlocate : fs.locate here nullDevice true = .ok nullPlace :=
    walk_nullDevice hdev hnull hleaf linkLimit
  unfold find
  rw [hlocate]
  dsimp only
  rw [hnull]

end FileSystem

namespace Machine

variable {m : Machine} {name file : String} {files arguments : List String} {input : Bytes}

/-- Can the file be started? -/
def starts (m : Machine) (file : String) : Bool :=
  (m.files.program m.directory scriptLimit file []).isOk

theorem starts_congr {file' : String}
    (h : m.files.find m.directory file = m.files.find m.directory file') :
    m.starts file = m.starts file' :=
  program_isOk_congr scriptLimit h [] []

theorem program_isOk (m : Machine) (file : String) (arguments : List String) :
    (m.files.program m.directory scriptLimit file arguments).isOk = m.starts file :=
  program_isOk_congr scriptLimit rfl arguments []

theorem isExecutable_of_starts (h : m.starts file = true) (hnul : '\x00' ∉ file.toList) :
    m.isExecutable file = true := by
  unfold isExecutable
  rw [isExecutable_of_program h]
  simpa using hnul

/-! ## Section 2: Trying files -/

/-- The first file that can be started is. -/
theorem launch?_of_find? (arguments : List String) (input : Bytes) (failure : Errno)
    (h : files.find? m.starts = some file) :
    ∃ launch, m.launch? arguments input failure files = .ok launch ∧ launch.file = file := by
  induction files generalizing failure with
  | nil => cases h
  | cons first rest ih =>
    have hok := m.program_isOk first arguments
    unfold launch?
    cases hprogram : m.files.program m.directory scriptLimit first arguments with
    | ok found =>
      rw [hprogram] at hok
      rw [List.find?_cons_of_pos hok.symm] at h
      obtain rfl := Option.some.inj h
      exact ⟨_, rfl, rfl⟩
    | error e =>
      rw [hprogram] at hok
      rw [List.find?_cons_of_neg (by rw [← hok]; simp [Except.isOk, Except.toBool])] at h
      exact ih _ h

theorem launch?_of_none (arguments : List String) (input : Bytes) (failure : Errno)
    (h : files.find? m.starts = none) :
    ∃ e, m.launch? arguments input failure files = .error e := by
  induction files generalizing failure with
  | nil => exact ⟨failure, rfl⟩
  | cons first rest ih =>
    have hok := m.program_isOk first arguments
    unfold launch?
    cases hprogram : m.files.program m.directory scriptLimit first arguments with
    | ok found =>
      rw [hprogram] at hok
      rw [List.find?_cons_of_pos hok.symm] at h
      cases h
    | error e =>
      rw [hprogram] at hok
      rw [List.find?_cons_of_neg (by rw [← hok]; simp [Except.isOk, Except.toBool])] at h
      exact ih _ h

/-- The files that are tried for a name: those that cannot be started, up to
    the first that can. -/
def attempts (m : Machine) (name : String) : List String :=
  (m.candidates name).takeWhile (fun file => !m.starts file) ++
    ((m.candidates name).find? m.starts).toList

theorem attempts_of_hasDirectory (h : hasDirectory name = true) : m.attempts name = [name] := by
  unfold attempts candidates
  rw [if_pos h]
  cases hstarts : m.starts name <;> simp [hstarts]

/-- Files that cannot be started do not keep the next one from being tried. -/
theorem mem_attempts {before after : List String}
    (hcandidates : m.candidates name = before ++ file :: after)
    (hbefore : ∀ other ∈ before, m.starts other = false) : file ∈ m.attempts name := by
  unfold attempts
  have hall : ∀ other ∈ before, (!m.starts other) = true := by
    intro other hother
    simp [hbefore other hother]
  have hnone : before.find? m.starts = none := by
    refine List.find?_eq_none.2 fun other hother => ?_
    simp [hbefore other hother]
  rw [hcandidates, List.takeWhile_append_of_pos hall, List.find?_append, hnone]
  cases hstarts : m.starts file <;> simp [hstarts]

/-! ## Section 3: Running a command line -/

/-- The launch that a command line leads to. -/
def launchOf (m : Machine) (command : List String) (given : Feed) : Except CommandError Launch :=
  match command with
  | [] => .error .noArguments
  | name :: arguments =>
    match m.resolve name with
    | .error e => .error e
    | .ok program =>
      match m.feed given with
      | .error e => .error (.file (.os e))
      | .ok input =>
        if (program :: arguments).any (·.toList.contains '\x00') then .error (.file .embeddedNul)
        else
          match m.launch? (program :: arguments) input .noEntry (m.candidates program) with
          | .error e => .error (.file (.os ⟨e, program⟩))
          | .ok launch => .ok launch

/-- Running a command line is running a child on its launch, and nothing is
    run without one. -/
theorem execute_eq_launchOf (m : Machine) (name : String) (arguments : List String)
    (given : Feed) : m.execute (name :: arguments) given =
      match m.launchOf (name :: arguments) given with
      | .error e => (.error e, m)
      | .ok launch =>
        (.ok ⟨((m.resolve name).toOption).getD name, arguments,
          (m.child launch m.files).1.ending.status, (m.child launch m.files).1.output,
          (m.child launch m.files).1.errors⟩,
          { m with files := (m.child launch m.files).2 }) := by
  unfold execute launchOf
  dsimp only
  cases hresolve : m.resolve name with
  | error e => rfl
  | ok program =>
    -- What there is to read comes first, then the check for a NUL, and then the files.
    dsimp only
    unfold spawn
    cases m.feed given with
    | error e => rfl
    | ok input =>
      dsimp only
      by_cases hnul : (program :: arguments).any (·.toList.contains '\x00') = true
      · rw [if_pos hnul, if_pos hnul]
      · rw [if_neg hnul, if_neg hnul]
        cases m.launch? (program :: arguments) input .noEntry (m.candidates program) <;> rfl

theorem launchOf_eq_ok {program : String} (hresolve : m.resolve name = .ok program)
    {given : Feed} {launch : Launch} (h : m.launchOf (name :: arguments) given = .ok launch) :
    (m.candidates program).find? m.starts = some launch.file := by
  unfold launchOf at h
  dsimp only at h
  rw [hresolve] at h
  dsimp only at h
  split at h
  · cases h
  rename_i input _
  split at h
  · cases h
  · cases hfind : (m.candidates program).find? m.starts with
    | none =>
      obtain ⟨e, he⟩ := launch?_of_none (program :: arguments) input .noEntry hfind
      rw [he] at h
      cases h
    | some file =>
      obtain ⟨launch', hlaunch, hfile⟩ :=
        launch?_of_find? (program :: arguments) input .noEntry hfind
      rw [hlaunch] at h
      obtain rfl := Except.ok.inj h
      rw [hfile]

/-- A command line without arguments leads to the first file that can be
    started. -/
theorem exists_launchOf (input : Bytes) {program : String} (hresolve : m.resolve name = .ok program)
    (hnul : '\x00' ∉ program.toList) (hfind : (m.candidates program).find? m.starts = some file) :
    ∃ launch, m.launchOf [name] (.pipe input) = .ok launch ∧ launch.file = file := by
  obtain ⟨launch, hlaunch, hfile⟩ := launch?_of_find? [program] input .noEntry hfind
  refine ⟨launch, ?_, hfile⟩
  unfold launchOf feed
  dsimp only
  rw [hresolve]
  dsimp only
  rw [if_neg (by simpa using hnul), hlaunch]

/-! ## Section 4: Looking executables up -/

theorem isExecutable_of_which (h : m.which name = some file) : m.isExecutable file = true := by
  unfold which at h
  split at h
  · split at h
    · rename_i hexecutable
      obtain rfl := Option.some.inj h
      exact hexecutable
    · cases h
  · dsimp only at h
    split at h
    · cases h
    · exact List.find?_some h

theorem find_of_isExecutable (h : m.isExecutable file = true) :
    '\x00' ∉ file.toList ∧ ∃ found, m.files.find m.directory file = .ok found := by
  unfold isExecutable at h
  obtain ⟨hnul, hfile⟩ := Bool.and_eq_true_iff.1 h
  refine ⟨by simpa using hnul, ?_⟩
  unfold FileSystem.isExecutable at hfile
  cases hfind : m.files.find m.directory file with
  | error e =>
    rw [hfind] at hfile
    cases hfile
  | ok found => exact ⟨found, rfl⟩

theorem isExecutable_congr {file' : String} (hnul : '\x00' ∉ file'.toList)
    (h : m.files.find m.directory file' = m.files.find m.directory file)
    (hfile : m.isExecutable file = true) : m.isExecutable file' = true := by
  unfold isExecutable FileSystem.isExecutable at hfile ⊢
  rw [h]
  rw [Bool.and_eq_true] at hfile ⊢
  exact ⟨by simpa using hnul, hfile.2⟩

/-- A name in a directory says where it is, unless the directory is empty. -/
theorem inDirectory_eq (directory name : String) :
    inDirectory directory name = name ∧ directory = "" ∨
      hasDirectory (inDirectory directory name) = true := by
  unfold inDirectory hasDirectory
  split
  · rename_i hempty
    exact .inl ⟨rfl, hempty⟩
  · refine .inr ?_
    split
    · rename_i hlast
      have hmem : '/' ∈ directory.toList := List.mem_of_getLast? hlast
      simp [hmem]
    · simp

/-! ## Section 5: The null device -/

/-- A device that its owner may read and write has nothing to read. -/
theorem feed_null_of_device {mode : Nat} (hdev : m.files.get? ["dev"] = some .directory)
    (hnull : m.files.get? nullPlace = some (.sink mode))
    (hread : mode &&& ownerReadBit ≠ 0) (hwrite : mode &&& ownerWriteBit ≠ 0) :
    m.feed .null = .ok [] := by
  have hfind : m.files.find m.directory nullDevice = .ok (nullPlace, .sink mode) :=
    find_nullDevice hdev hnull (Node.isLeaf_sink mode)
  unfold feed readWritable FileSystem.read written
  rw [hfind]
  dsimp only [bind, Except.bind]
  rw [if_neg hwrite, if_neg hread]
  rfl

/-- A device that its owner may not write cannot be opened for a child. -/
theorem feed_null_of_readOnly {mode : Nat} (hdev : m.files.get? ["dev"] = some .directory)
    (hnull : m.files.get? nullPlace = some (.sink mode)) (hwrite : mode &&& ownerWriteBit = 0) :
    m.feed .null = .error ⟨.accessDenied, nullDevice⟩ := by
  have hfind : m.files.find m.directory nullDevice = .ok (nullPlace, .sink mode) :=
    find_nullDevice hdev hnull (Node.isLeaf_sink mode)
  unfold feed readWritable written
  rw [hfind]
  dsimp only [bind, Except.bind]
  rw [if_pos hwrite]
  rfl

/-! ## Section 6: A single program -/

/-- The machine has the program `/deno` and a null device, and every child on
    it ends with the same result and leaves the files alone. -/
structure Serves (m : Machine) (result : ChildResult) : Prop where
  found : m.files.find m.directory "/deno" = .ok (["deno"], .tool .cat)
  null : m.feed .null = .ok []
  child : ∀ launch fs, m.child launch fs = (result, fs)

section

variable {m m' : Machine} {result : ChildResult}

theorem Serves.which_eq (h : m.Serves result) : m.which "/deno" = some "/deno" := by
  have hexecutable : m.isExecutable "/deno" = true := by
    unfold isExecutable FileSystem.isExecutable
    rw [h.found]
    decide
  unfold which
  rw [if_pos (by decide), if_pos hexecutable]

/-- A child is given what it is to read. -/
theorem Serves.exists_feed (h : m.Serves result) (given : Feed) :
    ∃ input, m.feed given = .ok input := by
  cases given with
  | null => exact ⟨[], h.null⟩
  | pipe content => exact ⟨content, rfl⟩

/-- Whatever is started, it ends with the one result. -/
theorem Serves.of_spawn (h : m.Serves result) {name : String} {arguments : List String}
    {given : Feed} {child : ChildResult}
    (hspawn : m.spawn name arguments given = (.ok child, m')) : child = result := by
  unfold spawn at hspawn
  split at hspawn
  · cases hspawn
  split at hspawn
  · cases hspawn
  · split at hspawn
    · cases hspawn
    · rw [h.child] at hspawn
      exact (Except.ok.inj (Prod.mk.inj hspawn).1).symm

/-- Whatever the program is asked, it answers with the one result. -/
theorem Serves.execute_eq (h : m.Serves result) {arguments : List String}
    (hwords : ∀ word ∈ arguments, '\x00' ∉ word.toList) (given : Feed) :
    m.execute ("/deno" :: arguments) given =
      (.ok ⟨"/deno", arguments, result.ending.status, result.output, result.errors⟩, m) := by
  obtain ⟨input, hinput⟩ := h.exists_feed given
  have hresolve : m.resolve "/deno" = .ok "/deno" := by
    unfold resolve
    dsimp only
    rw [if_pos (by decide)]
    decide
  have hnul : ("/deno" :: arguments).any (·.toList.contains '\x00') = false := by
    rw [List.any_eq_false]
    intro word hword
    rcases List.mem_cons.1 hword with rfl | hword
    · decide
    · simpa using hwords word hword
  have hlaunch : m.launch? ("/deno" :: arguments) input .noEntry ["/deno"] =
      .ok ⟨.cat, "/deno", "/deno" :: arguments, m.environment, m.directory, input⟩ := by
    unfold launch? FileSystem.program
    rw [h.found]
  have hcandidates : m.candidates "/deno" = ["/deno"] := by
    unfold candidates
    rw [if_pos (by decide)]
  have hspawn : m.spawn "/deno" arguments given = (.ok result, m) := by
    unfold spawn
    rw [hinput]
    dsimp only
    rw [hnul, hcandidates, hlaunch]
    show (Except.ok (m.child _ m.files).1, { m with files := (m.child _ m.files).2 }) = _
    rw [h.child]
  unfold execute
  dsimp only
  rw [hresolve]
  dsimp only
  rw [hspawn]

/-- It is enough that the program and the null device stand at their places. -/
theorem serves_of_tool (htool : m.files.get? ["deno"] = some (.tool .cat))
    (hdev : m.files.get? ["dev"] = some .directory)
    (hnull : m.files.get? nullPlace = some (.sink nullMode))
    (hchild : ∀ launch fs, m.child launch fs = (result, fs)) : m.Serves result := by
  have hlink (target : String) : m.files.get? ([] ++ ["deno"]) ≠ some (.link target) := by
    intro habsurd
    cases htool.symm.trans habsurd
  have hwalk : m.files.walk true FileSystem.linkLimit [] ["deno"] = .ok ["deno"] :=
    FileSystem.walk_last ⟨by decide, by decide, by decide⟩ (.inr hlink)
  have hlocate : m.files.locate m.directory "/deno" true = .ok ["deno"] := hwalk
  refine ⟨?_, feed_null_of_device hdev hnull (by decide) (by decide), hchild⟩
  unfold FileSystem.find
  rw [hlocate]
  dsimp only
  rw [htool]

end

/-- The nodes of the null device and of the directory that it stands in. -/
def nullNodes : List (Place × Node) :=
  [(nullPlace, .sink nullMode), (["dev"], .directory)]

/-- A machine with nothing but the program `/deno` and the null device, and on
    which every child ends with the same result and leaves the files alone. -/
def single (env : Environment) (result : ChildResult) : Machine :=
  ⟨⟨(["deno"], .tool .cat) :: nullNodes⟩, env, [], fun _ files => (result, files), 1, []⟩

theorem serves_single (env : Environment) (result : ChildResult) :
    (single env result).Serves result :=
  serves_of_tool rfl rfl rfl fun _ _ => rfl

end Machine

end DenoBridge
