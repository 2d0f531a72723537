import DenoBridge.Proofs.Cache.Placement
import DenoBridge.Proofs.Toolchain.Calls

/-! # The executable that is found and the one that is started

    The executable is found under a name of the settings, but it is started
    under the text of a path that this name spells, and that text is resolved
    once more.  A text with a slash means the file that was found; one without
    a slash is looked for in `PATH`, where another file may stand, or none
    (`faithful_iff`).
-/

namespace DenoBridge

open FileSystem

namespace Machine

variable {m : Machine} {name file found : String}

/-! ## Section 1: Resolving the text of a path -/

theorem nul_not_mem_text (h : '\x00' ∉ file.toList) :
    '\x00' ∉ (Path.ofString file).text.toList := by
  intro hmem
  obtain ⟨name, hname, -⟩ := (Path.mem_text (by decide) (by decide)).1 hmem
  have hnames : Path.namesOf file.toList ≠ [] := List.ne_nil_of_mem hname
  exact h ((text_sublist hnames).subset hmem)

/-- The text of an absolute path stands for itself; any other is looked up. -/
theorem resolve_text (m : Machine) (file : String) : m.resolve (Path.ofString file).text =
    if (Path.ofString file).isAbsolute then .ok (Path.ofString file).text
    else
      match m.which (Path.ofString file).text with
      | some program => .ok program
      | none => .error (.notFound (Path.ofString file).text) := by
  unfold resolve
  rewrite [Path.ofString_text (Path.isProper_ofString file)]
  rfl

theorem hasDirectory_of_isAbsolute (h : (Path.ofString file).isAbsolute = true) :
    hasDirectory (Path.ofString file).text = true := by
  have hhead := (head?_text (Path.isProper_ofString file)).2 h
  unfold hasDirectory
  rw [List.contains_iff_mem]
  exact List.mem_of_mem_head? hhead

theorem which_of_hasDirectory (h : hasDirectory name = true) (hname : m.isExecutable name = true) :
    m.which name = some name := by
  unfold which
  rw [if_pos h, if_pos hname]

/-- Under the text of its path an executable is the same file. -/
theorem respelled_of_isExecutable (h : m.isExecutable file = true) :
    m.files.find m.directory (Path.ofString file).text = m.files.find m.directory file ∧
      m.isExecutable (Path.ofString file).text = true := by
  obtain ⟨hnul, place, hfind⟩ := find_of_isExecutable h
  have hsame : m.files.find m.directory (Path.ofString file).text =
      m.files.find m.directory file := by
    rw [find_respelled hfind, hfind]
  exact ⟨hsame, isExecutable_congr (nul_not_mem_text hnul) hsame h⟩

theorem resolve_text_of_hasDirectory (hfile : m.isExecutable file = true)
    (h : hasDirectory (Path.ofString file).text = true) :
    m.resolve (Path.ofString file).text = .ok (Path.ofString file).text := by
  obtain ⟨-, hexecutable⟩ := respelled_of_isExecutable hfile
  rw [resolve_text, which_of_hasDirectory h hexecutable]
  split <;> rfl

theorem resolve_text_of_which (h : hasDirectory (Path.ofString file).text = false)
    {program : String} (hprogram : m.which (Path.ofString file).text = some program) :
    m.resolve (Path.ofString file).text = .ok program := by
  have habs : ¬ (Path.ofString file).isAbsolute = true := by
    intro habs
    rw [hasDirectory_of_isAbsolute habs] at h
    cases h
  rw [resolve_text, if_neg habs, hprogram]

theorem which_of_resolve_text (h : hasDirectory (Path.ofString file).text = false)
    {program : String} (hresolve : m.resolve (Path.ofString file).text = .ok program) :
    m.which (Path.ofString file).text = some program := by
  cases hprogram : m.which (Path.ofString file).text with
  | some found =>
    rw [resolve_text_of_which h hprogram] at hresolve
    rw [Except.ok.inj hresolve]
  | none =>
    have habs : ¬ (Path.ofString file).isAbsolute = true := by
      intro habs
      rw [hasDirectory_of_isAbsolute habs] at h
      cases h
    rw [resolve_text, if_neg habs, hprogram] at hresolve
    cases hresolve

/-! ## Section 2: Looking a bare name up -/

/-- What a search of `PATH` finds stands behind files that are no executables,
    among the files that are tried to start the name. -/
theorem candidates_of_which (h : hasDirectory name = false) (hwhich : m.which name = some file) :
    ∃ before after, m.candidates name = before ++ file :: after ∧
      ∀ other ∈ before, m.isExecutable other = false := by
  unfold which at hwhich
  rw [if_neg (by simp [h])] at hwhich
  dsimp only at hwhich
  split at hwhich
  · cases hwhich
  · obtain ⟨-, before, after, hsplit, hbefore⟩ := List.find?_eq_some_iff_append.1 hwhich
    refine ⟨before, after, ?_, fun other hother => by simpa using hbefore other hother⟩
    unfold candidates
    rw [if_neg (by simp [h]), hsplit]

/-- A file that is found without saying where is the name itself. -/
theorem eq_of_which (h : hasDirectory name = false) (hwhich : m.which name = some file)
    (hfile : hasDirectory file = false) : file = name := by
  obtain ⟨before, after, hsplit, -⟩ := candidates_of_which h hwhich
  have hmem : file ∈ m.candidates name := by simp [hsplit]
  unfold candidates at hmem
  rw [if_neg (by simp [h])] at hmem
  obtain ⟨directory, -, rfl⟩ := List.mem_map.1 hmem
  rcases inDirectory_eq directory name with ⟨hbare, -⟩ | hslash
  · exact hbare
  · rw [hslash] at hfile
    cases hfile

/-- The value of `PATH` holds no NUL, as no value of an environment does. -/
def HasPlainPath (m : Machine) : Prop :=
  ∀ path, m.environment.get? "PATH" = some path → '\x00' ∉ path.toList

theorem nul_not_mem_candidates (hpath : m.HasPlainPath) (hname : '\x00' ∉ name.toList)
    {other : String} (hother : other ∈ m.candidates name) : '\x00' ∉ other.toList := by
  unfold candidates at hother
  split at hother
  · obtain rfl : other = name := by simpa using hother
    exact hname
  · obtain ⟨directory, hdirectory, rfl⟩ := List.mem_map.1 hother
    have hsearch : '\x00' ∉ ((m.environment.get? "PATH").getD defaultSearchPath).toList := by
      cases hvalue : m.environment.get? "PATH" with
      | none => decide
      | some path => exact hpath path hvalue
    have hplain : '\x00' ∉ directory.toList := by
      intro hmem
      obtain ⟨piece, hpiece, rfl⟩ := List.mem_map.1 hdirectory
      rw [String.toList_ofList] at hmem
      exact hsearch (Text.mem_of_mem_pieces hpiece hmem)
    unfold inDirectory
    split
    · exact hname
    · split
      · simp [hplain, hname]
      · simp [hplain, hname]

/-! ## Section 3: Faithful starts -/

/-- Running the name starts the file that was found, as far as any file is
    started: the name is resolved, the file is among those that are tried, and
    no other file is ever started. -/
structure Faithful (m : Machine) (found name : String) : Prop where
  tried : ∃ program, m.resolve name = .ok program ∧ ∃ file ∈ m.attempts program,
    m.files.find m.directory file = m.files.find m.directory found
  only : ∀ arguments given launch, m.launchOf (name :: arguments) given = .ok launch →
    m.files.find m.directory launch.file = m.files.find m.directory found

/-- A name that is resolved to a place is faithful to what stands there. -/
theorem faithful_of_hasDirectory {program : String} (hresolve : m.resolve name = .ok program)
    (h : hasDirectory program = true)
    (hsame : m.files.find m.directory program = m.files.find m.directory found) :
    m.Faithful found name := by
  constructor
  · refine ⟨program, hresolve, program, ?_, hsame⟩
    rw [attempts_of_hasDirectory h]
    exact List.mem_singleton.2 rfl
  · intro arguments given launch hlaunch
    have hfile := List.mem_of_find?_eq_some (launchOf_eq_ok hresolve hlaunch)
    unfold candidates at hfile
    rw [if_pos h] at hfile
    rw [List.mem_singleton.1 hfile, hsame]

/-- A bare name is faithful as long as the search does not get past the file. -/
theorem faithful_of_bare (hpath : m.HasPlainPath) (hnul : '\x00' ∉ name.toList)
    (h : hasDirectory name = false) (hresolve : m.resolve name = .ok name)
    (hwhich : m.which name = some name)
    (hsame : m.files.find m.directory name = m.files.find m.directory found)
    (hstart : m.starts found = true ∨ ∀ other ∈ m.candidates name, m.starts other = false) :
    m.Faithful found name := by
  obtain ⟨before, after, hsplit, hbefore⟩ := candidates_of_which h hwhich
  -- The files in front are no executables, so none of them is started instead.
  have hidle : ∀ other ∈ before, m.starts other = false := by
    intro other hother
    by_contra hstarts
    rw [Bool.not_eq_false] at hstarts
    have hmem : other ∈ m.candidates name := by simp [hsplit, hother]
    have hexecutable := isExecutable_of_starts hstarts (nul_not_mem_candidates hpath hnul hmem)
    rw [hbefore other hother] at hexecutable
    cases hexecutable
  constructor
  · exact ⟨name, hresolve, name, mem_attempts hsplit hidle, hsame⟩
  · intro arguments given launch hlaunch
    have hfind := launchOf_eq_ok hresolve hlaunch
    rcases hstart with hfound | hnone
    · have hnone : before.find? m.starts = none :=
        List.find?_eq_none.2 fun other hother => by simp [hidle other hother]
      rw [hsplit, List.find?_append, hnone, Option.none_or,
        List.find?_cons_of_pos ((starts_congr hsame).trans hfound)] at hfind
      rw [← Option.some.inj hfind, hsame]
    · have hlaunched := List.find?_some hfind
      rw [hnone _ (List.mem_of_find?_eq_some hfind)] at hlaunched
      cases hlaunched

/-- A machine whose only executable stands in the current directory. -/
def besideDeno : Machine :=
  single .empty ⟨[], [], .exited 0⟩

end Machine

namespace Toolchain

open Machine

variable {m : Machine} {s : Settings} {found : String}

/-- Exactly when the calls of the toolchain start the file that was found: the
    text of its path has a slash, or looking the text up again finds the same
    file, and the search that starts it does not get past it. -/
theorem faithful_iff (hpath : m.HasPlainPath) (h : m.which s.executable = some found) :
    ∃ path, executable m s = some path ∧ CallsRun s m path.text ∧
      (m.Faithful found path.text ↔ hasDirectory path.text = true ∨
        ∃ file, m.which path.text = some file ∧
          m.files.find m.directory file = m.files.find m.directory found ∧
          (hasDirectory file = true ∨ m.starts found = true ∨
            ∀ other ∈ m.candidates file, m.starts other = false)) := by
  have hfound := isExecutable_of_which h
  obtain ⟨hsame, hexecutable⟩ := respelled_of_isExecutable hfound
  obtain ⟨hnul, -⟩ := find_of_isExecutable hexecutable
  have hpath' : executable m s = some (Path.ofString found) := by
    rw [executable, h, Option.map_some]
  refine ⟨Path.ofString found, hpath', callsRun_executable hpath', ?_⟩
  by_cases hslash : hasDirectory (Path.ofString found).text = true
  · -- A text that says where the file is means the file that was found.
    have hresolve := resolve_text_of_hasDirectory hfound hslash
    exact ⟨fun _ => .inl hslash, fun _ => faithful_of_hasDirectory hresolve hslash hsame⟩
  · rw [Bool.not_eq_true] at hslash
    constructor
    · rintro ⟨⟨program, hresolve, file, hfile, hfileSame⟩, honly⟩
      have hwhich := which_of_resolve_text hslash hresolve
      refine .inr ⟨program, hwhich, ?_⟩
      by_cases hprogram : hasDirectory program = true
      · rw [attempts_of_hasDirectory hprogram, List.mem_singleton] at hfile
        exact ⟨hfile ▸ hfileSame, .inl hprogram⟩
      · -- The program is the bare text, and the system searches for it again.
        obtain rfl := eq_of_which hslash hwhich (by simpa using hprogram)
        refine ⟨hsame, .inr ?_⟩
        cases hfirst : (m.candidates (Path.ofString found).text).find? m.starts with
        | none =>
          exact .inr fun other hother => by simpa using List.find?_eq_none.1 hfirst other hother
        | some first =>
          obtain ⟨launch, hlaunch, rfl⟩ := exists_launchOf [] hresolve hnul hfirst
          have hlaunched := honly [] (.pipe []) launch hlaunch
          exact .inl ((starts_congr hlaunched).symm.trans (List.find?_some hfirst))
    · rintro (habsurd | ⟨file, hwhich, hfileSame, hstart⟩)
      · rw [hslash] at habsurd
        cases habsurd
      · have hresolve := resolve_text_of_which hslash hwhich
        by_cases hfile : hasDirectory file = true
        · exact faithful_of_hasDirectory hresolve hfile hfileSame
        · obtain rfl := eq_of_which hslash hwhich (by simpa using hfile)
          refine faithful_of_bare hpath hnul hslash hresolve hwhich hsame ?_
          exact hstart.resolve_left hfile

/-! ## Section 5: A name with a leading dot -/

/-- The settings that name a file of the current directory. -/
def namedHere : Settings :=
  { Settings.default with executable := "./deno" }

theorem find_besideDeno : besideDeno.files.find [] "./deno" = .ok (["deno"], .tool .cat) := by
  have hlink (target : String) : besideDeno.files.get? ([] ++ ["deno"]) ≠ some (.link target) := by
    intro habsurd
    cases habsurd
  have hwalk : besideDeno.files.walk true FileSystem.linkLimit [] [".", "deno"] = .ok ["deno"] := by
    rw [FileSystem.walk_dot]
    exact FileSystem.walk_last ⟨by decide, by decide, by decide⟩ (.inr hlink)
  have hlocate : besideDeno.files.locate [] "./deno" true = .ok ["deno"] := hwalk
  unfold FileSystem.find
  rw [hlocate]
  rfl

theorem which_besideDeno : besideDeno.which "./deno" = some "./deno" := by
  refine which_of_hasDirectory (by decide) ?_
  unfold Machine.isExecutable FileSystem.isExecutable
  have hfind : besideDeno.files.find besideDeno.directory "./deno" = _ := find_besideDeno
  rw [hfind]
  decide

theorem not_isExecutable_besideDeno {file : String}
    (h : besideDeno.files.locate [] file true = .error .noEntry) :
    besideDeno.isExecutable file = false := by
  have hlocate : besideDeno.files.locate besideDeno.directory file true = _ := h
  unfold Machine.isExecutable FileSystem.isExecutable FileSystem.find
  rw [hlocate]
  exact Bool.and_false _

/-- Without its slash the name is not found again. -/
theorem which_bare_besideDeno : besideDeno.which "deno" = none := by
  have hbin : besideDeno.isExecutable "/bin/deno" = false := by
    refine not_isExecutable_besideDeno ?_
    show besideDeno.files.walk true FileSystem.linkLimit [] ["bin", "deno"] = .error .noEntry
    exact FileSystem.walk_none ⟨by decide, by decide, by decide⟩ rfl (by decide)
  have husr : besideDeno.isExecutable "/usr/bin/deno" = false := by
    refine not_isExecutable_besideDeno ?_
    show besideDeno.files.walk true FileSystem.linkLimit [] ["usr", "bin", "deno"] =
      .error .noEntry
    exact FileSystem.walk_none ⟨by decide, by decide, by decide⟩ rfl (by decide)
  show ["/bin/deno", "/usr/bin/deno"].find? besideDeno.isExecutable = none
  rw [List.find?_cons_of_neg (by simp [hbin]), List.find?_cons_of_neg (by simp [husr])]
  rfl

theorem executable_besideDeno :
    executable besideDeno namedHere = some ⟨.relative, ["deno"]⟩ := by
  have hwhich : besideDeno.which namedHere.executable = some "./deno" := which_besideDeno
  unfold executable
  rw [hwhich]
  decide

theorem resolve_besideDeno : besideDeno.resolve "deno" = .error (.notFound "deno") := by
  unfold resolve
  rw [which_bare_besideDeno]
  rfl

/-- The dot is lost with the slash, and the file that was found is not the one
    that the calls start. -/
theorem leading_dot_not_faithful : besideDeno.HasPlainPath ∧
    besideDeno.which namedHere.executable = some "./deno" ∧
    ∃ path, executable besideDeno namedHere = some path ∧
      CallsRun namedHere besideDeno path.text ∧ ¬ besideDeno.Faithful "./deno" path.text := by
  have hpath : besideDeno.HasPlainPath := by
    intro path habsurd
    cases habsurd
  obtain ⟨path, hexecutable, hcalls, hiff⟩ :=
    faithful_iff (m := besideDeno) (s := namedHere) hpath which_besideDeno
  refine ⟨hpath, which_besideDeno, path, hexecutable, hcalls, ?_⟩
  rw [executable_besideDeno] at hexecutable
  obtain rfl := Option.some.inj hexecutable
  rw [hiff]
  rintro (hslash | ⟨file, hwhich, -⟩)
  · exact absurd hslash (by decide)
  · have hbare : besideDeno.which "deno" = some file := hwhich
    rw [which_bare_besideDeno] at hbare
    cases hbare

/-- An executable that is found, and that formatting reports as not found. -/
theorem leading_dot_not_found :
    besideDeno.which namedHere.executable = some "./deno" ∧
      executable besideDeno namedHere = some ⟨.relative, ["deno"]⟩ ∧
      (format namedHere "x" besideDeno).1 =
        .error (.formatter ⟨"Executable 'deno' was not found on PATH", none⟩) := by
  refine ⟨which_besideDeno, executable_besideDeno, ?_⟩
  have hlaunch : besideDeno.launchOf ["deno", "fmt", "-"] (.pipe (Utf8.encodeString "x")) =
      .error (.notFound "deno") := by
    unfold launchOf
    dsimp only
    rw [resolve_besideDeno]
  rw [format_of_launchOf_error executable_besideDeno hlaunch]
  rfl

end Toolchain

end DenoBridge
