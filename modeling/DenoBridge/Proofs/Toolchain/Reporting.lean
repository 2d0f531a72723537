import DenoBridge.Proofs.Text.Encoding
import DenoBridge.Proofs.Text.Split
import DenoBridge.Proofs.Text.Trim
import DenoBridge.Proofs.Path.Containment
import DenoBridge.Proofs.Toolchain.Probing

/-! # The cache root that is reported

    The toolchain prints its cache root in the first line of its answer, as a
    path between quotation marks or behind a label.  Sequences that set colours
    or styles may stand anywhere in the answer (`IsStyled`); they leave no
    trace in the first line (`firstLine_dropStyles`).  The path is then the
    first text between quotation marks (`quoted?_label`), or, where the line
    has no such mark, all that follows the first label (`labelled?_label`).
    So the path that was printed is the one that is read
    (`reportedRoot_of_announced`).
-/

namespace DenoBridge

/-! ## Section 1: The first line -/

namespace Text

variable {line rest text : List Char} {c : Char}

/-- The text is the line, or goes on with the end of the line. -/
def FirstLine (line text : List Char) : Prop :=
  ∃ rest, text = line ++ rest ∧ ∀ c, rest.head? = some c → isLineEnd c = true

theorem linesAfter_cons (hc : isLineEnd c = false) (line rest : List Char) :
    linesAfter line (c :: rest) = linesAfter (c :: line) rest := by
  rw [linesAfter.eq_3]
  · exact if_neg (by simp [hc])
  · intro _ hreturn
    subst hreturn
    exact absurd hc (by decide)

theorem linesAfter_append (h : ∀ c ∈ text, isLineEnd c = false) (line rest : List Char) :
    linesAfter line (text ++ rest) = linesAfter (text.reverse ++ line) rest := by
  induction text generalizing line with
  | nil => rfl
  | cons c more ih =>
    rw [List.cons_append, linesAfter_cons (h c List.mem_cons_self),
      ih fun d hd => h d (List.mem_cons_of_mem c hd)]
    simp

theorem lines_of_firstLine (h : FirstLine line text) (hne : line ≠ [])
    (hends : ∀ c ∈ line, isLineEnd c = false) : ∃ more, lines text = line :: more := by
  obtain ⟨rest, rfl, hrest⟩ := h
  unfold lines
  rw [linesAfter_append hends, List.append_nil]
  -- What follows the line closes it, whether it is nothing or an end of line.
  unfold linesAfter
  split
  · refine ⟨[], ?_⟩
    simp [hne]
  · exact ⟨_, by rw [List.reverse_reverse]⟩
  · rename_i c more hnot
    refine ⟨linesAfter [] more, ?_⟩
    rw [if_pos (hrest c rfl), List.reverse_reverse]

/-- An end of line at the start of a text stays one. -/
theorem head?_unifyLineEnds (h : ∀ c, rest.head? = some c → isLineEnd c = true) :
    ∀ c, (unifyLineEnds rest).head? = some c → isLineEnd c = true := by
  intro c hc
  unfold unifyLineEnds at hc
  split at hc
  · cases hc
  · obtain rfl := Option.some.inj hc
    decide
  · obtain rfl := Option.some.inj hc
    decide
  · exact h c hc

end Text

namespace Toolchain

/-! ## Section 2: Colours and styles -/

/-- The second text is the first one with sequences inserted that set colours
    or styles. -/
inductive IsStyled : List Char → List Char → Prop where
  | nil : IsStyled [] []
  | char (c : Char) {plain styled : List Char} (h : IsStyled plain styled) :
      IsStyled (c :: plain) (c :: styled)
  | style (parameters : List Char) (hparameters : ∀ c ∈ parameters, (c.isDigit || c == ';') = true)
      {plain styled : List Char} (h : IsStyled plain styled) :
      IsStyled plain ('\x1b' :: '[' :: (parameters ++ 'm' :: styled))

variable {line plain styled text parameters : List Char} {c : Char}

theorem IsStyled.refl (text : List Char) : IsStyled text text := by
  induction text with
  | nil => exact .nil
  | cons c rest ih => exact .char c ih

theorem IsStyled.append {plain' styled' : List Char} (h : IsStyled plain styled)
    (h' : IsStyled plain' styled') : IsStyled (plain ++ plain') (styled ++ styled') := by
  induction h with
  | nil => exact h'
  | char c h ih => exact .char c ih
  | style parameters hparameters h ih =>
    rw [List.cons_append, List.cons_append, List.append_assoc, List.cons_append]
    exact .style parameters hparameters ih

theorem IsStyled.not_mem_return (h : IsStyled plain styled) (hplain : '\r' ∉ plain) :
    '\r' ∉ styled := by
  induction h with
  | nil => exact hplain
  | char c h ih =>
    rw [List.mem_cons, not_or] at hplain ⊢
    exact ⟨hplain.1, ih hplain.2⟩
  | style parameters hparameters h ih =>
    have hreturn : '\r' ∉ parameters := by
      intro hmem
      exact absurd (hparameters _ hmem) (by decide)
    simp [hreturn, ih hplain]

/-- Up to a character of its own, a styled text is the styled part before it. -/
theorem IsStyled.split {rest : List Char} (h : IsStyled (line ++ c :: rest) styled) :
    ∃ front back, styled = front ++ c :: back ∧ IsStyled line front := by
  generalize htext : line ++ c :: rest = text at h
  induction h generalizing line with
  | nil => simp at htext
  | char d h ih =>
    cases line with
    | nil =>
      obtain ⟨rfl, -⟩ := List.cons.inj htext
      exact ⟨[], _, rfl, .nil⟩
    | cons first more =>
      obtain ⟨rfl, hmore⟩ := List.cons.inj htext
      obtain ⟨front, back, rfl, hfront⟩ := ih hmore
      exact ⟨first :: front, back, rfl, .char first hfront⟩
  | style parameters hparameters h ih =>
    obtain ⟨front, back, rfl, hfront⟩ := ih htext
    refine ⟨'\x1b' :: '[' :: (parameters ++ 'm' :: front), back, by simp, ?_⟩
    exact .style parameters hparameters hfront

theorem afterStyle?_eq (hparameters : ∀ c ∈ parameters, (c.isDigit || c == ';') = true)
    (rest : List Char) : afterStyle? ('[' :: (parameters ++ 'm' :: rest)) = some rest := by
  have hdrop : (parameters ++ 'm' :: rest).dropWhile (fun c => c.isDigit || c == ';') =
      'm' :: rest := by
    rw [List.dropWhile_append_of_pos hparameters, List.dropWhile_cons_of_neg (by decide)]
  unfold afterStyle?
  simp only [hdrop]

theorem dropStyles_cons (hc : c ≠ '\x1b') (rest : List Char) :
    dropStyles (c :: rest) = c :: dropStyles rest := by
  rw [dropStyles, if_neg hc]

theorem dropStyles_style (hparameters : ∀ c ∈ parameters, (c.isDigit || c == ';') = true)
    (rest : List Char) :
    dropStyles ('\x1b' :: '[' :: (parameters ++ 'm' :: rest)) = dropStyles rest := by
  rw [dropStyles, if_pos rfl]
  split
  · rename_i after hafter
    rw [afterStyle?_eq hparameters] at hafter
    rw [Option.some.inj hafter]
  · rename_i hafter
    rw [afterStyle?_eq hparameters] at hafter
    cases hafter

/-- Inserted sequences leave no trace, whatever follows them. -/
theorem dropStyles_append (h : IsStyled plain styled) (hescape : '\x1b' ∉ plain)
    (rest : List Char) : dropStyles (styled ++ rest) = plain ++ dropStyles rest := by
  induction h with
  | nil => rfl
  | char c h ih =>
    rw [List.mem_cons, not_or] at hescape
    rw [List.cons_append, dropStyles_cons (Ne.symm hescape.1), ih hescape.2, List.cons_append]
  | style parameters hparameters h ih =>
    rw [List.cons_append, List.cons_append, List.append_assoc, List.cons_append,
      dropStyles_style hparameters, ih hescape]

theorem head?_dropStyles (h : text.head? ≠ some '\x1b') : (dropStyles text).head? = text.head? := by
  cases text with
  | nil => rw [dropStyles]
  | cons c rest =>
    rw [dropStyles_cons fun hc => h (congrArg some hc)]
    rfl

/-- The first line of a text is still the first line when the text was styled,
    captured and freed of its styles. -/
theorem firstLine_dropStyles (h : IsStyled plain styled) (hline : Text.FirstLine line plain)
    (hescape : '\x1b' ∉ line) (hends : ∀ c ∈ line, Text.isLineEnd c = false) :
    Text.FirstLine line (dropStyles (Text.unifyLineEnds styled)) := by
  have hreturn : '\r' ∉ line := by
    intro hmem
    exact absurd (hends _ hmem) (by decide)
  obtain ⟨rest, rfl, hrest⟩ := hline
  cases rest with
  | nil =>
    rw [List.append_nil] at h
    have hclean : dropStyles styled = line := by
      have happend := dropStyles_append h hescape []
      rwa [List.append_nil, dropStyles, List.append_nil] at happend
    rw [Text.unifyLineEnds_of_not_mem (h.not_mem_return hreturn), hclean]
    refine ⟨[], (List.append_nil line).symm, ?_⟩
    intro c hc
    cases hc
  | cons c more =>
    obtain ⟨front, back, rfl, hfront⟩ := h.split
    have hend : ∀ d, (Text.unifyLineEnds (c :: back)).head? = some d →
        Text.isLineEnd d = true := by
      apply Text.head?_unifyLineEnds
      intro d hd
      obtain rfl := Option.some.inj hd
      exact hrest c rfl
    rw [Text.unifyLineEnds_append (hfront.not_mem_return hreturn),
      dropStyles_append hfront hescape]
    refine ⟨_, rfl, ?_⟩
    -- The end of the line is no escape character, so it stays.
    rw [head?_dropStyles]
    · exact hend
    · intro hhead
      exact absurd (hend _ hhead) (by decide)

/-! ## Section 3: The path in the line -/

/-- The word before the path. -/
def rootLabel : List Char := "DENO_DIR location: ".toList

variable {path : List Char}

theorem quoted?_of_not_mem (h : '"' ∉ line) : quoted? line = none := by
  unfold quoted?
  rw [Text.pieces_of_not_mem h]
  rfl

theorem quoted?_label (hne : path ≠ []) (hquote : '"' ∉ path) :
    quoted? (rootLabel ++ '"' :: (path ++ ['"'])) = some path := by
  have hlabel : '"' ∉ rootLabel := by decide
  unfold quoted?
  rw [Text.pieces_append_sep hlabel, Text.pieces_append_sep hquote]
  show [path].find? (fun text => !text.isEmpty) = some path
  rw [List.find?_cons_of_pos]
  simp [hne]

/-- What follows the first label is the blank and all of the path. -/
theorem after?_label (path : List Char) :
    after? "location:".toList (rootLabel ++ path) = some (' ' :: path) := rfl

theorem labelled?_label (hne : path ≠ [])
    (hblank : ∀ c, path.head? = some c ∨ path.getLast? = some c → Text.isBlank c = false) :
    labelled? (rootLabel ++ path) = some path := by
  have htrim : Text.trim (' ' :: path) = path := by
    have hspace : ∀ c ∈ [' '], Text.isBlank c = true := by decide
    have hcore := Text.trim_append hspace hne (fun c hc => hblank c (.inl hc))
      (fun c hc => hblank c (.inr hc)) []
    rw [List.append_nil] at hcore
    rw [show ' ' :: path = [' '] ++ path from rfl, hcore]
    exact List.append_nil path
  unfold labelled?
  rw [after?_label, Option.map_some, htrim]
  split
  · rename_i habsurd
    exact absurd (Option.some.inj habsurd) hne
  · rfl

/-- The line announces the path: between quotation marks, or as it is, if it
    has no blanks at its ends. -/
inductive Announces (path : List Char) : List Char → Prop where
  | quoted : Announces path (rootLabel ++ '"' :: (path ++ ['"']))
  | plain (hblank : ∀ c, path.head? = some c ∨ path.getLast? = some c → Text.isBlank c = false) :
      Announces path (rootLabel ++ path)

theorem rootIn?_of_announces (h : Announces path line) (hne : path ≠ []) (hquote : '"' ∉ path) :
    rootIn? line = some (Path.normalForm (String.ofList path)) := by
  unfold rootIn?
  cases h with
  | quoted =>
    rw [quoted?_label hne hquote]
    rfl
  | plain hblank =>
    have hlabel : '"' ∉ rootLabel := by decide
    have hnone : '"' ∉ rootLabel ++ path := by
      rw [List.mem_append, not_or]
      exact ⟨hlabel, hquote⟩
    rw [quoted?_of_not_mem hnone, labelled?_label hne hblank]
    rfl

theorem Announces.not_mem (h : Announces path line) (hlabel : c ∉ rootLabel) (hquote : c ≠ '"')
    (hpath : c ∉ path) : c ∉ line := by
  cases h with
  | quoted => simp [hlabel, hquote, hpath]
  | plain => simp [hlabel, hpath]

/-! ## Section 4: The answer -/

variable {s : Settings} {m m' : Machine} {child : ChildResult} {printed errors : List Char}

/-- A path that a line of text can show as it is. -/
structure IsShowable (path : List Char) : Prop where
  ne_nil : path ≠ []
  quote : '"' ∉ path
  escape : '\x1b' ∉ path
  lineEnd : ∀ c ∈ path, Text.isLineEnd c = false

theorem Announces.lineEnd (h : Announces path line) (hends : ∀ c ∈ path, Text.isLineEnd c = false) :
    ∀ c ∈ line, Text.isLineEnd c = false := by
  intro c hmem
  by_contra hc
  rw [Bool.not_eq_false] at hc
  have hlabel : c ∉ rootLabel := by
    intro hlabel
    have hnone : ∀ d ∈ rootLabel, Text.isLineEnd d = false := by decide
    rw [hnone c hlabel] at hc
    cases hc
  have hquote : c ≠ '"' := by
    rintro rfl
    exact absurd hc (by decide)
  have hpath : c ∉ path := by
    intro hpath
    rw [hends c hpath] at hc
    cases hc
  exact h.not_mem hlabel hquote hpath hmem

/-- A toolchain that ends well and prints its cache root in the first line, with
    whatever styles and whatever text after the line, reports the normal form
    of the path. -/
theorem reportedRoot_of_announced (hinfo : Delivers s m ["info"] child m')
    (hprinted : child.output = Utf8.encode printed)
    (herrors : Utf8.decode child.errors = .ok errors) (hstyled : IsStyled text printed)
    (hline : Text.FirstLine line text) (hannounces : Announces path line)
    (hpath : IsShowable path) :
    ∃ root, normalize? (some (String.ofList path)) = .ok root ∧
      reportedRoot s m = (some root, m') := by
  have hne : String.ofList path ≠ "" := by
    intro habsurd
    exact hpath.ne_nil (by simpa using congrArg String.toList habsurd)
  refine ⟨_, Path.normalize?_of_ne_empty hne, ?_⟩
  have hends : ∀ c ∈ line, Text.isLineEnd c = false := hannounces.lineEnd hpath.lineEnd
  have hescape : '\x1b' ∉ line := hannounces.not_mem (by decide) (by decide) hpath.escape
  have hline_ne : line ≠ [] := by
    cases hannounces with
    | quoted => simp
    | plain => simp [hpath.ne_nil]
  -- What the program captures is the printed text, with its ends of lines unified.
  have hcaptured : Machine.decodeText child.output =
      .ok (String.ofList (Text.unifyLineEnds printed)) := by
    rw [hprinted, Machine.decodeText, Utf8.decode_encode]
  have hsilent : Machine.decodeText child.errors =
      .ok (String.ofList (Text.unifyLineEnds errors)) := by
    rw [Machine.decodeText, herrors]
  obtain ⟨program, hquery⟩ := queryText_of_delivers hinfo hcaptured hsilent
  obtain ⟨more, hlines⟩ :=
    Text.lines_of_firstLine (firstLine_dropStyles hstyled hline hescape hends) hline_ne hends
  unfold reportedRoot
  rw [hquery]
  dsimp only
  rw [String.toList_ofList, hlines]
  dsimp only
  rw [rootIn?_of_announces hannounces hpath.ne_nil hpath.quote]

/-- A path with blanks and with the label in it. -/
def labelledPath : List Char := "/my cache/location: x".toList

/-- What a toolchain prints that shows its labels in bold and paths in colour. -/
def styledInfo : List Char :=
  '\x1b' :: '[' :: ("1".toList ++ 'm' :: "DENO_DIR ".toList) ++
    ('\x1b' :: '[' :: ("36;4".toList ++ 'm' :: "location: /my cache/loca".toList) ++
      '\x1b' :: '[' :: ("".toList ++ 'm' :: "tion: x\r\nRemote modules".toList))

theorem isStyled_styledInfo :
    IsStyled (rootLabel ++ labelledPath ++ "\r\nRemote modules".toList) styledInfo := by
  have hbold := IsStyled.style "1".toList (by decide) (.refl "DENO_DIR ".toList)
  have hcolour := IsStyled.style "36;4".toList (by decide) (.refl "location: /my cache/loca".toList)
  have hplain := IsStyled.style "".toList (by decide) (.refl "tion: x\r\nRemote modules".toList)
  exact hbold.append (hcolour.append hplain)

/-- Neither the styles nor the second label keep the path from being read. -/
theorem labelledPath_reported :
    (reportedRoot namedDeno (.single ⟨[]⟩ ⟨Utf8.encode styledInfo, [], .exited 0⟩)).1 =
      some ⟨.root, ["my cache", "location: x"]⟩ := by
  have hdelivers : Delivers namedDeno
      (.single ⟨[]⟩ ⟨Utf8.encode styledInfo, [], .exited 0⟩) ["info"]
      ⟨Utf8.encode styledInfo, [], .exited 0⟩
      (.single ⟨[]⟩ ⟨Utf8.encode styledInfo, [], .exited 0⟩) :=
    delivers_of_serves (Machine.serves_single _ _) rfl rfl (by decide)
  have hblank : ∀ c, labelledPath.head? = some c ∨ labelledPath.getLast? = some c →
      Text.isBlank c = false := by
    intro c hc
    rcases hc with hfirst | hlast
    · obtain rfl : '/' = c := Option.some.inj hfirst
      decide
    · obtain rfl : 'x' = c := Option.some.inj hlast
      decide
  have hend : Text.FirstLine (rootLabel ++ labelledPath)
      (rootLabel ++ labelledPath ++ "\r\nRemote modules".toList) := by
    refine ⟨_, rfl, ?_⟩
    intro c hc
    obtain rfl : '\r' = c := Option.some.inj hc
    decide
  obtain ⟨root, hroot, hreported⟩ := reportedRoot_of_announced hdelivers rfl
    (Utf8.decode_eq_nil_iff.2 rfl) isStyled_styledInfo hend (.plain hblank)
    ⟨by decide, by decide, by decide, by decide⟩
  have hnormal : normalize? (some (String.ofList labelledPath)) =
      .ok ⟨.root, ["my cache", "location: x"]⟩ := by decide
  rw [hroot] at hnormal
  rw [hreported, Except.ok.inj hnormal]

end Toolchain

end DenoBridge
