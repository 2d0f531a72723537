import Mathlib.Data.List.TakeWhile
import DenoBridge.Url.Key
import DenoBridge.Proofs.Hostname.Ascii
import DenoBridge.Proofs.Path.Reading

/-! # What the parts of a URL can hold

    A scheme that is not empty is a name and no `..` (`isName_scheme`).  An
    authority ends before the first slash and holds no impostor, so the name
    of a host holds no slash, however its text was written
    (`slash_not_mem_hostName`).  Nothing stronger holds: a host can be made
    of dots alone.
-/

namespace DenoBridge.Url

/-! ## Section 1: Breaks -/

theorem isBreak_le {c : Char} (h : isBreak c = true) : c ≤ ' ' := by
  simp only [isBreak, Bool.or_eq_true, beq_iff_eq] at h
  rcases h with (h | h) | h <;> subst h <;> decide

theorem isBlank_of_isBreak {c : Char} (h : isBreak c = true) : Text.isBlank c = true := by
  simp only [isBreak, Bool.or_eq_true, beq_iff_eq] at h
  rcases h with (rfl | rfl) | rfl <;> decide

theorem dropBreaks_cons_of_break {c : Char} (h : isBreak c = true) (rest : List Char) :
    dropBreaks (c :: rest) = dropBreaks rest :=
  List.filter_cons_of_neg (by simp [h])

theorem dropBreaks_cons {c : Char} (h : isBreak c = false) (rest : List Char) :
    dropBreaks (c :: rest) = c :: dropBreaks rest :=
  List.filter_cons_of_pos (by simp [h])

theorem dropBreaks_of_not_break {text : List Char} (h : ∀ c ∈ text, isBreak c = false) :
    dropBreaks text = text :=
  List.filter_eq_self.2 fun c hc => by rw [h c hc]; rfl

theorem isBreak_of_mem_dropBreaks {text : List Char} {c : Char} (h : c ∈ dropBreaks text) :
    isBreak c = false := by
  simpa using (List.mem_filter.1 h).2

/-- Where breaks are dropped at the start of a text, it does not matter
    whether all of them are dropped before or after that. -/
theorem dropBreaks_dropWhile {drop : Char → Bool} (hdrop : ∀ c, isBreak c = true → drop c = true)
    (text : List Char) : dropBreaks (text.dropWhile drop) = (dropBreaks text).dropWhile drop := by
  induction text with
  | nil => rfl
  | cons c rest ih =>
    cases hbreak : isBreak c with
    | true =>
      rw [List.dropWhile_cons_of_pos (hdrop c hbreak), dropBreaks_cons_of_break hbreak, ih]
    | false =>
      rw [dropBreaks_cons hbreak]
      by_cases hc : drop c = true
      · rw [List.dropWhile_cons_of_pos hc, List.dropWhile_cons_of_pos hc, ih]
      · rw [List.dropWhile_cons_of_neg hc, List.dropWhile_cons_of_neg hc, dropBreaks_cons hbreak]

/-- Stripping drops all breaks, so it does not matter whether they were
    dropped before. -/
theorem strip_dropBreaks (text : List Char) : strip (dropBreaks text) = strip text := by
  have hdrop : ∀ c, isBreak c = true → decide (c ≤ ' ') = true :=
    fun c hc => decide_eq_true (isBreak_le hc)
  unfold strip
  rw [dropBreaks_dropWhile hdrop, dropBreaks_dropWhile hdrop,
    dropBreaks_of_not_break fun _ => isBreak_of_mem_dropBreaks]

/-- Nor does it matter whether breaks are dropped before or after trimming. -/
theorem clean_eq_trim (text : List Char) : clean text = Text.trim (dropBreaks text) := by
  have hreverse (text : List Char) : dropBreaks text.reverse = (dropBreaks text).reverse :=
    List.filter_reverse
  have hblank (text : List Char) := dropBreaks_dropWhile (fun _ => isBlank_of_isBreak) text
  unfold clean Text.trim Text.trimStart Text.trimEnd Text.dropTail
  rw [hreverse, hblank, hreverse, hblank]

theorem split_dropBreaks (text : List Char) : split (dropBreaks text) = split text := by
  unfold split
  rw [strip_dropBreaks]

/-! ## Section 2: Inside a cut -/

/-- The scheme of a cut text, and the authority that passed the checks. -/
theorem of_split {url : List Char} {parts : Parts} (h : split url = .ok parts) :
    parts.scheme = (splitScheme (strip url)).1 ∧
      parts.authority = (splitAuthority (splitScheme (strip url)).2).1 ∧
      checkImpostors parts.authority = .ok () := by
  unfold split at h
  dsimp only at h
  cases hbrackets : checkAuthority (splitAuthority (splitScheme (strip url)).2).1 with
  | error e =>
    rw [hbrackets] at h
    cases h
  | ok =>
    rw [hbrackets] at h
    cases himpostors : checkImpostors (splitAuthority (splitScheme (strip url)).2).1 with
    | error e =>
      rw [show (Except.ok () >>= fun _ => _) = _ from rfl, himpostors] at h
      cases h
    | ok =>
      rw [show (Except.ok () >>= fun _ => _) = _ from rfl, himpostors] at h
      obtain rfl := Except.ok.inj h
      exact ⟨rfl, rfl, himpostors⟩

/-! ## Section 3: Schemes -/

theorem asciiLower_eq (c : Char) : Text.asciiLower c = c ∨ 97 ≤ (Text.asciiLower c).toNat := by
  unfold Text.asciiLower
  split
  · rename_i hupper
    have hlow : 65 ≤ c.toNat := hupper.1
    have hhigh : c.toNat ≤ 90 := hupper.2
    have hvalid : (c.toNat + 32).isValidChar := .inl (by omega)
    refine .inr ?_
    rw [Char.ofNat, dif_pos hvalid]
    show 97 ≤ c.toNat + 32
    omega
  · exact .inl rfl

theorem asciiLower_ne {c mark : Char} (hmark : mark.toNat < 97) (h : c ≠ mark) :
    Text.asciiLower c ≠ mark := by
  intro heq
  rcases asciiLower_eq c with hsame | hbig
  · exact h (hsame ▸ heq)
  · rw [heq] at hbig
    omega

/-- A scheme in lower case begins with a letter and holds no slash. -/
theorem of_splitScheme (text : List Char) :
    '/' ∉ (splitScheme text).1 ∧ (splitScheme text).1.head? ≠ some '.' := by
  unfold splitScheme
  split
  · rename_i front rest hcut
    split
    · rename_i hscheme
      obtain ⟨hfirst, hall⟩ := Bool.and_eq_true_iff.1 hscheme
      constructor
      · intro hmem
        obtain ⟨c, hc, hlower⟩ := List.mem_map.1 hmem
        refine asciiLower_ne (by decide) ?_ hlower
        rintro rfl
        exact absurd (List.all_eq_true.1 hall '/' hc) (by decide)
      · cases front with
        | nil => simp
        | cons c more =>
          rw [List.map_cons, List.head?_cons, Ne, Option.some.injEq]
          refine asciiLower_ne (by decide) ?_
          rintro rfl
          exact absurd hfirst (by simp)
    · simp
  · simp

theorem isName_scheme {url : List Char} {parts : Parts} (h : split url = .ok parts)
    (hne : parts.scheme ≠ []) :
    Path.IsName (String.ofList parts.scheme) ∧ String.ofList parts.scheme ≠ ".." := by
  have hscheme := (of_split h).1
  obtain ⟨hslash, hdot⟩ := of_splitScheme (strip url)
  rw [← hscheme] at hslash hdot
  refine ⟨⟨?_, ?_, ?_⟩, ?_⟩
  · rw [Ne, String.ext_iff, String.toList_ofList]
    exact hne
  · rw [Ne, String.ext_iff, String.toList_ofList]
    intro heq
    exact hdot (by rw [heq]; rfl)
  · rw [String.toList_ofList]
    exact hslash
  · rw [Ne, String.ext_iff, String.toList_ofList]
    intro heq
    exact hdot (by rw [heq]; rfl)

/-! ## Section 4: Hosts -/

theorem slash_not_mem_splitAuthority (text : List Char) : '/' ∉ (splitAuthority text).1 := by
  unfold splitAuthority
  split
  · intro hmem
    have := List.mem_takeWhile_imp hmem
    simp [endsAuthority] at this
  · simp

/-- No character of an accepted authority is a slash or folds to one. -/
theorem isHarmless_authority {url : List Char} {parts : Parts} (h : split url = .ok parts) :
    ∀ c ∈ parts.authority, Hostname.IsHarmless c := by
  obtain ⟨-, hauthority, himpostors⟩ := of_split h
  intro c hc
  constructor
  · rintro rfl
    rw [hauthority] at hc
    exact slash_not_mem_splitAuthority _ hc
  · intro hmem
    unfold checkImpostors at himpostors
    split at himpostors
    · cases himpostors
    · rename_i hnone
      apply hnone
      exact List.any_eq_true.2 ⟨c, hc, by simpa using hmem⟩

theorem mem_of_mem_hostAndPort {authority : List Char} {c : Char}
    (h : c ∈ (hostAndPort authority).1) : c ∈ authority := by
  unfold hostAndPort at h
  split at h
  · rename_i bracketed hcut
    have hbracketed := Text.mem_of_mem_cutAt_fst h
    have hinfo := Text.mem_of_mem_cutAt_snd (congrArg Prod.snd hcut) hbracketed
    exact Text.mem_of_mem_cutAtLast_snd hinfo
  · rename_i info hcut
    have hinfo := Text.mem_of_mem_cutAt_fst h
    rw [← show (Text.cutAt (· == '[') (hostInfo authority)).1 = info by rw [hcut]] at hinfo
    exact Text.mem_of_mem_cutAtLast_snd (Text.mem_of_mem_cutAt_fst hinfo)

/-- A plain authority is a host and perhaps a port behind it. -/
theorem hostAndPort_of_not_mem {authority : List Char} (hat : '@' ∉ authority)
    (hbracket : '[' ∉ authority) : hostAndPort authority =
      ((Text.cutAt (· == ':') authority).1, (Text.cutAt (· == ':') authority).2.getD []) := by
  have hinfo : hostInfo authority = authority := by
    unfold hostInfo Text.cutAtLast
    rw [Text.cutAt_of_not_mem fun hmem => hat (List.mem_reverse.1 hmem)]
    exact List.reverse_reverse authority
  unfold hostAndPort
  rw [hinfo, Text.cutAt_of_not_mem hbracket]

theorem isHarmless_host {url : List Char} {parts : Parts} (h : split url = .ok parts) :
    ∀ c ∈ parts.host, Hostname.IsHarmless c := by
  have hwritten : ∀ c ∈ (hostAndPort parts.authority).1, Hostname.IsHarmless c :=
    fun c hc => isHarmless_authority h c (mem_of_mem_hostAndPort hc)
  intro c hc
  rcases List.mem_append.1 hc with hc | hc
  · refine Hostname.isHarmless_of_mem_lower (fun d hd => ?_) c hc
    exact hwritten d (List.takeWhile_subset _ hd)
  · exact hwritten c (List.dropWhile_subset _ hc)

/-- Whatever a host is written with, its name holds no slash. -/
theorem slash_not_mem_hostName {url : List Char} {parts : Parts} (h : split url = .ok parts) :
    '/' ∉ parts.hostName := by
  have hhost := isHarmless_host h
  have hslash : '/' ∉ parts.host := fun hmem => (hhost '/' hmem).1 rfl
  unfold Parts.hostName
  dsimp only
  split
  · simp [hslash]
  · split
    · exact hslash
    · cases hascii : Hostname.toAscii? parts.host with
      | none => exact hslash
      | some encoded => exact Hostname.slash_not_mem_toAscii? hascii hhost

theorem hostName_of_isAscii {parts : Parts} (hascii : Hostname.isAscii parts.host = true)
    (hcolon : ':' ∉ parts.host) : parts.hostName = parts.host := by
  unfold Parts.hostName
  dsimp only
  rw [if_neg (by simpa using hcolon), if_pos hascii]

theorem hostName_ne_nil {parts : Parts} (hne : parts.host ≠ []) : parts.hostName ≠ [] := by
  unfold Parts.hostName
  dsimp only
  split
  · simp
  · split
    · exact hne
    · cases hascii : Hostname.toAscii? parts.host with
      | none => exact hne
      | some encoded => exact Hostname.toAscii?_ne_nil hascii

end DenoBridge.Url
