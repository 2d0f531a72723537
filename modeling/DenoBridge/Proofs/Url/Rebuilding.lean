import DenoBridge.Proofs.Hostname.Letters
import DenoBridge.Proofs.Text.Trim
import DenoBridge.Proofs.Url.Assembly
import DenoBridge.Proofs.Url.Segments

/-! # Rebuilt URLs

    The resource of a URL is made of visible characters and holds no mark that
    would be read as something else.  So a URL that is rebuilt from the scheme
    and the host of a key and from the resource has that resource and that key
    again (`keyOf_rebuilt`), for all hosts that are written with letters,
    digits, hyphens, underscores and dots.
-/

namespace DenoBridge.Url

open Text (forall_ascii toNat_lt_of_isAlphanum)

variable {found : Parts} {c : Char}

/-! ## Section 1: Visible characters -/

/-- A character of ASCII that is no control and no space. -/
def IsVisible (c : Char) : Prop :=
  0x21 ≤ c.toNat ∧ c.toNat ≤ 0x7e

instance (c : Char) : Decidable (IsVisible c) :=
  inferInstanceAs (Decidable (_ ∧ _))

/-- Cleaning does not touch visible characters. -/
theorem IsVisible.not_cleaned (h : IsVisible c) : isBreak c = false ∧ Text.isBlank c = false := by
  have hascii : c.toNat < 0x80 := by
    have := h.2
    omega
  refine forall_ascii (P := fun c => IsVisible c → isBreak c = false ∧ Text.isBlank c = false)
    ?_ hascii h
  decide

/-- What no resource holds anywhere. -/
def bannedMarks : List Char :=
  "\"#<>".toList

/-- What no path of a resource holds besides. -/
def bannedInPath : List Char :=
  "?\x60\x7b\x7d".toList

/-- What no query of a resource holds besides. -/
def bannedInQuery : List Char :=
  ['\'']

theorem toNat_lt_of_isSchemeChar (h : isSchemeChar c = true) : c.toNat < 0x80 := by
  simp only [isSchemeChar, Bool.or_eq_true, beq_iff_eq] at h
  rcases h with ((h | rfl) | rfl) | rfl
  · exact toNat_lt_of_isAlphanum h
  · decide
  · decide
  · decide

theorem isVisible_of_isSchemeChar (h : isSchemeChar c = true) : IsVisible c := by
  refine forall_ascii (P := fun c => isSchemeChar c = true → IsVisible c) ?_
    (toNat_lt_of_isSchemeChar h) h
  decide

/-- What may stand is visible, and is none of the marks that may not. -/
theorem isVisible_of_isPlain {marks banned : List Char}
    (hmarks : ∀ mark ∈ marks, IsVisible mark ∧ mark ∉ banned)
    (hbanned : ∀ mark ∈ banned, mark.isAlphanum = false) (h : isPlain marks c = true) :
    IsVisible c ∧ c ∉ banned := by
  rcases Bool.or_eq_true_iff.1 h with hword | hmark
  · refine ⟨isVisible_of_isSchemeChar (by simp [isSchemeChar, hword]), fun hmem => ?_⟩
    rw [hbanned c hmem] at hword
    cases hword
  · exact hmarks c (List.contains_iff_mem.1 hmark)

theorem isVisible_of_path (h : isPlain pathMarks c = true) :
    IsVisible c ∧ c ∉ bannedMarks ∧ c ∉ bannedInPath := by
  rw [← not_or, ← List.mem_append]
  exact isVisible_of_isPlain (by decide) (by decide) h

theorem isVisible_of_query (h : isPlain queryMarks c = true) :
    IsVisible c ∧ c ∉ bannedMarks ∧ c ∉ bannedInQuery := by
  rw [← not_or, ← List.mem_append]
  exact isVisible_of_isPlain (by decide) (by decide) h

/-! ## Section 2: The resource -/

/-- The path of a resource. -/
def Parts.encodedPath (found : Parts) : List Char :=
  percentEncode pathMarks (resolveDots found.rootedPath)

/-- The query of a resource, if it has one. -/
def Parts.encodedQuery (found : Parts) : Option (List Char) :=
  if found.query.isEmpty then none else some (percentEncode queryMarks found.query)

theorem resource_eq_marked (found : Parts) :
    found.resource = found.encodedPath ++ marked '?' found.encodedQuery := by
  unfold Parts.resource Parts.encodedQuery
  dsimp only
  split
  · simp [marked, Parts.encodedPath]
  · rfl

theorem isPlain_of_mem_encodedPath (h : c ∈ found.encodedPath) : isPlain pathMarks c = true :=
  isPlain_of_mem_percentEncode (by decide) h

theorem isPlain_of_mem_encodedQuery {query : List Char} (hquery : found.encodedQuery = some query)
    (h : c ∈ query) : isPlain queryMarks c = true := by
  unfold Parts.encodedQuery at hquery
  split at hquery
  · cases hquery
  · rw [← Option.some.inj hquery] at h
    exact isPlain_of_mem_percentEncode (by decide) h

theorem mark_not_mem_encodedPath (found : Parts) : '?' ∉ found.encodedPath := fun hmem =>
  (isVisible_of_path (isPlain_of_mem_encodedPath hmem)).2.2 (by decide)

/-- A resource is visible, and nothing in it is a fragment. -/
theorem isVisible_of_mem_resource (h : c ∈ found.resource) : IsVisible c ∧ c ∉ bannedMarks := by
  rw [resource_eq_marked] at h
  rcases List.mem_append.1 h with h | h
  · have hpath := isVisible_of_path (isPlain_of_mem_encodedPath h)
    exact ⟨hpath.1, hpath.2.1⟩
  · cases hquery : found.encodedQuery with
    | none =>
      rw [hquery] at h
      cases h
    | some query =>
      rw [hquery] at h
      rcases List.mem_cons.1 h with rfl | h
      · decide
      · have hplain := isVisible_of_query (isPlain_of_mem_encodedQuery hquery h)
        exact ⟨hplain.1, hplain.2.1⟩

/-- The path and the query of a resource are read back from it. -/
theorem pathIn_resource (found : Parts) : pathIn found.resource = found.encodedPath ∧
    queryIn found.resource = found.encodedQuery.getD [] := by
  rw [resource_eq_marked]
  refine pathIn_marked (mark_not_mem_encodedPath found) fun hmem => ?_
  rw [← resource_eq_marked] at hmem
  exact (isVisible_of_mem_resource hmem).2 (by decide)

/-! ## Section 3: The resource of a resource -/

/-- A path has a slash first, and with a special scheme no backslash. -/
theorem exists_rootedPath (found : Parts) : ∃ rest, found.rootedPath = '/' :: rest ∧
    (found.scheme ∈ specialSchemes → '\\' ∉ rest) := by
  have hreplaced : '\\' ∉ Text.replaceChar '\\' '/' found.path := by
    intro hmem
    obtain ⟨c, -, hc⟩ := List.mem_map.1 hmem
    split at hc
    · exact absurd hc (by decide)
    · rename_i hne
      exact hne hc
  unfold Parts.rootedPath
  dsimp only
  by_cases hspecial : found.scheme ∈ specialSchemes
  · rw [if_pos (List.contains_iff_mem.2 hspecial)]
    split
    · rename_i hhead
      obtain ⟨rest, hrest⟩ := List.head?_eq_some_iff.1 hhead
      rw [hrest, List.mem_cons, not_or] at hreplaced
      exact ⟨rest, hrest, fun _ => hreplaced.2⟩
    · exact ⟨_, rfl, fun _ => hreplaced⟩
  · rw [if_neg (fun h => hspecial (List.contains_iff_mem.1 h))]
    split
    · rename_i hhead
      obtain ⟨rest, hrest⟩ := List.head?_eq_some_iff.1 hhead
      exact ⟨rest, hrest, fun h => absurd h hspecial⟩
    · exact ⟨_, rfl, fun h => absurd h hspecial⟩

/-- The parts of the URL of a scheme, a host name and a resource. -/
def Parts.rebuilt (found : Parts) : Parts :=
  ⟨found.scheme, found.hostName, found.encodedPath, found.encodedQuery.getD [],
    fragmentIn found.resource⟩

/-- The path of a resource is a path already. -/
theorem rootedPath_rebuilt (found : Parts) : found.rebuilt.rootedPath = found.encodedPath := by
  obtain ⟨rest, hrooted, hback⟩ := exists_rootedPath found
  have hhead : found.encodedPath.head? = some '/' := by
    rw [Parts.encodedPath, hrooted, percentEncode_resolveDots]
    rfl
  have hsame : (if specialSchemes.contains found.scheme then
      Text.replaceChar '\\' '/' found.encodedPath else found.encodedPath) = found.encodedPath := by
    split
    · rename_i hspecial
      -- The backslashes of such a path were replaced before it was encoded.
      have hnone : '\\' ∉ found.encodedPath := by
        refine not_mem_percentEncode (by decide) fun hmem => ?_
        rcases mem_of_mem_resolveDots hmem with hslash | hmem
        · exact absurd hslash (by decide)
        · rw [hrooted, List.mem_cons] at hmem
          exact hback (List.contains_iff_mem.1 hspecial) (hmem.resolve_left (by decide))
      refine (List.map_congr_left fun c hc => ?_).trans (List.map_id _)
      rw [if_neg]
      · rfl
      · rintro rfl
        exact hnone hc
    · rfl
  unfold Parts.rootedPath Parts.rebuilt
  dsimp only
  rw [hsame]
  exact if_pos hhead

theorem resource_rebuilt (found : Parts) : found.rebuilt.resource = found.resource := by
  have hencoded : found.rebuilt.encodedPath = found.encodedPath := by
    obtain ⟨rest, hrooted, -⟩ := exists_rootedPath found
    unfold Parts.encodedPath
    rw [rootedPath_rebuilt, Parts.encodedPath, hrooted, resolveDots_percentEncode,
      percentEncode_percentEncode (by decide)]
  have hquestion : found.rebuilt.encodedQuery = found.encodedQuery := by
    unfold Parts.encodedQuery Parts.rebuilt
    dsimp only
    unfold Parts.encodedQuery
    by_cases hnone : found.query = []
    · simp [hnone]
    · have hmarks : '%' ∈ queryMarks := by decide
      simp [hnone, percentEncode_eq_nil_iff, percentEncode_percentEncode hmarks]
  rw [resource_eq_marked, resource_eq_marked, hencoded, hquestion]

/-! ## Section 4: Hosts -/

/-- A character of a plain host name: a letter, a digit, a hyphen, an
    underscore or a dot. -/
def isHostChar (c : Char) : Bool :=
  c.isAlphanum || c == '-' || c == '_' || c == '.'

theorem toNat_lt_of_isHostChar (h : isHostChar c = true) : c.toNat < 0x80 := by
  simp only [isHostChar, Bool.or_eq_true, beq_iff_eq] at h
  rcases h with ((h | rfl) | rfl) | rfl
  · exact toNat_lt_of_isAlphanum h
  · decide
  · decide
  · decide

theorem isVisible_of_isHostChar (h : isHostChar c = true) :
    IsVisible c ∧ endsAuthority c = false := by
  refine forall_ascii (P := fun c => isHostChar c = true → IsVisible c ∧ endsAuthority c = false)
    ?_ (toNat_lt_of_isHostChar h) h
  decide

theorem not_mem_of_isHostChar {text : List Char} (h : ∀ c ∈ text, isHostChar c = true)
    {mark : Char} (hmark : isHostChar mark = false) : mark ∉ text := by
  intro hmem
  rw [h mark hmem] at hmark
  cases hmark

theorem isAscii_of_isHostChar {text : List Char} (h : ∀ c ∈ text, isHostChar c = true) :
    Hostname.isAscii text = true :=
  List.all_eq_true.2 fun c hc => decide_eq_true (toNat_lt_of_isHostChar (h c hc))

/-- A host without capitals and percent signs. -/
theorem not_isUpper_host (hpercent : '%' ∉ found.host) :
    ∀ c ∈ found.host, c.isUpper = false := by
  unfold Parts.host at hpercent ⊢
  dsimp only at hpercent ⊢
  rw [List.mem_append, not_or] at hpercent
  -- What is not in lower case begins with a percent sign.
  have hnil : (hostAndPort found.authority).1.dropWhile (· != '%') = [] := by
    cases hzone : (hostAndPort found.authority).1.dropWhile (· != '%') with
    | nil => rfl
    | cons c rest =>
      have hc := List.head_dropWhile_not (· != '%') (l := (hostAndPort found.authority).1)
        (by simp [hzone])
      simp only [hzone, List.head_cons, bne_eq_false_iff_eq] at hc
      rw [hzone, hc] at hpercent
      exact absurd List.mem_cons_self hpercent.2
  rw [hnil, List.append_nil]
  exact fun c hc => (Text.isLowered_of_mem_lower hc).not_isUpper

/-- A name of host characters is in lower case. -/
theorem not_isUpper_hostName (h : ∀ c ∈ found.hostName, isHostChar c = true) :
    ∀ c ∈ found.hostName, c.isUpper = false := by
  have hpercent : '%' ∉ found.hostName := not_mem_of_isHostChar h (by decide)
  have hbracket : '[' ∉ found.hostName := not_mem_of_isHostChar h (by decide)
  unfold Parts.hostName at h hpercent hbracket ⊢
  dsimp only at h hpercent hbracket ⊢
  split
  · rename_i hcolon
    rw [if_pos hcolon] at hbracket
    exact absurd (by simp) hbracket
  · rename_i hcolon
    rw [if_neg hcolon] at h hpercent
    split
    · rename_i hascii
      rw [if_pos hascii] at hpercent
      exact not_isUpper_host hpercent
    · rename_i hbeyond
      rw [if_neg hbeyond] at h hpercent
      cases hform : Hostname.toAscii? found.host with
      | none =>
        -- Without an ASCII form the name is not made of host characters.
        rw [hform] at h
        exact absurd (isAscii_of_isHostChar h) hbeyond
      | some encoded =>
        rw [hform] at hpercent
        have hnone : '%' ∉ found.host := fun hmem =>
          hpercent (Hostname.percent_mem_toAscii? hform hmem)
        exact Hostname.not_isUpper_toAscii? hform (not_isUpper_host hnone)

/-- An authority of host characters is read as a host without a port. -/
theorem hostAndPort_plain {host : List Char} (h : ∀ c ∈ host, isHostChar c = true) :
    hostAndPort host = (host, []) := by
  rw [hostAndPort_of_not_mem (not_mem_of_isHostChar h (by decide))
    (not_mem_of_isHostChar h (by decide)),
    Text.cutAt_of_not_mem (not_mem_of_isHostChar h (by decide))]
  rfl

theorem host_plain (h : ∀ c ∈ found.authority, isHostChar c = true)
    (hupper : ∀ c ∈ found.authority, c.isUpper = false) :
    found.host = found.authority ∧ found.portOk = true := by
  have hnopercent : ∀ c ∈ found.authority, (c != '%') = true := by
    intro c hc
    rw [bne_iff_ne]
    rintro rfl
    exact not_mem_of_isHostChar h (by decide) hc
  have hzone : found.authority.takeWhile (· != '%') = found.authority ∧
      found.authority.dropWhile (· != '%') = [] :=
    ⟨List.takeWhile_eq_self_iff.2 hnopercent, List.dropWhile_eq_nil_iff.2 hnopercent⟩
  unfold Parts.host Parts.portOk
  rw [hostAndPort_plain h]
  dsimp only
  rw [hzone.1, hzone.2, List.append_nil,
    Text.lower_of_ascii fun c hc => ⟨toNat_lt_of_isHostChar (h c hc), hupper c hc⟩]
  exact ⟨rfl, by decide⟩

theorem hostName_plain (h : ∀ c ∈ found.authority, isHostChar c = true)
    (hupper : ∀ c ∈ found.authority, c.isUpper = false) : found.hostName = found.authority := by
  have hhost := (host_plain h hupper).1
  rw [← hhost] at h
  rw [hostName_of_isAscii (isAscii_of_isHostChar h) (not_mem_of_isHostChar h (by decide)), hhost]

theorem checkAuthority_plain {host : List Char} (h : ∀ c ∈ host, isHostChar c = true) :
    checkAuthority host = .ok () ∧ checkImpostors host = .ok () := by
  have hbracket (mark : Char) (hmark : isHostChar mark = false) : host.contains mark = false := by
    rw [← Bool.not_eq_true, List.contains_iff_mem]
    exact not_mem_of_isHostChar h hmark
  constructor
  · unfold checkAuthority
    rw [hbracket '[' (by decide), hbracket ']' (by decide)]
  · unfold checkImpostors
    refine if_neg fun hany => ?_
    obtain ⟨c, hc, himpostor⟩ := List.any_eq_true.1 hany
    have hascii := toNat_lt_of_isHostChar (h c hc)
    have hbeyond := Hostname.impostors_beyond _ (List.contains_iff_mem.1 himpostor)
    omega

/-! ## Section 5: Schemes -/

/-- A scheme that was cut off is a scheme, and it is in lower case. -/
theorem isScheme_splitScheme {text : List Char} (hne : (splitScheme text).1 ≠ []) :
    isScheme (splitScheme text).1 = true ∧
      (splitScheme text).1.map Text.asciiLower = (splitScheme text).1 := by
  have hlower (c : Char) (h : isSchemeChar c = true) : isSchemeChar (Text.asciiLower c) = true ∧
      Text.asciiLower (Text.asciiLower c) = Text.asciiLower c ∧
        (c.isAlpha = true → (Text.asciiLower c).isAlpha = true) := by
    refine forall_ascii (P := fun c => isSchemeChar c = true →
      isSchemeChar (Text.asciiLower c) = true ∧
        Text.asciiLower (Text.asciiLower c) = Text.asciiLower c ∧
          (c.isAlpha = true → (Text.asciiLower c).isAlpha = true)) ?_ (toNat_lt_of_isSchemeChar h) h
    decide
  obtain ⟨scheme, rest, hscheme, rfl⟩ := exists_scheme hne
  rw [splitScheme_append hscheme] at hne ⊢
  obtain ⟨hfirst, -⟩ := Bool.and_eq_true_iff.1 hscheme
  have hall := fun c => isSchemeChar_of_mem (c := c) hscheme
  refine ⟨Bool.and_eq_true_iff.2 ⟨?_, ?_⟩, ?_⟩
  · cases scheme with
    | nil => exact absurd rfl hne
    | cons c more =>
      have hc := hlower c (hall c List.mem_cons_self)
      simpa using hc.2.2 (by simpa using hfirst)
  · rw [List.all_map, List.all_eq_true]
    exact fun c hc => (hlower c (hall c hc)).1
  · rw [List.map_map]
    exact List.map_congr_left fun c hc => (hlower c (hall c hc)).2.1

/-! ## Section 6: The rebuilt URL -/

/-- The parts of a URL that is rebuilt from the scheme, the host name and the
    resource of others. -/
theorem parts_rebuilt {url : String} (hparts : parts url = .ok found)
    (hcomplete : found.isComplete = true)
    (hhost : ∀ c ∈ found.hostName, isHostChar c = true) :
    parts (String.ofList (join found.scheme found.hostName found.resource)) =
      .ok found.rebuilt := by
  have hsplit := split_trim hparts
  obtain ⟨hne, -⟩ := isComplete_iff.1 hcomplete
  obtain ⟨hscheme, hlower⟩ : isScheme found.scheme = true ∧
      found.scheme.map Text.asciiLower = found.scheme := by
    rw [(of_split hsplit).1] at hne ⊢
    exact isScheme_splitScheme hne
  have hmark : ∀ c, found.resource.head? = some c → endsAuthority c = true := by
    intro c hc
    obtain ⟨rest, hrooted, -⟩ := exists_rootedPath found
    rw [resource_eq_marked, Parts.encodedPath, hrooted, percentEncode_resolveDots] at hc
    obtain rfl : '/' = c := Option.some.inj hc
    rfl
  have hvisible : ∀ c ∈ join found.scheme found.hostName found.resource, IsVisible c := by
    intro c hc
    simp only [join, List.mem_append, List.mem_cons] at hc
    rcases hc with hc | rfl | rfl | rfl | hc | hc
    · exact isVisible_of_isSchemeChar (isSchemeChar_of_mem hscheme hc)
    · decide
    · decide
    · decide
    · exact (isVisible_of_isHostChar (hhost c hc)).1
    · exact (isVisible_of_mem_resource hc).1
  obtain ⟨hauthority, himpostors⟩ := checkAuthority_plain hhost
  obtain ⟨hpath, hquery⟩ := pathIn_resource found
  refine parts_join hscheme (fun c hc => (isVisible_of_isHostChar (hhost c hc)).2) hmark
    (fun c hc => (hvisible c hc).not_cleaned.1) (Text.trim_eq_self ?_) ?_
  · rintro c (hc | hc)
    · exact (hvisible c (List.mem_of_mem_head? hc)).not_cleaned.2
    · exact (hvisible c (List.mem_of_getLast? hc)).not_cleaned.2
  · unfold assemble
    rw [hauthority, himpostors, hpath, hquery, hlower]
    rfl

/-- The host name of the rebuilt URL is read from it, and so it has a key if
    the URL had one. -/
theorem key_rebuilt (hcomplete : found.isComplete = true)
    (hhost : ∀ c ∈ found.hostName, isHostChar c = true) :
    found.rebuilt.isComplete = true ∧ found.rebuilt.key = found.key := by
  have hupper := not_isUpper_hostName hhost
  obtain ⟨hread, hport⟩ : found.rebuilt.host = found.hostName ∧ found.rebuilt.portOk = true :=
    host_plain hhost hupper
  have hname : found.rebuilt.hostName = found.hostName :=
    hostName_plain hhost hupper
  obtain ⟨hscheme, hne, -⟩ := isComplete_iff.1 hcomplete
  constructor
  · rw [isComplete_iff, hread]
    exact ⟨hscheme, hostName_ne_nil hne, hport⟩
  · unfold Parts.key
    rw [hname, resource_rebuilt]
    rfl

/-- A URL that is rebuilt from a key and the resource has that resource and
    that key. -/
theorem keyOf_rebuilt {url : String} {key : Key} (h : keyOf url = .ok key)
    (hhost : ∀ c ∈ key.host.toList, isHostChar c = true) :
    ∃ resource, canonicalResource url = .ok resource ∧
      canonicalResource (key.scheme ++ "://" ++ key.host ++ resource) = .ok resource ∧
      keyOf (key.scheme ++ "://" ++ key.host ++ resource) = .ok key := by
  obtain ⟨found, hparts, hcomplete, rfl⟩ := exists_parts_of_keyOf h
  simp only [Parts.key, String.toList_ofList] at hhost
  have hrebuilt := parts_rebuilt hparts hcomplete hhost
  obtain ⟨hnewComplete, hkey⟩ := key_rebuilt hcomplete hhost
  have htext : (Parts.key found).scheme ++ "://" ++ (Parts.key found).host ++
      String.ofList found.resource =
        String.ofList (join found.scheme found.hostName found.resource) := by
    rw [String.ext_iff]
    simp [Parts.key, join]
  refine ⟨String.ofList found.resource, canonicalResource_of_parts hparts hcomplete, ?_, ?_⟩
  · rw [htext, canonicalResource_of_parts hrebuilt hnewComplete, resource_rebuilt]
  · rw [htext, keyOf_of_parts hrebuilt hnewComplete, hkey]

/-- A scheme that is not special, with capitals, a port, dots, a backslash and
    a space. -/
theorem odd_scheme_rebuilt :
    keyOf "NPM://me@Deno.land:80/a/../b\\ c?d 'e#f" = .ok (Parts.key ⟨"npm".toList,
        "me@Deno.land:80".toList, "/a/../b\\ c".toList, "d 'e".toList, "f".toList⟩) ∧
      ∃ resource, canonicalResource "NPM://me@Deno.land:80/a/../b\\ c?d 'e#f" = .ok resource ∧
        keyOf ("npm" ++ "://" ++ "deno.land" ++ resource) =
          keyOf "NPM://me@Deno.land:80/a/../b\\ c?d 'e#f" := by
  have hkey : keyOf "NPM://me@Deno.land:80/a/../b\\ c?d 'e#f" = .ok (Parts.key ⟨"npm".toList,
      "me@Deno.land:80".toList, "/a/../b\\ c".toList, "d 'e".toList, "f".toList⟩) :=
    keyOf_of_parts (by decide) (by decide)
  obtain ⟨resource, hresource, -, hrebuilt⟩ := keyOf_rebuilt hkey (by decide)
  exact ⟨hkey, resource, hresource, hrebuilt.trans hkey.symm⟩

end DenoBridge.Url
