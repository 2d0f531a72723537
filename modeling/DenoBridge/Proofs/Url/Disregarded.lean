import DenoBridge.Proofs.Text.Letters
import DenoBridge.Proofs.Url.Faults
import DenoBridge.Proofs.Url.Rebuilding

/-! # What a key disregards

    A URL is cut twice on the way to its key, after two kinds of cleaning.
    Both cuts see the same text, and tabs and line breaks that are put in or
    taken out anywhere change nothing in it (`keyOf_rebroken`).

    Of a plain URL the key tells the scheme, the host and what names the
    module within it.  Credentials, a port, a fragment and the case of the
    letters of scheme and host do not count (`keyOf_dressed`).
-/

namespace DenoBridge.Url

variable {u v text : List Char}

/-! ## Section 1: Tabs and line breaks -/

/-- The second text is the first with breaks put in and taken out anywhere. -/
inductive Rebroken : List Char → List Char → Prop
  | nil : Rebroken [] []
  | keep (c : Char) {u v : List Char} (h : Rebroken u v) : Rebroken (c :: u) (c :: v)
  | takeOut {c : Char} (hbreak : isBreak c = true) {u v : List Char} (h : Rebroken u v) :
    Rebroken (c :: u) v
  | putIn {c : Char} (hbreak : isBreak c = true) {u v : List Char} (h : Rebroken u v) :
    Rebroken u (c :: v)

theorem Rebroken.dropBreaks_eq (h : Rebroken u v) : dropBreaks u = dropBreaks v := by
  induction h with
  | nil => rfl
  | keep c _ ih =>
    cases hbreak : isBreak c with
    | true => rw [dropBreaks_cons_of_break hbreak, dropBreaks_cons_of_break hbreak, ih]
    | false => rw [dropBreaks_cons hbreak, dropBreaks_cons hbreak, ih]
  | takeOut hbreak _ ih => rw [dropBreaks_cons_of_break hbreak, ih]
  | putIn hbreak _ ih => rw [dropBreaks_cons_of_break hbreak, ih]

/-- Texts that are the same without breaks are made from each other one break
    after the other. -/
theorem rebroken_of_dropBreaks_eq (h : dropBreaks u = dropBreaks v) : Rebroken u v := by
  induction u generalizing v with
  | nil =>
    induction v with
    | nil => exact .nil
    | cons d v ih =>
      cases hbreak : isBreak d with
      | true =>
        rw [dropBreaks_cons_of_break hbreak] at h
        exact .putIn hbreak (ih h)
      | false =>
        rw [dropBreaks_cons hbreak] at h
        cases h
  | cons c u ih =>
    cases hc : isBreak c with
    | true =>
      rw [dropBreaks_cons_of_break hc] at h
      exact .takeOut hc (ih h)
    | false =>
      -- The first character that stays is the first one that stays of the other.
      rw [dropBreaks_cons hc] at h
      induction v with
      | nil => cases h
      | cons d v ihv =>
        cases hd : isBreak d with
        | true =>
          rw [dropBreaks_cons_of_break hd] at h
          exact .putIn hd (ihv h)
        | false =>
          rw [dropBreaks_cons hd] at h
          obtain ⟨rfl, hrest⟩ := List.cons.inj h
          exact .keep c (ih hrest)

theorem Rebroken.clean_eq (h : Rebroken u v) : clean u = clean v := by
  rw [clean_eq_trim, clean_eq_trim, h.dropBreaks_eq]

theorem judge_about (url other : String) (cut : Except Fault Parts) :
    judge other cut = (judge url cut).mapError (KeyError.about other) := by
  cases cut with
  | error cause => rfl
  | ok found =>
    unfold judge
    dsimp only
    split <;> rfl

theorem keyOf_eq_judge_clean (url : String) : keyOf url = judge url (split (clean url.toList)) := by
  rw [keyOf_eq_judge, split_clean_eq]

/-- The key is that of the parts which one cut of the cleaned URL gives, and
    URLs that differ in breaks only have one key or fail alike. -/
theorem keyOf_rebroken (url : String) : keyOf url = judge url (split (clean url.toList)) ∧
    ∀ other : String, Rebroken url.toList other.toList →
      keyOf other = (keyOf url).mapError (KeyError.about other) := by
  refine ⟨keyOf_eq_judge_clean url, fun other h => ?_⟩
  rw [keyOf_eq_judge_clean other, ← h.clean_eq, judge_about url other, ← keyOf_eq_judge_clean url]

/-- Breaks among blanks and controls at both ends, in the scheme and in the
    host. -/
theorem breaks_disregarded :
    Rebroken "\x00\n HTT\tPS://de\rno.land/a\u3000\n".toList
        "\n\x00\r HTTPS:/\n/deno.land/\ta\t\u3000".toList ∧
      ∃ key, keyOf "\x00\n HTT\tPS://de\rno.land/a\u3000\n" = .ok key ∧
        keyOf "\n\x00\r HTTPS:/\n/deno.land/\ta\t\u3000" = .ok key := by
  have hrebroken : Rebroken "\x00\n HTT\tPS://de\rno.land/a\u3000\n".toList
      "\n\x00\r HTTPS:/\n/deno.land/\ta\t\u3000".toList :=
    rebroken_of_dropBreaks_eq (by decide)
  obtain ⟨hjudge, hother⟩ := keyOf_rebroken "\x00\n HTT\tPS://de\rno.land/a\u3000\n"
  have hsplit : split (clean "\x00\n HTT\tPS://de\rno.land/a\u3000\n".toList) =
      .ok ⟨"https".toList, "deno.land".toList, "/a".toList, [], []⟩ := by decide
  have hkey := hjudge
  rw [hsplit] at hkey
  exact ⟨hrebroken, _, hkey, (hother _ hrebroken).trans (congrArg _ hkey)⟩

/-! ## Section 2: URLs with and without ornaments -/

/-- An ASCII character that is neither a break nor one of these marks. -/
def avoids (marks : List Char) (c : Char) : Bool :=
  c.toNat < 0x80 && !marks.contains c && !isBreak c

/-- The marks that do not stand in credentials. -/
def credentialMarks : List Char :=
  "/?#[]".toList

/-- The marks that do not stand in a plain host. -/
def hostMarks : List Char :=
  "@:%".toList ++ credentialMarks

/-- A scheme, a plain host and a path or a query, which together are a URL. -/
structure IsBare (scheme host rest : List Char) : Prop where
  scheme : isScheme scheme = true
  host_ne : host ≠ []
  host_chars : ∀ c ∈ host, avoids hostMarks c = true
  host_end : ∀ c, host.getLast? = some c → Text.isBlank c = false
  rest_start : ∀ c, rest.head? = some c → c = '/' ∨ c = '?'
  rest_marks : '#' ∉ rest
  rest_end : ∀ c, rest.getLast? = some c → Text.isBlank c = false

/-- Credentials and a port that may stand around a host. -/
structure IsOrnament (credentials port : List Char) : Prop where
  credentials_chars : ∀ c ∈ credentials, avoids credentialMarks c = true
  port_digits : ∀ c ∈ port, c.isDigit = true
  port_length : port.length ≤ Digits.digitLimit
  port_value : Digits.value port ≤ 65535

/-- The authority of a host with credentials before it and a port behind it. -/
def ornate (credentials host port : List Char) : List Char :=
  credentials ++ '@' :: (host ++ ':' :: port)

variable {scheme scheme' host host' rest credentials port authority : List Char} {c : Char}

/-! ## Section 3: Characters -/

theorem of_avoids {marks : List Char} (h : avoids marks c = true) :
    c.toNat < 0x80 ∧ c ∉ marks ∧ isBreak c = false := by
  simp only [avoids, Bool.and_eq_true, decide_eq_true_eq, Bool.not_eq_true'] at h
  refine ⟨h.1.1, fun hmem => ?_, h.2⟩
  rw [List.contains_iff_mem.2 hmem] at h
  cases h.1.2

theorem avoids_credentialMarks (h : avoids hostMarks c = true) :
    avoids credentialMarks c = true := by
  refine Text.forall_ascii
    (P := fun c => avoids hostMarks c = true → avoids credentialMarks c = true) ?_ (of_avoids h).1 h
  decide

theorem avoids_of_isDigit (h : c.isDigit = true) : avoids credentialMarks c = true := by
  refine Text.forall_ascii (P := fun c => c.isDigit = true → avoids credentialMarks c = true) ?_
    (Text.toNat_lt_of_isAlphanum (by simp [Char.isAlphanum, h])) h
  decide

theorem not_endsAuthority_of_avoids (h : avoids credentialMarks c = true) :
    endsAuthority c = false := by
  refine Text.forall_ascii (P := fun c => avoids credentialMarks c = true →
    endsAuthority c = false) ?_ (of_avoids h).1 h
  decide

theorem isBlank_of_isSchemeChar (h : isSchemeChar c = true) :
    isBreak c = false ∧ Text.isBlank c = false :=
  (isVisible_of_isSchemeChar h).not_cleaned

theorem IsBare.not_mem (h : IsBare scheme host rest) : ∀ mark ∈ hostMarks, mark ∉ host :=
  fun mark hmark hmem => (of_avoids (h.host_chars mark hmem)).2.1 hmark

theorem IsBare.host_avoids (h : IsBare scheme host rest) :
    ∀ c ∈ host, avoids credentialMarks c = true :=
  fun c hc => avoids_credentialMarks (h.host_chars c hc)

theorem ornate_avoids (h : IsBare scheme host rest) (hornament : IsOrnament credentials port) :
    ∀ c ∈ ornate credentials host port, avoids credentialMarks c = true := by
  intro c hc
  simp only [ornate, List.mem_append, List.mem_cons] at hc
  rcases hc with hc | rfl | hc | rfl | hc
  · exact hornament.credentials_chars c hc
  · decide
  · exact h.host_avoids c hc
  · decide
  · exact avoids_of_isDigit (hornament.port_digits c hc)

/-! ## Section 4: Other cases -/

theorem isScheme_asciiLower (scheme : List Char) :
    isScheme (scheme.map Text.asciiLower) = isScheme scheme := by
  have halpha : Text.IgnoresCase Char.isAlpha := Text.ignoresCase_of_ascii (by decide)
  have hchar : Text.IgnoresCase isSchemeChar := Text.ignoresCase_of_ascii (by decide)
  unfold isScheme
  rw [Text.all_asciiLower hchar]
  cases scheme with
  | nil => rfl
  | cons c rest => simp [halpha c]

theorem ignoresCase_isBlank : Text.IgnoresCase Text.isBlank :=
  Text.ignoresCase_contains (by decide)

theorem ignoresCase_avoids {marks : List Char} (h : ∀ mark ∈ marks, mark.isAlpha = false) :
    Text.IgnoresCase (avoids marks) := by
  have hascii : Text.IgnoresCase fun c => decide (c.toNat < 0x80) :=
    Text.ignoresCase_of_ascii (by decide)
  have hbreak : Text.IgnoresCase isBreak := Text.ignoresCase_of_ascii (by decide)
  intro c
  simp only [avoids, hascii c, hbreak c, Text.ignoresCase_contains h c]

/-- In other cases, a scheme and a host are still a scheme and a host. -/
theorem IsBare.sameLetters (h : IsBare scheme host rest) (hscheme : Text.SameLetters scheme scheme')
    (hhost : Text.SameLetters host host') : IsBare scheme' host' rest where
  scheme := (hscheme.eq_of isScheme_asciiLower).trans h.scheme
  host_ne := by
    rintro rfl
    exact h.host_ne (List.map_eq_nil_iff.1 hhost)
  host_chars := by
    have hall := List.all_eq_true.2 h.host_chars
    rw [← hhost.all_eq (ignoresCase_avoids (by decide))] at hall
    exact List.all_eq_true.1 hall
  host_end := by
    have hlast := congrArg List.getLast? hhost
    rw [List.getLast?_map, List.getLast?_map] at hlast
    intro c hc
    rw [hc] at hlast
    obtain ⟨d, hd, heq⟩ := Option.map_eq_some_iff.1 hlast
    rw [← ignoresCase_isBlank c, ← heq, ignoresCase_isBlank d]
    exact h.host_end d hd
  rest_start := h.rest_start
  rest_marks := h.rest_marks
  rest_end := h.rest_end

/-! ## Section 5: Cleaning -/

theorem dropBreaks_append (front back : List Char) :
    dropBreaks (front ++ back) = dropBreaks front ++ dropBreaks back :=
  List.filter_append front back

/-- Cleaning leaves scheme and authority as they are, unless the end of the
    URL is trimmed up to them. -/
theorem clean_join (hscheme : isScheme scheme = true)
    (hauthority : ∀ c ∈ authority, avoids credentialMarks c = true) {kept : List Char}
    (hkept : Text.trimEnd (join scheme authority (dropBreaks rest)) =
      join scheme authority kept) :
    clean (join scheme authority rest) = join scheme authority kept := by
  have hbreaks : dropBreaks (join scheme authority rest) =
      join scheme authority (dropBreaks rest) := by
    have hfront : ∀ c ∈ scheme ++ "://".toList ++ authority, isBreak c = false := by
      intro c hc
      rw [List.mem_append, List.mem_append] at hc
      rcases hc with (hc | hc) | hc
      · exact (isBlank_of_isSchemeChar (isSchemeChar_of_mem hscheme hc)).1
      · have hmarks : ∀ c ∈ "://".toList, isBreak c = false := by decide
        exact hmarks c hc
      · exact (of_avoids (hauthority c hc)).2.2
    have hjoin (rest : List Char) : join scheme authority rest =
        (scheme ++ "://".toList ++ authority) ++ rest := by simp [join]
    rw [hjoin, hjoin, dropBreaks_append, dropBreaks_of_not_break hfront]
  have hstart : Text.trimStart (join scheme authority (dropBreaks rest)) =
      join scheme authority (dropBreaks rest) := by
    obtain ⟨first, more, rfl⟩ : ∃ first more, scheme = first :: more := by
      refine List.exists_cons_of_ne_nil ?_
      rintro rfl
      exact absurd hscheme (by decide)
    have hfirst := (isBlank_of_isSchemeChar (isSchemeChar_of_mem hscheme List.mem_cons_self)).2
    exact List.dropWhile_cons_of_neg (by simp [hfirst])
  rw [clean_eq_trim, hbreaks, Text.trim, hstart, hkept]

theorem join_append (scheme authority front back : List Char) :
    join scheme authority (front ++ back) = join scheme authority front ++ back := by
  simp [join]

/-- Nothing is trimmed from the end of a bare URL. -/
theorem IsBare.clean_eq (h : IsBare scheme host rest) :
    clean (join scheme host rest) = join scheme host (dropBreaks rest) := by
  refine clean_join h.scheme h.host_avoids ?_
  have hkeep {c : Char} (hc : Text.isBlank c = false) (front : List Char) :
      Text.trimEnd (front ++ [c]) = front ++ [c] :=
    Text.dropTail_append_cons hc front []
  cases hlast : rest.getLast? with
  | none =>
    -- What comes last is the last character of the host.
    obtain rfl := List.getLast?_eq_none_iff.1 hlast
    cases hhost : host.getLast? with
    | none => exact absurd (List.getLast?_eq_none_iff.1 hhost) h.host_ne
    | some c =>
      obtain ⟨front, hfront⟩ := List.getLast?_eq_some_iff.1 hhost
      have hjoin : join scheme host (dropBreaks []) =
          (scheme ++ "://".toList ++ front) ++ [c] := by
        rw [hfront]
        simp [join, dropBreaks]
      rw [hjoin, hkeep (h.host_end c hhost)]
  | some c =>
    obtain ⟨front, rfl⟩ := List.getLast?_eq_some_iff.1 hlast
    have hblank := h.rest_end c hlast
    have hbreak : isBreak c = false := by
      rw [← Bool.not_eq_true]
      intro hbreak
      rw [isBlank_of_isBreak hbreak] at hblank
      cases hblank
    rw [dropBreaks_append, dropBreaks_cons hbreak, join_append]
    exact hkeep hblank _

theorem IsBare.clean_ornate (h : IsBare scheme host rest)
    (hornament : IsOrnament credentials port) (fragment : List Char) :
    clean (join scheme (ornate credentials host port) (rest ++ '#' :: fragment)) =
      join scheme (ornate credentials host port)
        (dropBreaks rest ++ '#' :: Text.trimEnd (dropBreaks fragment)) := by
  refine clean_join h.scheme (ornate_avoids h hornament) ?_
  rw [dropBreaks_append, dropBreaks_cons (by decide), join_append, join_append]
  exact Text.dropTail_append_cons (by decide) _ _

/-! ## Section 6: Parts -/

theorem isSound_of_avoids (h : ∀ c ∈ authority, avoids credentialMarks c = true) :
    IsSound authority := by
  have hmarks : ∀ mark ∈ credentialMarks, mark ∉ authority :=
    fun mark hmark hmem => (of_avoids (h mark hmem)).2.1 hmark
  have hopening : '[' ∉ authority := hmarks '[' (by decide)
  have hclosing : ']' ∉ authority := hmarks ']' (by decide)
  refine ⟨⟨fun hmem => absurd hmem hopening, fun hmem => absurd hmem hclosing⟩,
    fun hmem => absurd hmem hopening, fun c hc himpostor => ?_⟩
  have hascii := (of_avoids (h c hc)).1
  have hbeyond := Hostname.impostors_beyond _ himpostor
  omega

/-- A URL that is clean up to its authority is cut there. -/
theorem split_clean_join (hscheme : isScheme scheme = true)
    (hauthority : ∀ c ∈ authority, avoids credentialMarks c = true) {kept : List Char}
    (hclean : clean text = join scheme authority kept)
    (hmark : ∀ c, kept.head? = some c → endsAuthority c = true) :
    split (clean text) = .ok ⟨scheme.map Text.asciiLower, authority, pathIn kept, queryIn kept,
      fragmentIn kept⟩ := by
  have hbreaks : ∀ c ∈ join scheme authority kept, isBreak c = false := by
    intro c hc
    rw [← hclean] at hc
    exact isBreak_of_mem_dropBreaks hc
  rw [hclean, split_join hscheme (fun c hc => not_endsAuthority_of_avoids (hauthority c hc)) hmark
    hbreaks, assemble_of_isSound (isSound_of_avoids hauthority)]

theorem hostAndPort_ornate (h : IsBare scheme host rest) (hornament : IsOrnament credentials port) :
    hostAndPort (ornate credentials host port) = (host, port) := by
  have hdigits {mark : Char} (hmark : mark.isDigit = false) : mark ∉ port := by
    intro hmem
    rw [hornament.port_digits mark hmem] at hmark
    cases hmark
  have hnone {mark : Char} (hhost : mark ∈ hostMarks) (hcolon : mark ≠ ':')
      (hdigit : mark.isDigit = false) : mark ∉ host ++ ':' :: port := by
    simp [h.not_mem mark hhost, hcolon, hdigits hdigit]
  have hat : '@' ∉ host ++ ':' :: port := hnone (by decide) (by decide) (by decide)
  have hinfo := (HasInfo.behind credentials hat).hostInfo_eq
  unfold hostAndPort
  rw [ornate, hinfo, Text.cutAt_of_not_mem (hnone (by decide) (by decide) (by decide))]
  dsimp only
  rw [Text.cutAt_append (h.not_mem ':' (by decide))]
  rfl

theorem hostAndPort_bare (h : IsBare scheme host rest) : hostAndPort host = (host, []) := by
  rw [hostAndPort_of_not_mem (h.not_mem '@' (by decide)) (h.not_mem '[' (by decide)),
    Text.cutAt_of_not_mem (h.not_mem ':' (by decide))]
  rfl

/-- The key of parts with a plain host. -/
theorem judge_plain {found : Parts} (h : IsBare scheme host rest)
    (hscheme : found.scheme = scheme.map Text.asciiLower)
    (hhost : hostAndPort found.authority = (host, port)) (hdigits : ∀ c ∈ port, c.isDigit = true)
    (hlength : port.length ≤ Digits.digitLimit) (hvalue : Digits.value port ≤ 65535)
    (url : String) : judge url (.ok found) = .ok ⟨String.ofList (scheme.map Text.asciiLower),
      String.ofList (host.map Text.asciiLower),
      String.ofList (Sha256.hex (Utf8.encodeString (String.ofList found.resource)))⟩ := by
  have hascii : ∀ c ∈ host, c.toNat < 0x80 := fun c hc => (of_avoids (h.host_chars c hc)).1
  have hlower : found.host = host.map Text.asciiLower := by
    have hpercent : ∀ c ∈ host, (c != '%') = true := by
      intro c hc
      rw [bne_iff_ne]
      rintro rfl
      exact h.not_mem '%' (by decide) hc
    unfold Parts.host
    rw [hhost]
    dsimp only
    rw [List.takeWhile_eq_self_iff.2 hpercent, List.dropWhile_eq_nil_iff.2 hpercent,
      List.append_nil, Text.lower_eq_map hascii]
  have hname : found.hostName = host.map Text.asciiLower := by
    have hasciiLower : Text.IgnoresCase fun c => Hostname.isAsciiCode c.toNat :=
      Text.ignoresCase_of_ascii (by decide)
    rw [← hlower]
    refine hostName_of_isAscii ?_ ?_
    · rw [hlower, Hostname.isAscii, Text.all_asciiLower hasciiLower]
      exact List.all_eq_true.2 fun c hc => decide_eq_true (hascii c hc)
    · rw [hlower, Text.mem_asciiLower (by decide)]
      exact h.not_mem ':' (by decide)
  have hcomplete : found.isComplete = true := by
    refine isComplete_iff.2 ⟨?_, ?_, ?_⟩
    · rw [hscheme, Ne, List.map_eq_nil_iff]
      rintro rfl
      exact absurd h.scheme (by decide)
    · rw [hlower, Ne, List.map_eq_nil_iff]
      exact h.host_ne
    · unfold Parts.portOk
      rw [hhost]
      simp [hlength, hvalue]
      exact hdigits
  unfold judge
  dsimp only
  rw [if_pos hcomplete, Parts.key, hscheme, hname]

/-! ## Section 7: Keys -/

theorem head?_dropBreaks (h : IsBare scheme host rest) :
    ∀ c, (dropBreaks rest).head? = some c → endsAuthority c = true := by
  intro c hc
  cases hrest : rest with
  | nil => simp [hrest, dropBreaks] at hc
  | cons first more =>
    have hfirst := h.rest_start first (by rw [hrest]; rfl)
    have hmark : isBreak first = false ∧ endsAuthority first = true := by
      rcases hfirst with rfl | rfl <;> decide
    rw [hrest, dropBreaks_cons hmark.1] at hc
    obtain rfl : first = c := Option.some.inj hc
    exact hmark.2

/-- The digest that a bare URL has in its key. -/
def bareHash (scheme rest : List Char) : String :=
  String.ofList (Sha256.hex (Utf8.encodeString (String.ofList (Parts.resource
    ⟨scheme.map Text.asciiLower, [], pathIn (dropBreaks rest), queryIn (dropBreaks rest), []⟩))))

/-- The key of a bare URL. -/
def bareKey (scheme host rest : List Char) : Key where
  scheme := String.ofList (scheme.map Text.asciiLower)
  host := String.ofList (host.map Text.asciiLower)
  contentHash := bareHash scheme rest

theorem keyOf_bare (h : IsBare scheme host rest) :
    keyOf (String.ofList (join scheme host rest)) = .ok (bareKey scheme host rest) := by
  rw [keyOf_eq_judge_clean, String.toList_ofList,
    split_clean_join h.scheme h.host_avoids h.clean_eq (head?_dropBreaks h),
    judge_plain h rfl (hostAndPort_bare h) (by simp) (by decide) (by decide)]
  rfl

theorem keyOf_ornate (h : IsBare scheme host rest) (hornament : IsOrnament credentials port)
    (fragment : List Char) : keyOf (String.ofList (join scheme (ornate credentials host port)
      (rest ++ '#' :: fragment))) = .ok (bareKey scheme host rest) := by
  have hnone : '#' ∉ dropBreaks rest := fun hmem => h.rest_marks (List.mem_filter.1 hmem).1
  have hhead : ∀ c, (dropBreaks rest ++ '#' :: Text.trimEnd (dropBreaks fragment)).head? = some c →
      endsAuthority c = true := by
    intro c hc
    rw [List.head?_append] at hc
    cases hfirst : (dropBreaks rest).head? with
    | none =>
      rw [hfirst] at hc
      obtain rfl : '#' = c := Option.some.inj hc
      rfl
    | some first =>
      rw [hfirst] at hc
      obtain rfl : first = c := Option.some.inj hc
      exact head?_dropBreaks h first hfirst
  have hcut (fragment : List Char) :
      Text.cutAt (· == '#') (dropBreaks rest ++ '#' :: fragment) =
        ((Text.cutAt (· == '#') (dropBreaks rest)).1, some fragment) := by
    rw [Text.cutAt_append hnone, Text.cutAt_of_not_mem hnone]
  rw [keyOf_eq_judge_clean, String.toList_ofList,
    split_clean_join h.scheme (ornate_avoids h hornament) (h.clean_ornate hornament fragment) hhead,
    judge_plain h rfl (hostAndPort_ornate h hornament) hornament.port_digits
      hornament.port_length hornament.port_value]
  unfold Parts.resource Parts.rootedPath pathIn queryIn
  dsimp only
  rw [hcut]
  rfl

/-- Credentials, a port, a fragment and the case of scheme and host do not
    count for the key of a URL. -/
theorem keyOf_dressed (h : IsBare scheme host rest) (hornament : IsOrnament credentials port)
    (hscheme : Text.SameLetters scheme scheme') (hhost : Text.SameLetters host host')
    (fragment : List Char) :
    ∃ key, keyOf (String.ofList (join scheme (ornate credentials host port)
        (rest ++ '#' :: fragment))) = .ok key ∧
      keyOf (String.ofList (join scheme' host' rest)) = .ok key ∧
      key.scheme = String.ofList (scheme.map Text.asciiLower) ∧
      key.host = String.ofList (host.map Text.asciiLower) := by
  refine ⟨bareKey scheme host rest, keyOf_ornate h hornament fragment, ?_, rfl, rfl⟩
  have hkey : bareKey scheme' host' rest = bareKey scheme host rest := by
    unfold bareKey bareHash
    rw [hscheme, hhost]
  rw [keyOf_bare (h.sameLetters hscheme hhost), hkey]

/-- Credentials with marks of their own, a port with a leading zero, a tab in
    the path, and a fragment of marks with blanks behind it. -/
theorem ornaments_disregarded :
    IsBare "HTTPS".toList "Deno.Land".toList "/std/\tmod.ts?a=b".toList ∧
      IsOrnament "me:a@b".toList "080".toList ∧
      ∃ key, keyOf (String.ofList (join "HTTPS".toList
          (ornate "me:a@b".toList "Deno.Land".toList "080".toList)
          ("/std/\tmod.ts?a=b".toList ++ '#' :: "x/y?z#@[ \n".toList))) = .ok key ∧
        keyOf (String.ofList (join "httpS".toList "deno.LAND".toList
          "/std/\tmod.ts?a=b".toList)) = .ok key ∧
        key.scheme = "https" ∧ key.host = "deno.land" := by
  have hbare : IsBare "HTTPS".toList "Deno.Land".toList "/std/\tmod.ts?a=b".toList := by
    refine ⟨by decide, by decide, by decide, ?_, ?_, by decide, ?_⟩
    · intro c hc
      obtain rfl : 'd' = c := Option.some.inj hc
      decide
    · intro c hc
      obtain rfl : '/' = c := Option.some.inj hc
      exact .inl rfl
    · intro c hc
      obtain rfl : 'b' = c := Option.some.inj hc
      decide
  have hornament : IsOrnament "me:a@b".toList "080".toList :=
    ⟨by decide, by decide, by decide, by decide⟩
  exact ⟨hbare, hornament, keyOf_dressed hbare hornament (by decide) (by decide) _⟩

end DenoBridge.Url
