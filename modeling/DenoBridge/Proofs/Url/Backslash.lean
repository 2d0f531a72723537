import DenoBridge.Proofs.Text.Trim
import DenoBridge.Proofs.Url.Assembly

/-! # Backslashes before the query

    With a special scheme a backslash in the path counts as a slash, but an
    authority ends at a slash only.  So turning backslashes before the query
    into slashes leaves the key of a URL as it is when none of them stands in
    the authority; otherwise it cuts the authority short (`keyOf_turned`), and
    the host is another one (`backslash_in_host`).
-/

namespace DenoBridge.Url

open Text (cutAt dropTail_cons forall_ascii)

variable {u v front : List Char}

/-! ## Section 1: Turned backslashes -/

/-- The second text is the first with some backslashes turned into slashes,
    all of them before the first `?` and the first `#`. -/
inductive Turned : List Char → List Char → Prop
  | nil : Turned [] []
  | mark {c : Char} (hmark : c = '?' ∨ c = '#') (rest : List Char) : Turned (c :: rest) (c :: rest)
  | keep {c : Char} (hmark : ¬(c = '?' ∨ c = '#')) {u v : List Char} (h : Turned u v) :
    Turned (c :: u) (c :: v)
  | turn {u v : List Char} (h : Turned u v) : Turned ('\\' :: u) ('/' :: v)

theorem Turned.refl (u : List Char) : Turned u u := by
  induction u with
  | nil => exact .nil
  | cons c rest ih =>
    by_cases hmark : c = '?' ∨ c = '#'
    · exact .mark hmark rest
    · exact .keep hmark ih

theorem Turned.append (front : List Char) (hfront : ∀ c ∈ front, ¬(c = '?' ∨ c = '#'))
    (h : Turned u v) : Turned (front ++ u) (front ++ v) := by
  induction front with
  | nil => exact h
  | cons c front ih =>
    exact .keep (hfront c List.mem_cons_self) (ih fun d hd => hfront d (List.mem_cons_of_mem _ hd))

theorem Turned.eq_nil_iff (h : Turned u v) : u = [] ↔ v = [] := by
  cases h <;> simp

/-- What holds no backslash and no mark at the start of a text stays. -/
theorem Turned.of_append (hfront : ∀ c ∈ front, c ≠ '\\' ∧ ¬(c = '?' ∨ c = '#'))
    (h : Turned (front ++ u) v) : ∃ w, v = front ++ w ∧ Turned u w := by
  induction front generalizing v with
  | nil => exact ⟨v, rfl, h⟩
  | cons c front ih =>
    obtain ⟨hback, hmark⟩ := hfront c List.mem_cons_self
    cases h with
    | mark hc => exact absurd hc hmark
    | keep _ h =>
      obtain ⟨w, rfl, hw⟩ := ih (fun d hd => hfront d (List.mem_cons_of_mem _ hd)) h
      exact ⟨w, rfl, hw⟩
    | turn => exact absurd rfl hback

/-- All backslashes turned, the two texts are the same. -/
theorem Turned.replaceChar_eq (h : Turned u v) :
    Text.replaceChar '\\' '/' u = Text.replaceChar '\\' '/' v := by
  unfold Text.replaceChar
  induction h with
  | nil => rfl
  | mark => rfl
  | keep _ _ ih => rw [List.map_cons, List.map_cons, ih]
  | turn _ ih => rw [List.map_cons, List.map_cons, ih, if_pos rfl, if_neg (by decide)]

/-! ## Section 2: Cleaning -/

section

variable {drop : Char → Bool}

theorem Turned.filter (hback : drop '\\' = true) (hslash : drop '/' = true) (h : Turned u v) :
    Turned (u.filter drop) (v.filter drop) := by
  induction h with
  | nil => exact .nil
  | mark => exact .refl _
  | @keep c hmark _ _ _ ih =>
    by_cases hc : drop c = true
    · rw [List.filter_cons_of_pos hc, List.filter_cons_of_pos hc]
      exact .keep hmark ih
    · rw [List.filter_cons_of_neg hc, List.filter_cons_of_neg hc]
      exact ih
  | turn _ ih =>
    rw [List.filter_cons_of_pos hback, List.filter_cons_of_pos hslash]
    exact .turn ih

theorem Turned.dropWhile (hback : drop '\\' = false) (hslash : drop '/' = false)
    (h : Turned u v) : Turned (u.dropWhile drop) (v.dropWhile drop) := by
  induction h with
  | nil => exact .nil
  | mark => exact .refl _
  | @keep c hmark _ _ h ih =>
    by_cases hc : drop c = true
    · rw [List.dropWhile_cons_of_pos hc, List.dropWhile_cons_of_pos hc]
      exact ih
    · rw [List.dropWhile_cons_of_neg hc, List.dropWhile_cons_of_neg hc]
      exact .keep hmark h
  | turn h =>
    rw [List.dropWhile_cons_of_neg (by simp [hback]), List.dropWhile_cons_of_neg (by simp [hslash])]
    exact .turn h

theorem Turned.dropTail (hback : drop '\\' = false) (hslash : drop '/' = false)
    (h : Turned u v) : Turned (Text.dropTail drop u) (Text.dropTail drop v) := by
  induction h with
  | nil => exact .refl _
  | mark => exact .refl _
  | @keep c hmark u v _ ih =>
    rw [dropTail_cons, dropTail_cons]
    by_cases hempty : Text.dropTail drop u = [] ∧ drop c = true
    · rw [if_pos hempty, if_pos ⟨ih.eq_nil_iff.1 hempty.1, hempty.2⟩]
      exact .nil
    · rw [if_neg hempty, if_neg fun h => hempty ⟨ih.eq_nil_iff.2 h.1, h.2⟩]
      exact .keep hmark ih
  | turn _ ih =>
    rw [dropTail_cons, dropTail_cons, if_neg (by simp [hback]), if_neg (by simp [hslash])]
    exact .turn ih

end

/-- The text of a URL that is cut into parts. -/
def visibleText (url : String) : List Char :=
  strip (clean url.toList)

/-- Cleaning tells no slash from a backslash. -/
theorem turned_visibleText {url other : String} (h : Turned url.toList other.toList) :
    Turned (visibleText url) (visibleText other) := by
  have htrim : Turned (Text.trim url.toList) (Text.trim other.toList) :=
    (h.dropWhile (by decide) (by decide)).dropTail (by decide) (by decide)
  have hclean : Turned (clean url.toList) (clean other.toList) :=
    htrim.filter (by decide) (by decide)
  exact (hclean.dropWhile (by decide) (by decide)).filter (by decide) (by decide)

/-! ## Section 3: Cutting -/

/-- A cut at a mark is in the same place. -/
theorem Turned.cutAt (mark : Char) (hmark : mark = '?' ∨ mark = '#') (h : Turned u v) :
    Turned (cutAt (· == mark) u).1 (cutAt (· == mark) v).1 ∧
      (cutAt (· == mark) u).2 = (cutAt (· == mark) v).2 := by
  induction h with
  | nil => exact ⟨.nil, rfl⟩
  | mark => exact ⟨.refl _, rfl⟩
  | @keep c hc _ _ _ ih =>
    have hne : (c == mark) = false := by
      rw [beq_eq_false_iff_ne]
      rintro rfl
      exact hc hmark
    simp only [Text.cutAt, hne]
    exact ⟨.keep hc ih.1, ih.2⟩
  | turn _ ih =>
    have hback : ('\\' == mark) = false := by rcases hmark with rfl | rfl <;> decide
    have hslash : ('/' == mark) = false := by rcases hmark with rfl | rfl <;> decide
    simp only [Text.cutAt, hback, hslash]
    exact ⟨.turn ih.1, ih.2⟩

/-- Path, query and fragment behind the same authority. -/
theorem Turned.rest (h : Turned u v) : Turned (pathIn u) (pathIn v) ∧ queryIn u = queryIn v ∧
    fragmentIn u = fragmentIn v := by
  obtain ⟨hfront, hfragment⟩ := h.cutAt '#' (.inr rfl)
  obtain ⟨hpath, hquery⟩ := hfront.cutAt '?' (.inl rfl)
  exact ⟨hpath, congrArg (Option.getD · []) hquery, congrArg (Option.getD · []) hfragment⟩

/-- An authority is the same, or a turned backslash ends it. -/
theorem Turned.authority (h : Turned u v) :
    u.takeWhile (!endsAuthority ·) = v.takeWhile (!endsAuthority ·) ∧
        Turned (u.dropWhile (!endsAuthority ·)) (v.dropWhile (!endsAuthority ·)) ∨
      ∃ more, u.takeWhile (!endsAuthority ·) =
        v.takeWhile (!endsAuthority ·) ++ '\\' :: more := by
  -- The two run along each other up to an end of both or the first turn.
  induction h with
  | nil => exact .inl ⟨rfl, .nil⟩
  | mark => exact .inl ⟨rfl, .refl _⟩
  | @keep c hmark u v h ih =>
    by_cases hends : endsAuthority c = true
    · simp only [hends, Bool.not_true, Bool.false_eq_true, not_false_eq_true,
        List.takeWhile_cons_of_neg, List.dropWhile_cons_of_neg]
      exact .inl ⟨trivial, .keep hmark h⟩
    · simp only [hends, Bool.not_false, List.takeWhile_cons_of_pos, List.dropWhile_cons_of_pos,
        List.cons_append, List.cons.injEq, true_and]
      exact ih
  | @turn u v _ _ => exact .inr ⟨u.takeWhile (!endsAuthority ·), rfl⟩

/-! ## Section 4: Keys -/

/-- The scheme of a URL and what follows it. -/
def schemeOf (url : String) : List Char × List Char :=
  splitScheme (visibleText url)

/-- The authority of a URL, as it is written, and what follows it. -/
def authorityOf (url : String) : List Char × List Char :=
  splitAuthority (schemeOf url).2

/-- The error, said of another URL. -/
def KeyError.about (other : String) : KeyError → KeyError
  | .incomplete _ => .incomplete other
  | .fault cause => .fault cause

/-- The key that belongs to the parts of a URL, or why there is none. -/
def judge (url : String) : Except Fault Parts → Except KeyError Key
  | .error cause => .error (.fault cause)
  | .ok found => if found.isComplete then .ok found.key else .error (.incomplete url)

theorem keyOf_eq_judge (url : String) : keyOf url =
    judge url (assemble (schemeOf url).1 (authorityOf url).1 (authorityOf url).2) := by
  have hsplit : split (clean url.toList) =
      assemble (schemeOf url).1 (authorityOf url).1 (authorityOf url).2 :=
    split_eq_assemble (clean url.toList)
  rw [keyOf_eq, parts, hsplit]
  cases assemble (schemeOf url).1 (authorityOf url).1 (authorityOf url).2 <;> rfl

/-- A URL with a key has a host that was read from its authority, and a port
    that can be one. -/
theorem exists_parts_of_authority {url : String} {key : Key} (h : keyOf url = .ok key) :
    ∃ found : Parts, found.authority = (authorityOf url).1 ∧ found.portOk = true ∧
      key.host = String.ofList found.hostName := by
  obtain ⟨found, hparts, hcomplete, rfl⟩ := exists_parts_of_keyOf h
  have hassemble : assemble (schemeOf url).1 (authorityOf url).1 (authorityOf url).2 = .ok found :=
    (split_eq_assemble (clean url.toList)).symm.trans (split_clean hparts)
  exact ⟨found, authority_of_assemble hassemble, (isComplete_iff.1 hcomplete).2.2, rfl⟩

/-- A scheme and two slashes are not touched. -/
theorem turned_scheme {url other : String} (h : Turned url.toList other.toList)
    (hscheme : (schemeOf url).1 ≠ []) {rest : List Char}
    (hslashes : (schemeOf url).2 = '/' :: '/' :: rest) :
    ∃ more, schemeOf other = ((schemeOf url).1, '/' :: '/' :: more) ∧ Turned rest more := by
  obtain ⟨scheme, rest', hname, htext⟩ := exists_scheme hscheme
  have hcut : schemeOf url = (scheme.map Text.asciiLower, rest') := by
    rw [schemeOf, htext, splitScheme_append hname]
  rw [hcut] at hslashes ⊢
  obtain rfl : rest' = '/' :: '/' :: rest := hslashes
  have hfront : ∀ c ∈ scheme ++ "://".toList, c ≠ '\\' ∧ ¬(c = '?' ∨ c = '#') := by
    intro c hc
    rcases List.mem_append.1 hc with hc | hc
    · have hchar := isSchemeChar_of_mem hname hc
      refine ⟨?_, ?_⟩
      · rintro rfl
        exact absurd hchar (by decide)
      · rintro (rfl | rfl)
        · exact absurd hchar (by decide)
        · exact absurd hchar (by decide)
    · have hmarks : ∀ c ∈ "://".toList, c ≠ '\\' ∧ ¬(c = '?' ∨ c = '#') := by decide
      exact hmarks c hc
  have hturned := turned_visibleText h
  rw [htext, show scheme ++ ':' :: '/' :: '/' :: rest = (scheme ++ "://".toList) ++ rest by simp]
    at hturned
  obtain ⟨more, hother, hmore⟩ := hturned.of_append hfront
  refine ⟨more, ?_, hmore⟩
  rw [schemeOf, hother, show (scheme ++ "://".toList) ++ more = scheme ++ ':' :: '/' :: '/' :: more
    by simp, splitScheme_append hname]

/-- Behind the same authority, turned backslashes do not show. -/
theorem judge_turned {scheme authority : List Char} (hspecial : scheme ∈ specialSchemes)
    (h : Turned u v) (url other : String) : judge other (assemble scheme authority v) =
      (judge url (assemble scheme authority u)).mapError (KeyError.about other) := by
  obtain ⟨hpath, hquery, hfragment⟩ := h.rest
  have hkey : Parts.key ⟨scheme, authority, pathIn v, queryIn v, fragmentIn v⟩ =
      Parts.key ⟨scheme, authority, pathIn u, queryIn u, fragmentIn u⟩ := by
    have hrooted : Parts.rootedPath ⟨scheme, authority, pathIn v, queryIn v, fragmentIn v⟩ =
        Parts.rootedPath ⟨scheme, authority, pathIn u, queryIn u, fragmentIn u⟩ := by
      have hcontains : specialSchemes.contains scheme = true := List.contains_iff_mem.2 hspecial
      simp only [Parts.rootedPath, hcontains, if_true, hpath.replaceChar_eq]
    unfold Parts.key Parts.resource
    rw [hrooted]
    simp only [hquery]
    rfl
  unfold assemble
  cases checkAuthority authority with
  | error cause => rfl
  | ok =>
    cases checkImpostors authority with
    | error cause => rfl
    | ok =>
      simp only [pure, bind, Except.pure, Except.bind, judge, hkey]
      split
      · rename_i hcomplete
        exact (if_pos hcomplete).symm ▸ rfl
      · rename_i hcomplete
        exact (if_neg hcomplete).symm ▸ rfl

/-! ## Section 5: Hosts -/

/-- An authority in ASCII without credentials and brackets is a host and
    perhaps a port. -/
theorem hostAndPort_of_plain {authority : List Char}
    (h : ∀ c ∈ authority, c.toNat < 0x80 ∧ c ≠ '@' ∧ c ≠ '[') : hostAndPort authority =
      ((cutAt (· == ':') authority).1, (cutAt (· == ':') authority).2.getD []) :=
  hostAndPort_of_not_mem (fun hmem => (h '@' hmem).2.1 rfl) fun hmem => (h '[' hmem).2.2 rfl

/-- The host name in such an authority is as long as what is written before
    the port. -/
theorem length_hostName {found : Parts}
    (h : ∀ c ∈ found.authority, c.toNat < 0x80 ∧ c ≠ '@' ∧ c ≠ '[') :
    found.hostName.length = (cutAt (· == ':') found.authority).1.length := by
  have hwritten : ∀ c ∈ (cutAt (· == ':') found.authority).1, c.toNat < 0x80 ∧ c ≠ ':' := by
    intro c hc
    refine ⟨(h c (Text.mem_of_mem_cutAt_fst hc)).1, ?_⟩
    rintro rfl
    exact (Text.of_cutAt (Prod.eta (cutAt (· == ':') found.authority)).symm).1 hc
  have hhost : found.host = ((cutAt (· == ':') found.authority).1.takeWhile (· != '%')).map
      Text.asciiLower ++ (cutAt (· == ':') found.authority).1.dropWhile (· != '%') := by
    unfold Parts.host
    rw [hostAndPort_of_plain h]
    dsimp only
    rw [Text.lower_eq_map fun c hc => (hwritten c ((List.takeWhile_sublist _).subset hc)).1]
  have hplain : ∀ c ∈ found.host, c.toNat < 0x80 ∧ c ≠ ':' := by
    intro c hc
    rw [hhost] at hc
    rcases List.mem_append.1 hc with hc | hc
    · obtain ⟨d, hd, rfl⟩ := List.mem_map.1 hc
      obtain ⟨hdascii, hdcolon⟩ := hwritten d ((List.takeWhile_sublist _).subset hd)
      refine ⟨?_, asciiLower_ne (by decide) hdcolon⟩
      exact forall_ascii (P := fun c => (Text.asciiLower c).toNat < 0x80) (by decide) hdascii
    · exact hwritten c ((List.dropWhile_sublist _).subset hc)
  have hname : found.hostName = found.host :=
    hostName_of_isAscii (List.all_eq_true.2 fun c hc => decide_eq_true (hplain c hc).1)
      fun hmem => (hplain ':' hmem).2 rfl
  rw [hname, hhost, List.length_append, List.length_map, ← List.length_append,
    List.takeWhile_append_dropWhile]

/-- A port holds no backslash. -/
theorem backslash_not_mem_port {found : Parts} (h : found.portOk = true) :
    '\\' ∉ (hostAndPort found.authority).2 := by
  intro hmem
  simp only [Parts.portOk, Bool.and_eq_true] at h
  exact absurd (List.all_eq_true.1 h.1.1 _ hmem) (by decide)

/-- An authority that is cut short at a backslash names another host. -/
theorem hostName_ne_of_cut {long short : Parts} {more : List Char}
    (hcut : long.authority = short.authority ++ '\\' :: more)
    (hplain : ∀ c ∈ long.authority, c.toNat < 0x80 ∧ c ≠ '@' ∧ c ≠ '[')
    (hport : long.portOk = true) : long.hostName ≠ short.hostName := by
  have hshort : ∀ c ∈ short.authority, c.toNat < 0x80 ∧ c ≠ '@' ∧ c ≠ '[' := fun c hc =>
    hplain c (by rw [hcut]; exact List.mem_append_left _ hc)
  intro heq
  -- One host for both would have to be of one length in both.
  have hlength : (cutAt (· == ':') long.authority).1.length =
      (cutAt (· == ':') short.authority).1.length := by
    rw [← length_hostName hplain, heq, length_hostName hshort]
  cases hwritten : cutAt (· == ':') short.authority with
  | mk front port =>
    obtain ⟨hcolon, hshortEq⟩ := Text.of_cutAt hwritten
    cases port with
    | none =>
      -- The backslash and what follows it are part of the longer host.
      obtain rfl : short.authority = front := by simpa using hshortEq
      have hback : ('\\' == ':') = false := by decide
      rw [hwritten, hcut, Text.cutAt_append_left hcolon, cutAt, hback] at hlength
      simp at hlength
    | some port =>
      -- The backslash is part of the port.
      have hlong : long.authority = front ++ ':' :: (port ++ '\\' :: more) := by
        rw [hcut, hshortEq]
        simp
      refine backslash_not_mem_port hport ?_
      rw [hostAndPort_of_plain hplain, hlong, Text.cutAt_append hcolon]
      simp

/-! ## Section 6: Keys of URLs with turned backslashes -/

/-- Turning backslashes before the query into slashes changes nothing behind
    the authority.  It shortens an authority in which the first turned
    backslash stands, and where this one is plain, no key stays the same. -/
theorem keyOf_turned {url other : String} (h : Turned url.toList other.toList)
    (hspecial : (schemeOf url).1 ∈ specialSchemes)
    (hslashes : ∃ rest, (schemeOf url).2 = '/' :: '/' :: rest) :
    ((authorityOf other).1 = (authorityOf url).1 →
      keyOf other = (keyOf url).mapError (KeyError.about other)) ∧
    ((authorityOf other).1 ≠ (authorityOf url).1 →
      ∃ more, (authorityOf url).1 = (authorityOf other).1 ++ '\\' :: more ∧
        ((∀ c ∈ (authorityOf url).1, c.toNat < 0x80 ∧ c ≠ '@' ∧ c ≠ '[') →
          ∀ key, keyOf url = .ok key → keyOf other ≠ .ok key)) := by
  obtain ⟨rest, hslashes⟩ := hslashes
  have hscheme : (schemeOf url).1 ≠ [] := by
    intro hnil
    rw [hnil] at hspecial
    exact absurd hspecial (by decide)
  obtain ⟨more, hother, hmore⟩ := turned_scheme h hscheme hslashes
  have hauthority : authorityOf url =
      (rest.takeWhile (!endsAuthority ·), rest.dropWhile (!endsAuthority ·)) := by
    rw [authorityOf, hslashes]
    rfl
  have hauthorityOther : authorityOf other =
      (more.takeWhile (!endsAuthority ·), more.dropWhile (!endsAuthority ·)) := by
    rw [authorityOf, hother]
    rfl
  rcases hmore.authority with ⟨hsame, hrest⟩ | ⟨tail, htail⟩
  -- No backslash was turned in the authority.
  · refine ⟨fun _ => ?_, fun hne => ?_⟩
    · rw [keyOf_eq_judge url, keyOf_eq_judge other, hauthority, hauthorityOther, hother, hsame]
      exact judge_turned hspecial hrest url other
    · rw [hauthority, hauthorityOther, hsame] at hne
      exact absurd rfl hne
  -- The first that was turned in it cuts it short.
  · have hcut : (authorityOf url).1 = (authorityOf other).1 ++ '\\' :: tail := by
      rw [hauthority, hauthorityOther]
      exact htail
    refine ⟨fun heq => ?_, fun _ => ⟨tail, hcut, fun hplain key hkey hkeyOther => ?_⟩⟩
    · rw [heq] at hcut
      simp at hcut
    · obtain ⟨long, hlong, hport, hhost⟩ := exists_parts_of_authority hkey
      obtain ⟨short, hshort, -, hhostOther⟩ := exists_parts_of_authority hkeyOther
      rw [← hlong, ← hshort] at hcut
      rw [← hlong] at hplain
      refine hostName_ne_of_cut hcut hplain hport ?_
      exact String.ofList_injective (hhost.symm.trans hhostOther)

/-- Two backslashes among dot segments are turned, one of them not, and one in
    the query stays. -/
theorem backslashes_in_path :
    Turned "https://me@deno.land/a\\..\\b\\c?d\\".toList
        "https://me@deno.land/a/../b\\c?d\\".toList ∧
      keyOf "https://me@deno.land/a/../b\\c?d\\" =
        (keyOf "https://me@deno.land/a\\..\\b\\c?d\\").mapError
          (KeyError.about "https://me@deno.land/a/../b\\c?d\\") := by
  have hturned : Turned "https://me@deno.land/a\\..\\b\\c?d\\".toList
      "https://me@deno.land/a/../b\\c?d\\".toList :=
    .append "https://me@deno.land/a".toList (by decide)
      (.turn (.append "..".toList (by decide) (.turn (.refl _))))
  exact ⟨hturned, (keyOf_turned hturned (by decide) ⟨_, rfl⟩).1 (by decide)⟩

/-- A backslash behind the host becomes part of it, where a slash would end
    it. -/
theorem backslash_in_host :
    Turned "https://a\\b/x".toList "https://a/b/x".toList ∧
      (schemeOf "https://a\\b/x").1 = "https".toList ∧
      (schemeOf "https://a\\b/x").2 = '/' :: '/' :: "a\\b/x".toList ∧
      ∃ key other, keyOf "https://a\\b/x" = .ok key ∧ keyOf "https://a/b/x" = .ok other ∧
        key.host = "a\\b" ∧ other.host = "a" := by
  refine ⟨.append "https://a".toList (by decide) (.turn (.refl _)), by decide, by decide,
    Parts.key ⟨"https".toList, "a\\b".toList, "/x".toList, [], []⟩,
    Parts.key ⟨"https".toList, "a".toList, "/b/x".toList, [], []⟩, ?_, ?_, ?_, ?_⟩
  · exact keyOf_of_parts (by decide) (by decide)
  · exact keyOf_of_parts (by decide) (by decide)
  · decide
  · decide

end DenoBridge.Url
