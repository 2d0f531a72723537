import DenoBridge.Proofs.Hostname.Capitals
import DenoBridge.Proofs.Url.Disregarded
import DenoBridge.Proofs.Url.Literals

/-! # URLs in other cases

    The scheme of a key is in lower case, and so is its host up to the first
    percent sign.  What follows keeps the case in which it is written, except
    in labels of an international name that are not ASCII.  So this is what
    decides whether the host of a key is in lower case, and whether a URL in
    other cases has the same key (`keyOf_recased`).
-/

namespace DenoBridge.Url

open Text (SameLetters IgnoresCase asciiLower IsLowered)

variable {u v authority authority' info info' address : List Char} {found found' : Parts}
  {url other : String}

/-! ## Section 1: Cutting -/

theorem strip_clean_asciiLower (text : List Char) :
    strip (clean (text.map asciiLower)) = (strip (clean text)).map asciiLower := by
  have hbreak : IgnoresCase (!isBreak ·) := Text.ignoresCase_of_ascii (by decide)
  have hcontrol : IgnoresCase fun c => decide (c ≤ ' ') := Text.ignoresCase_of_ascii (by decide)
  unfold strip clean dropBreaks Text.trim Text.trimStart Text.trimEnd
  rw [Text.dropWhile_asciiLower ignoresCase_isBlank, Text.dropTail_asciiLower ignoresCase_isBlank,
    Text.filter_asciiLower hbreak, Text.dropWhile_asciiLower hcontrol,
    Text.filter_asciiLower hbreak]

theorem splitScheme_asciiLower (text : List Char) : splitScheme (text.map asciiLower) =
    ((splitScheme text).1, (splitScheme text).2.map asciiLower) := by
  have htwice (text : List Char) :
      (text.map asciiLower).map asciiLower = text.map asciiLower := by
    rw [List.map_map]
    exact List.map_congr_left fun c _ => Text.asciiLower_asciiLower c
  unfold splitScheme
  rw [Text.cutAt_asciiLower (Text.ignoresCase_beq (by decide))]
  cases hcut : Text.cutAt (· == ':') text with
  | mk front rest =>
    cases rest with
    | none => rfl
    | some rest =>
      dsimp only [Option.map_some]
      rw [isScheme_asciiLower, htwice]
      split <;> rfl

theorem splitAuthority_asciiLower (text : List Char) : splitAuthority (text.map asciiLower) =
    ((splitAuthority text).1.map asciiLower, (splitAuthority text).2.map asciiLower) := by
  have hends : IgnoresCase (!endsAuthority ·) := Text.ignoresCase_of_ascii (by decide)
  by_cases hslashes : ∃ rest, text = '/' :: '/' :: rest
  · obtain ⟨rest, rfl⟩ := hslashes
    exact Prod.ext (Text.takeWhile_asciiLower hends rest) (Text.dropWhile_asciiLower hends rest)
  · have hnone (text : List Char) (h : ¬ ∃ rest, text = '/' :: '/' :: rest) :
        splitAuthority text = ([], text) := by
      unfold splitAuthority
      split
      · exact absurd ⟨_, rfl⟩ h
      · rfl
    rw [hnone text hslashes, hnone]
    · rfl
    · rintro ⟨rest, heq⟩
      obtain ⟨first, more, rfl, hfirst, hmore⟩ := List.map_eq_cons_iff.1 heq
      obtain ⟨next, last, rfl, hnext, -⟩ := List.map_eq_cons_iff.1 hmore
      rw [Text.asciiLower_eq_mark (by decide)] at hfirst hnext
      exact hslashes ⟨last, by rw [hfirst, hnext]⟩

theorem hostInfo_asciiLower (authority : List Char) :
    hostInfo (authority.map asciiLower) = (hostInfo authority).map asciiLower := by
  unfold hostInfo Text.cutAtLast
  rw [← List.map_reverse, Text.cutAt_asciiLower (Text.ignoresCase_beq (by decide))]
  cases Text.cutAt (· == '@') authority.reverse with
  | mk after before => cases before <;> simp

theorem hostAndPort_asciiLower (authority : List Char) :
    hostAndPort (authority.map asciiLower) =
      ((hostAndPort authority).1.map asciiLower, (hostAndPort authority).2.map asciiLower) := by
  have hcut {mark : Char} (h : mark.isAlpha = false) :=
    Text.cutAt_asciiLower (Text.ignoresCase_beq h)
  have hgetD (rest : Option (List Char)) :
      (rest.map (·.map asciiLower)).getD [] = (rest.getD []).map asciiLower := by
    cases rest <;> rfl
  unfold hostAndPort
  rw [hostInfo_asciiLower, hcut (by decide)]
  cases Text.cutAt (· == '[') (hostInfo authority) with
  | mk front bracketed =>
    cases bracketed with
    | none =>
      dsimp only [Option.map_none]
      rw [hcut (by decide), hgetD]
    | some bracketed =>
      dsimp only [Option.map_some]
      rw [hcut (by decide), hgetD, hcut (by decide), hgetD]

/-! ## Section 2: Recased URLs -/

/-- The other URL differs in nothing but the case of letters of ASCII, and in
    that only up to where its authority ends. -/
structure Recased (url other : String) : Prop where
  letters : SameLetters url.toList other.toList
  rest : (authorityOf other).2 = (authorityOf url).2

theorem Recased.visibleText (h : Recased url other) :
    SameLetters (visibleText url) (visibleText other) :=
  h.letters.of_commutes (f := fun text => strip (clean text)) strip_clean_asciiLower

theorem Recased.scheme_eq (h : Recased url other) :
    (partsOf other).scheme = (partsOf url).scheme := by
  rw [partsOf_scheme, partsOf_scheme]
  refine h.visibleText.eq_of (f := fun text => (splitScheme text).1) fun text => ?_
  rw [splitScheme_asciiLower]

theorem Recased.sameAuthority (h : Recased url other) :
    SameLetters (partsOf url).authority (partsOf other).authority := by
  rw [partsOf_authority, partsOf_authority]
  refine h.visibleText.of_commutes (f := fun text => (splitAuthority (splitScheme text).2).1)
    fun text => ?_
  rw [splitScheme_asciiLower, splitAuthority_asciiLower]

theorem sameLetters_hostAndPort (h : SameLetters authority authority') :
    SameLetters (hostAndPort authority).1 (hostAndPort authority').1 ∧
      SameLetters (hostAndPort authority).2 (hostAndPort authority').2 :=
  ⟨h.of_commutes (f := fun text => (hostAndPort text).1)
      fun text => by rw [hostAndPort_asciiLower],
    h.of_commutes (f := fun text => (hostAndPort text).2)
      fun text => by rw [hostAndPort_asciiLower]⟩

/-! ## Section 3: Sound authorities -/

/-- A port is behind a colon in all cases. -/
theorem tail_of_sameLetters (h : SameLetters u v) (htail : u = [] ∨ u.head? = some ':') :
    v = [] ∨ v.head? = some ':' := by
  rcases htail with rfl | hcolon
  · exact .inl (List.map_eq_nil_iff.1 h.symm)
  · obtain ⟨rest, rfl⟩ := List.head?_eq_some_iff.1 hcolon
    obtain ⟨rest', rfl, -⟩ := h.exists_cons (by decide)
    exact .inr rfl

/-- In other cases, an address stands in the same place. -/
theorem Encloses.of_sameLetters (h : Encloses info address) (hsame : SameLetters info info') :
    ∃ address', Encloses info' address' ∧ SameLetters address address' := by
  cases h with
  | closed hclosing htail =>
    obtain ⟨rest, rfl, hrest⟩ := hsame.exists_cons (by decide)
    obtain ⟨address', back, rfl, haddress, hback⟩ := hrest.exists_append
    obtain ⟨tail', rfl, htail'⟩ := hback.exists_cons (by decide)
    exact ⟨address', .closed (mt (haddress.mem_iff (by decide)).1 hclosing)
      (tail_of_sameLetters htail' htail), haddress⟩
  | unclosed hclosing =>
    obtain ⟨address', rfl, haddress⟩ := hsame.exists_cons (by decide)
    exact ⟨address', .unclosed (mt (haddress.mem_iff (by decide)).1 hclosing), haddress⟩
  | outside hopening hcolon htail =>
    obtain ⟨address', tail', rfl, haddress, htail'⟩ := hsame.exists_append
    exact ⟨address', .outside (mt (hsame.mem_iff (by decide)).1 hopening)
      (mt (haddress.mem_iff (by decide)).1 hcolon)
      (tail_of_sameLetters htail' htail), haddress⟩

/-- What has to be an address is the host. -/
theorem Encloses.written_eq (h : Encloses (hostInfo authority) address) :
    (hostAndPort authority).1 = address := by
  unfold hostAndPort
  rcases h.cut with ⟨bracketed, after, hopen, hclose, -⟩ | ⟨hnone, hcolon⟩
  · rw [hopen]
    dsimp only
    rw [hclose]
  · rw [hnone]
    exact hcolon

theorem genuine_of_sameLetters (h : SameLetters u v)
    (hgenuine : ∀ c ∈ u, c.toNat ∉ Hostname.impostors) :
    ∀ c ∈ v, c.toNat ∉ Hostname.impostors := by
  have hclass : IgnoresCase fun c => !Hostname.impostors.contains c.toNat :=
    Text.ignoresCase_of_ascii (by decide)
  have hall : u.all (fun c => !Hostname.impostors.contains c.toNat) = true :=
    List.all_eq_true.2 fun c hc => by simpa using hgenuine c hc
  rw [← h.all_eq hclass] at hall
  intro c hc
  simpa using List.all_eq_true.1 hall c hc

/-- In other cases, an authority is sound still, unless it has brackets and
    its host begins with a capital `V`. -/
theorem isSound_iff_of_sameLetters (h : SameLetters authority authority')
    (hsound : IsSound authority) : IsSound authority' ↔
      ¬ ('[' ∈ authority' ∧ (hostAndPort authority').1.head? = some 'V') := by
  have hinfo : SameLetters (hostInfo authority) (hostInfo authority') :=
    h.of_commutes hostInfo_asciiLower
  have hplace (hopening : '[' ∈ authority') : ∃ address', Encloses (hostInfo authority') address' ∧
      (IsLiteral address' ↔ address'.head? ≠ some 'V') := by
    obtain ⟨info, address, hhas, hencloses, hliteral⟩ :=
      hsound.enclosed ((h.mem_iff (by decide)).1 hopening)
    rw [← hhas.hostInfo_eq] at hencloses
    obtain ⟨address', hencloses', haddress⟩ := hencloses.of_sameLetters hinfo
    exact ⟨address', hencloses', isLiteral_iff_of_sameLetters haddress hliteral⟩
  -- So where the address stands is settled, and only whether it is one has to be asked.
  constructor
  · rintro hsound' ⟨hopening, hcapital⟩
    obtain ⟨address', hencloses', hiff⟩ := hplace hopening
    obtain ⟨info, address, hhas, hencloses, hliteral⟩ := hsound'.enclosed hopening
    rw [← hhas.hostInfo_eq] at hencloses
    rw [hencloses.written_eq] at hcapital
    rw [← hencloses'.written_eq, hencloses.written_eq] at hiff
    exact hiff.1 hliteral hcapital
  · intro hsmall
    refine ⟨?_, fun hopening => ?_, genuine_of_sameLetters h hsound.genuine⟩
    · rw [h.mem_iff (by decide), h.mem_iff (by decide)]
      exact hsound.paired
    · obtain ⟨address', hencloses', hiff⟩ := hplace hopening
      refine ⟨_, address', hasInfo_hostInfo authority', hencloses', hiff.2 fun hcapital => ?_⟩
      exact hsmall ⟨hopening, by rw [hencloses'.written_eq, hcapital]⟩

/-! ## Section 4: Hosts -/

/-- The host as it is written. -/
def Parts.written (found : Parts) : List Char :=
  (hostAndPort found.authority).1

/-- What the first percent sign of the host begins. -/
def Parts.zone (found : Parts) : List Char :=
  found.written.dropWhile (· != '%')

/-- Is the host an international name that can be written in ASCII? -/
def Parts.isTranslated (found : Parts) : Bool :=
  !found.host.contains ':' && !Hostname.isAscii found.host &&
    (Hostname.toAscii? found.host).isSome

/-- The texts that stand in the name of the host in the case in which they are
    written. -/
def Parts.kept (found : Parts) : List (List Char) :=
  if found.isTranslated then (Hostname.labels found.host).filter Hostname.isAscii
  else [found.zone]

theorem toAscii?_hostName (h : found.isTranslated = true) :
    Hostname.toAscii? found.host = some found.hostName := by
  simp only [Parts.isTranslated, Bool.and_eq_true, Bool.not_eq_true'] at h
  obtain ⟨⟨hcolon, hbeyond⟩, hsome⟩ := h
  obtain ⟨encoded, hencoded⟩ := Option.isSome_iff_exists.1 hsome
  unfold Parts.hostName
  dsimp only
  rw [hcolon, hbeyond, if_neg (by simp), if_neg (by simp), hencoded]
  rfl

theorem hostName_of_not_isTranslated (h : found.isTranslated = false) :
    found.hostName = if ':' ∈ found.host then '[' :: found.host ++ [']'] else found.host := by
  unfold Parts.hostName
  dsimp only
  by_cases hcolon : ':' ∈ found.host
  · rw [if_pos hcolon, if_pos (List.contains_iff_mem.2 hcolon)]
  · rw [if_neg hcolon, if_neg (mt List.contains_iff_mem.1 hcolon)]
    split
    · rfl
    · rename_i hbeyond
      have hnone : Hostname.toAscii? found.host = none := by
        simpa [Parts.isTranslated, hcolon, hbeyond] using h
      rw [hnone]
      rfl

theorem host_of_sameLetters (h : SameLetters found.written found'.written) :
    ∃ front, found.host = front ++ found.zone ∧ found'.host = front ++ found'.zone ∧
      SameLetters found.zone found'.zone := by
  have hpercent : IgnoresCase (· != '%') := (Text.ignoresCase_beq (by decide)).not
  refine ⟨Text.lower (found.written.takeWhile (· != '%')), rfl, ?_,
    h.of_commutes (Text.dropWhile_asciiLower hpercent)⟩
  rw [(h.of_commutes (Text.takeWhile_asciiLower hpercent)).lower_eq]
  rfl

theorem sameLetters_host (h : SameLetters found.written found'.written) :
    SameLetters found.host found'.host := by
  obtain ⟨front, hhost, hhost', hzone⟩ := host_of_sameLetters h
  rw [hhost, hhost', SameLetters, List.map_append, List.map_append, hzone]

theorem isTranslated_of_sameLetters (h : SameLetters found.written found'.written) :
    found'.isTranslated = found.isTranslated := by
  have hhost := sameLetters_host h
  have hsome (host host' : List Char) (hsame : SameLetters host host')
      (hform : (Hostname.toAscii? host).isSome = true) :
      (Hostname.toAscii? host').isSome = true := by
    obtain ⟨encoded, hencoded⟩ := Option.isSome_iff_exists.1 hform
    obtain ⟨encoded', hencoded', -⟩ := Hostname.exists_toAscii?_of_sameLetters hsame hencoded
    rw [hencoded']
    rfl
  have hforms : (Hostname.toAscii? found'.host).isSome = (Hostname.toAscii? found.host).isSome :=
    Bool.eq_iff_iff.2 ⟨hsome _ _ hhost.symm, hsome _ _ hhost⟩
  have hcolon : found'.host.contains ':' = found.host.contains ':' :=
    hhost.eq_of (Text.contains_asciiLower (by decide))
  unfold Parts.isTranslated
  rw [hcolon, Hostname.isAscii_of_sameLetters hhost, hforms]

/-- In other cases, a host has the same name if the texts are the same that
    keep their case. -/
theorem hostName_eq_iff (h : SameLetters found.written found'.written) :
    found'.hostName = found.hostName ↔ found'.kept = found.kept := by
  have htranslated := isTranslated_of_sameLetters h
  unfold Parts.kept
  -- A translated name is made label by label, any other is made of the host as it is.
  cases hone : found.isTranslated with
  | true =>
    have hform := toAscii?_hostName hone
    have hform' := toAscii?_hostName (htranslated.trans hone)
    obtain ⟨encoded, hencoded, heq⟩ :=
      Hostname.exists_toAscii?_of_sameLetters (sameLetters_host h) hform
    obtain rfl : found'.hostName = encoded := Option.some.inj (hform'.symm.trans hencoded)
    rw [htranslated, hone, if_pos rfl, if_pos rfl, heq]
  | false =>
    obtain ⟨front, hhost, hhost', -⟩ := host_of_sameLetters h
    have hcolon : ':' ∈ found'.host ↔ ':' ∈ found.host :=
      (sameLetters_host h).mem_iff (by decide)
    have hhosts : found'.host = found.host ↔ found'.zone = found.zone := by
      rw [hhost, hhost', List.append_cancel_left_eq]
    rw [hostName_of_not_isTranslated hone,
      hostName_of_not_isTranslated (htranslated.trans hone), htranslated, hone]
    by_cases hmem : ':' ∈ found.host
    · simp [hmem, hcolon, hhosts]
    · simp [hmem, hcolon, hhosts]

/-- The name of a host is in lower case if the texts are that keep their
    case. -/
theorem isLowered_hostName_iff (found : Parts) : (∀ c ∈ found.hostName, IsLowered c) ↔
    ∀ text ∈ found.kept, ∀ c ∈ text, IsLowered c := by
  unfold Parts.kept
  cases hone : found.isTranslated with
  | true =>
    rw [if_pos rfl]
    exact Hostname.isLowered_toAscii?_iff (toAscii?_hostName hone)
  | false =>
    have hfront : ∀ c ∈ Text.lower (found.written.takeWhile (· != '%')), IsLowered c :=
      fun c => Text.isLowered_of_mem_lower
    have hhost : (∀ c ∈ found.host, IsLowered c) ↔ ∀ c ∈ found.zone, IsLowered c := by
      show (∀ c ∈ _ ++ found.zone, IsLowered c) ↔ _
      rw [List.forall_mem_append]
      exact and_iff_right hfront
    have hbrackets : IsLowered '[' ∧ IsLowered ']' := by decide
    rw [if_neg Bool.false_ne_true, List.forall_mem_singleton, ← hhost,
      hostName_of_not_isTranslated hone]
    split
    · rw [List.forall_mem_append, List.forall_mem_cons, List.forall_mem_singleton]
      simp [hbrackets]
    · exact Iff.rfl

/-! ## Section 5: Keys -/

theorem keyOf_eq_ok_iff {key : Key} : keyOf url = .ok key ↔
    IsSound (partsOf url).authority ∧ (partsOf url).isComplete = true ∧
      (partsOf url).key = key := by
  rw [partsOf_authority]
  by_cases hsound : IsSound (authorityOf url).1
  · rw [keyOf_eq, parts_of_isSound hsound]
    dsimp only
    split
    · rename_i hcomplete
      simp [hsound, hcomplete]
    · rename_i hmissing
      simp [hmissing]
  · obtain ⟨cause, hcause⟩ := parts_of_not_isSound hsound
    rw [keyOf_eq, hcause]
    simp [hsound]

theorem portOk_of_sameLetters (h : SameLetters found.authority found'.authority)
    (hport : found.portOk = true) : found'.portOk = true := by
  have hdigit : IgnoresCase Char.isDigit := Text.ignoresCase_of_ascii (by decide)
  have hsame := (sameLetters_hostAndPort h).2
  have hall : (hostAndPort found.authority).2.all Char.isDigit = true :=
    (Bool.and_eq_true_iff.1 (Bool.and_eq_true_iff.1 hport).1).1
  have hall' : (hostAndPort found'.authority).2.all Char.isDigit = true :=
    (hsame.all_eq hdigit).trans hall
  have hequal : (hostAndPort found'.authority).2 = (hostAndPort found.authority).2 := by
    rw [← Text.asciiLower_of_isDigit hall', ← hsame, Text.asciiLower_of_isDigit hall]
  unfold Parts.portOk at hport ⊢
  rw [hequal]
  exact hport

theorem Recased.written (h : Recased url other) :
    SameLetters (partsOf url).written (partsOf other).written :=
  (sameLetters_hostAndPort h.sameAuthority).1

theorem Recased.isComplete (h : Recased url other) (hcomplete : (partsOf url).isComplete = true) :
    (partsOf other).isComplete = true := by
  obtain ⟨hscheme, hhost, hport⟩ := isComplete_iff.1 hcomplete
  refine isComplete_iff.2 ⟨?_, ?_, portOk_of_sameLetters h.sameAuthority hport⟩
  · rw [h.scheme_eq]
    exact hscheme
  · intro hnil
    have hsame := sameLetters_host h.written
    rw [hnil] at hsame
    exact hhost (List.map_eq_nil_iff.1 hsame)

theorem Recased.key_eq_iff (h : Recased url other) :
    (partsOf other).key = (partsOf url).key ↔ (partsOf other).kept = (partsOf url).kept := by
  have hresource : (partsOf other).resource = (partsOf url).resource := by
    have hpath : (partsOf other).path = (partsOf url).path := by rw [partsOf, partsOf, h.rest]
    have hquery : (partsOf other).query = (partsOf url).query := by rw [partsOf, partsOf, h.rest]
    unfold Parts.resource Parts.rootedPath
    rw [h.scheme_eq, hpath, hquery]
  rw [← hostName_eq_iff h.written, Parts.key, Parts.key, h.scheme_eq, hresource, Key.mk.injEq]
  simp [String.ofList_inj]

/-- There are brackets, and what has to be an address begins with a capital
    `V`. -/
def Parts.HasCapitalVersion (found : Parts) : Prop :=
  '[' ∈ found.authority ∧ found.written.head? = some 'V'

/-- What the case of letters in a URL comes to in its key. -/
structure CaseInKey (url : String) (key : Key) : Prop where
  scheme : Text.lower key.scheme.toList = key.scheme.toList
  /-- The host is in lower case up to what keeps its case. -/
  host : Text.lower key.host.toList = key.host.toList ↔
    ∀ text ∈ (partsOf url).kept, Text.lower text = text
  /-- Nothing else tells URLs in different cases from each other. -/
  recased : ∀ other, Recased url other → (keyOf other = .ok key ↔
    (partsOf other).kept = (partsOf url).kept ∧ ¬ (partsOf other).HasCapitalVersion)
  /-- Without a percent sign in the host, nothing keeps its case. -/
  plain : '%' ∉ (partsOf url).written → Text.lower key.host.toList = key.host.toList ∧
    ∀ other, Recased url other → ¬ (partsOf other).HasCapitalVersion → keyOf other = .ok key

theorem isLowered_scheme (url : String) : ∀ c ∈ (partsOf url).scheme, IsLowered c := by
  rw [partsOf_scheme, schemeOf, splitScheme]
  split
  · rename_i front rest hcut
    split
    · rename_i hscheme
      intro c hc
      obtain ⟨d, hd, rfl⟩ := List.mem_map.1 hc
      exact Text.forall_ascii (P := fun c => IsLowered (asciiLower c)) Text.isLowered_asciiLower
        (toNat_lt_of_isSchemeChar (isSchemeChar_of_mem hscheme hd))
    · simp
  · simp

/-- Without a percent sign there is no zone, and no label that was not put
    into lower case. -/
theorem kept_of_not_mem (h : '%' ∉ found.written)
    (hsame : SameLetters found.written found'.written) :
    found'.kept = found.kept ∧ ∀ text ∈ found.kept, Text.lower text = text := by
  have hzone (found : Parts) (h : '%' ∉ found.written) : found.zone = [] := by
    refine List.dropWhile_eq_nil_iff.2 fun c hc => ?_
    rw [bne_iff_ne]
    rintro rfl
    exact h hc
  have hnone := hzone found h
  have hnone' := hzone found' (mt (hsame.mem_iff (by decide)).1 h)
  obtain ⟨front, hhost, hhost', -⟩ := host_of_sameLetters hsame
  have hhosts : found'.host = found.host := by rw [hhost, hhost', hnone, hnone']
  constructor
  · unfold Parts.kept
    rw [isTranslated_of_sameLetters hsame, hhosts, hnone, hnone']
  · have hlowered : ∀ c ∈ found.host, IsLowered c := by
      have hlower : found.host = Text.lower (found.written.takeWhile (· != '%')) := by
        show Text.lower (found.written.takeWhile (· != '%')) ++ found.zone = _
        rw [hnone, List.append_nil]
      rw [hlower]
      exact fun c => Text.isLowered_of_mem_lower
    intro text htext
    refine Text.lower_eq_self_iff.2 fun c hc => ?_
    unfold Parts.kept at htext
    split at htext
    · rcases Hostname.mem_of_mem_labels (List.mem_filter.1 htext).1 hc with rfl | hc
      · decide
      · exact hlowered c hc
    · rw [List.mem_singleton.1 htext, hnone] at hc
      cases hc

/-- In which case the scheme and the host of a key are, and which URLs in
    other cases have that key. -/
theorem keyOf_recased {key : Key} (h : keyOf url = .ok key) : CaseInKey url key := by
  obtain ⟨hsound, hcomplete, rfl⟩ := keyOf_eq_ok_iff.1 h
  have hhost : Text.lower (partsOf url).key.host.toList = (partsOf url).key.host.toList ↔
      ∀ text ∈ (partsOf url).kept, Text.lower text = text := by
    simp only [Text.lower_eq_self_iff, Parts.key, String.toList_ofList]
    exact isLowered_hostName_iff (partsOf url)
  -- Scheme, port and resource are the same anyway: what is left are the brackets and the name.
  have hrecased (other : String) (hother : Recased url other) :
      keyOf other = .ok (partsOf url).key ↔
        (partsOf other).kept = (partsOf url).kept ∧ ¬ (partsOf other).HasCapitalVersion := by
    have hsmall : IsSound (partsOf other).authority ↔ ¬ (partsOf other).HasCapitalVersion :=
      isSound_iff_of_sameLetters hother.sameAuthority hsound
    rw [keyOf_eq_ok_iff, hsmall, hother.key_eq_iff, and_iff_right (hother.isComplete hcomplete),
      and_comm]
  refine ⟨?_, hhost, hrecased, fun hpercent => ⟨?_, fun other hother hversion => ?_⟩⟩
  · rw [Text.lower_eq_self_iff, Parts.key, String.toList_ofList]
    exact isLowered_scheme url
  · exact hhost.2 (kept_of_not_mem hpercent rfl).2
  · exact (hrecased other hother).2 ⟨(kept_of_not_mem hpercent hother.written).1, hversion⟩

/-- Behind the percent sign the case counts, before it not. -/
theorem percent_host_recased :
    Recased "https://DENO%2Eland/x" "https://deno%2Eland/x" ∧
      Recased "https://DENO%2Eland/x" "https://deno%2eland/x" ∧
      ∃ key, keyOf "https://DENO%2Eland/x" = .ok key ∧ keyOf "https://deno%2Eland/x" = .ok key ∧
        keyOf "https://deno%2eland/x" ≠ .ok key ∧ Text.lower key.host.toList ≠ key.host.toList := by
  have hkey : keyOf "https://DENO%2Eland/x" = .ok (Parts.key ⟨"https".toList,
      "DENO%2Eland".toList, "/x".toList, [], []⟩) :=
    keyOf_of_parts (by decide) (by decide)
  have hbefore : Recased "https://DENO%2Eland/x" "https://deno%2Eland/x" :=
    ⟨by decide, by decide⟩
  have hbehind : Recased "https://DENO%2Eland/x" "https://deno%2eland/x" :=
    ⟨by decide, by decide⟩
  have hcase := keyOf_recased hkey
  refine ⟨hbefore, hbehind, _, hkey, (hcase.recased _ hbefore).2 ⟨by decide, ?_⟩, ?_, ?_⟩
  · rintro ⟨hopening, -⟩
    exact absurd hopening (by decide)
  · rw [Ne, hcase.recased _ hbehind, not_and_or]
    exact .inl (by decide)
  · rw [Ne, hcase.host]
    decide

/-- A host that is not in lower case, and another key in another case. -/
theorem percent_host_keeps_case :
    ∃ key, keyOf "https://deno%2Eland/x" = .ok key ∧
      Text.lower key.host.toList ≠ key.host.toList ∧
      Recased "https://deno%2Eland/x" "https://deno%2eland/x" ∧
      ∃ other, keyOf "https://deno%2eland/x" = .ok other ∧ other ≠ key := by
  have hkey : keyOf "https://deno%2Eland/x" = .ok (Parts.key ⟨"https".toList,
      "deno%2Eland".toList, "/x".toList, [], []⟩) :=
    keyOf_of_parts (by decide) (by decide)
  have hother : keyOf "https://deno%2eland/x" = .ok (Parts.key ⟨"https".toList,
      "deno%2eland".toList, "/x".toList, [], []⟩) :=
    keyOf_of_parts (by decide) (by decide)
  refine ⟨_, hkey, by decide, ⟨by decide, by decide⟩, _, hother, fun heq => ?_⟩
  exact absurd (congrArg Key.host heq) (by decide)

end DenoBridge.Url
