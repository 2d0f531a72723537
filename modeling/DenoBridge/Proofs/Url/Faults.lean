import DenoBridge.Proofs.Cache.Placement
import DenoBridge.Proofs.Url.Backslash

/-! # Which URLs cannot be cut

    Cutting a URL into its parts is refused for its authority only.  What an
    authority has to be like is told here without cutting it (`IsSound`), and
    it is shown to be what the checks let through (`isSound_iff`).  So for
    every URL one of three things is the case, and for all four functions that
    a URL is given to it is the same one: there is an answer, a part is
    missing, or the authority is refused (`denied_of_not_isSound`,
    `denied_of_incomplete`, `answered_of_isComplete`).
-/

namespace DenoBridge.Url

variable {authority info address text : List Char} {url : String}

/-! ## Section 1: Authorities -/

/-- The second text is what follows the last `@` of the first, or all of it
    when there is none. -/
inductive HasInfo : List Char → List Char → Prop where
  | bare {info : List Char} : '@' ∉ info → HasInfo info info
  | behind {info : List Char} (credentials : List Char) : '@' ∉ info →
      HasInfo (credentials ++ '@' :: info) info

/-- A text that may stand in brackets. -/
def IsLiteral (text : List Char) : Prop :=
  if text.head? = some 'v' then isFutureAddress text = true else isIPv6 text = true

/-- The second text is where the first has to hold an address. -/
inductive Encloses : List Char → List Char → Prop where
  /-- It stands in brackets, and only a port may follow. -/
  | closed {address tail : List Char} : ']' ∉ address → (tail = [] ∨ tail.head? = some ':') →
      Encloses ('[' :: address ++ ']' :: tail) address
  /-- The closing bracket stands elsewhere. -/
  | unclosed {address : List Char} : ']' ∉ address → Encloses ('[' :: address) address
  /-- Both brackets stand elsewhere. -/
  | outside {address tail : List Char} : '[' ∉ address ++ tail → ':' ∉ address →
      (tail = [] ∨ tail.head? = some ':') → Encloses (address ++ tail) address

/-- An authority that a URL can have. -/
structure IsSound (authority : List Char) : Prop where
  paired : '[' ∈ authority ↔ ']' ∈ authority
  enclosed : '[' ∈ authority →
    ∃ info address, HasInfo authority info ∧ Encloses info address ∧ IsLiteral address
  genuine : ∀ c ∈ authority, c.toNat ∉ Hostname.impostors

theorem HasInfo.hostInfo_eq (h : HasInfo authority info) : hostInfo authority = info := by
  unfold hostInfo Text.cutAtLast
  cases h with
  | bare hnone =>
    rw [Text.cutAt_of_not_mem (by simpa using hnone)]
    exact List.reverse_reverse authority
  | behind credentials hnone =>
    have hreverse : (credentials ++ '@' :: info).reverse =
        info.reverse ++ '@' :: credentials.reverse := by simp
    rw [hreverse, Text.cutAt_append (by simpa using hnone)]
    exact List.reverse_reverse info

theorem hasInfo_hostInfo (authority : List Char) : HasInfo authority (hostInfo authority) := by
  have hfound : ∃ info, HasInfo authority info := by
    -- The last of the marks is the first one from behind.
    cases hcut : Text.cutAt (· == '@') authority.reverse with
    | mk after before =>
      obtain ⟨hnone, hreverse⟩ := Text.of_cutAt hcut
      have hauthority := congrArg List.reverse hreverse
      rw [List.reverse_reverse] at hauthority
      have hinfo : '@' ∉ after.reverse := by simpa using hnone
      cases before with
      | none =>
        have hwhole : authority = after.reverse := by simpa using hauthority
        exact ⟨authority, .bare (hwhole ▸ hinfo)⟩
      | some before =>
        have hboth : authority = before.reverse ++ '@' :: after.reverse := by
          simpa using hauthority
        exact ⟨after.reverse, hboth ▸ .behind before.reverse hinfo⟩
  obtain ⟨info, hinfo⟩ := hfound
  rw [hinfo.hostInfo_eq]
  exact hinfo

/-! ## Section 2: What the checks let through -/

theorem checkLiteral_eq_ok_iff : checkLiteral text = .ok () ↔ IsLiteral text := by
  unfold checkLiteral IsLiteral
  by_cases hfuture : text.head? = some 'v'
  · rw [if_pos hfuture, if_pos hfuture]
    by_cases hgood : isFutureAddress text = true <;> simp [hgood]
  · rw [if_neg hfuture, if_neg hfuture]
    by_cases hgood : isIPv6 text = true
    · simp [hgood]
    · by_cases hold : isIPv4 text = true <;> simp [hgood, hold]

/-- Where an address has to stand, cutting finds it. -/
theorem Encloses.cut (h : Encloses info address) :
    (∃ bracketed after, Text.cutAt (· == '[') info = ([], some bracketed) ∧
      Text.cutAt (· == ']') bracketed = (address, after) ∧
      (after.getD [] = [] ∨ (after.getD []).head? = some ':')) ∨
    Text.cutAt (· == '[') info = (info, none) ∧ (Text.cutAt (· == ':') info).1 = address := by
  cases h with
  | closed hclosing htail =>
    exact .inl ⟨_, _, rfl, Text.cutAt_append hclosing _, htail⟩
  | unclosed hclosing =>
    exact .inl ⟨_, _, rfl, Text.cutAt_of_not_mem hclosing, .inl rfl⟩
  | outside hopening hcolon htail =>
    refine .inr ⟨Text.cutAt_of_not_mem hopening, ?_⟩
    rcases htail with rfl | htail
    · rw [List.append_nil, Text.cutAt_of_not_mem hcolon]
    · obtain ⟨port, rfl⟩ := List.head?_eq_some_iff.1 htail
      rw [Text.cutAt_append hcolon]

/-- Where an address has to stand, it is checked. -/
theorem checkBrackets_of_encloses (h : Encloses (hostInfo authority) address) :
    checkBrackets authority = checkLiteral address := by
  unfold checkBrackets
  rcases h.cut with ⟨bracketed, after, hopen, hclose, htail⟩ | ⟨hnone, hcolon⟩
  · rw [hopen]
    dsimp only
    rw [hclose]
    rcases htail with hempty | hcolon
    · simp [hempty]
    · simp [hcolon]
  · rw [hnone]
    dsimp only
    rw [hcolon]

/-- Brackets are let through when they stand where an address has to stand,
    and there is one. -/
theorem checkBrackets_eq_ok_iff : checkBrackets authority = .ok () ↔
    ∃ address, Encloses (hostInfo authority) address ∧ IsLiteral address := by
  constructor
  · intro h
    -- An authority without a place for an address is refused before any
    -- address is read.
    have hplace : ∃ address, Encloses (hostInfo authority) address := by
      unfold checkBrackets at h
      split at h
      · rename_i before bracketed hcut
        obtain ⟨-, hinfo⟩ := Text.of_cutAt hcut
        cases hclose : Text.cutAt (· == ']') bracketed with
        | mk inside after =>
          obtain ⟨hclosing, hbracketed⟩ := Text.of_cutAt hclose
          simp only [hclose] at h
          split at h
          · cases h
          · rename_i hwell
            simp only [Bool.or_eq_true, Bool.not_eq_true', not_or, Bool.not_eq_false,
              List.isEmpty_iff, beq_iff_eq] at hwell
            obtain ⟨rfl, htail⟩ := hwell
            cases after with
            | none =>
              have hunclosed : hostInfo authority = '[' :: inside := by
                simpa [hbracketed] using hinfo
              exact ⟨inside, hunclosed ▸ .unclosed hclosing⟩
            | some tail =>
              have hclosed : hostInfo authority = '[' :: inside ++ ']' :: tail := by
                simpa [hbracketed] using hinfo
              exact ⟨inside, hclosed ▸ .closed hclosing htail⟩
      · rename_i info hcut
        obtain ⟨hopening, hinfo⟩ := Text.of_cutAt hcut
        cases hcolon : Text.cutAt (· == ':') info with
        | mk inside after =>
          obtain ⟨hnone, hboth⟩ := Text.of_cutAt hcolon
          have houtside : hostInfo authority = inside ++ (after.map (':' :: ·)).getD [] := by
            simpa [← hboth] using hinfo
          refine ⟨inside, houtside ▸ .outside (hboth ▸ hopening) hnone ?_⟩
          cases after <;> simp
    obtain ⟨address, haddress⟩ := hplace
    rw [checkBrackets_of_encloses haddress] at h
    exact ⟨address, haddress, checkLiteral_eq_ok_iff.1 h⟩
  · rintro ⟨address, hplace, haddress⟩
    rw [checkBrackets_of_encloses hplace]
    exact checkLiteral_eq_ok_iff.2 haddress

theorem checkAuthority_eq_ok_iff : checkAuthority authority = .ok () ↔
    ('[' ∈ authority ↔ ']' ∈ authority) ∧
      ('[' ∈ authority → checkBrackets authority = .ok ()) := by
  unfold checkAuthority
  by_cases hopening : '[' ∈ authority
  · by_cases hclosing : ']' ∈ authority <;> simp [hopening, hclosing]
  · by_cases hclosing : ']' ∈ authority <;> simp [hopening, hclosing]

theorem checkImpostors_eq_ok_iff : checkImpostors authority = .ok () ↔
    ∀ c ∈ authority, c.toNat ∉ Hostname.impostors := by
  unfold checkImpostors
  split
  · rename_i hany
    obtain ⟨c, hc, himpostor⟩ := List.any_eq_true.1 hany
    have hmem : c.toNat ∈ Hostname.impostors := List.contains_iff_mem.1 himpostor
    simp only [reduceCtorEq, false_iff, not_forall]
    exact ⟨c, hc, fun hgenuine => hgenuine hmem⟩
  · rename_i hnone
    simp only [true_iff]
    intro c hc hmem
    exact hnone (List.any_eq_true.2 ⟨c, hc, List.contains_iff_mem.2 hmem⟩)

/-- The checks let the authorities through that are sound. -/
theorem isSound_iff : IsSound authority ↔
    checkAuthority authority = .ok () ∧ checkImpostors authority = .ok () := by
  rw [checkAuthority_eq_ok_iff, checkImpostors_eq_ok_iff, checkBrackets_eq_ok_iff]
  constructor
  · intro h
    refine ⟨⟨h.paired, fun hopening => ?_⟩, h.genuine⟩
    obtain ⟨info, address, hinfo, hplace, haddress⟩ := h.enclosed hopening
    rw [hinfo.hostInfo_eq]
    exact ⟨address, hplace, haddress⟩
  · rintro ⟨⟨hpaired, henclosed⟩, hgenuine⟩
    refine ⟨hpaired, fun hopening => ?_, hgenuine⟩
    obtain ⟨address, hplace, haddress⟩ := henclosed hopening
    exact ⟨hostInfo authority, address, hasInfo_hostInfo authority, hplace, haddress⟩

/-! ## Section 3: The parts of a URL -/

/-- The parts of a URL, whether its authority is refused or not. -/
def partsOf (url : String) : Parts where
  scheme := (schemeOf url).1
  authority := (authorityOf url).1
  path := pathIn (authorityOf url).2
  query := queryIn (authorityOf url).2
  fragment := fragmentIn (authorityOf url).2

theorem partsOf_scheme (url : String) : (partsOf url).scheme = (schemeOf url).1 := by
  rw [partsOf]

theorem partsOf_authority (url : String) : (partsOf url).authority = (authorityOf url).1 := by
  rw [partsOf]

theorem split_clean_eq (url : String) : split (clean url.toList) =
    assemble (schemeOf url).1 (authorityOf url).1 (authorityOf url).2 :=
  split_eq_assemble (clean url.toList)

theorem assemble_of_isSound (h : IsSound authority) (scheme rest : List Char) :
    assemble scheme authority rest =
      .ok ⟨scheme, authority, pathIn rest, queryIn rest, fragmentIn rest⟩ := by
  obtain ⟨hauthority, himpostors⟩ := isSound_iff.1 h
  rw [assemble, hauthority, himpostors]
  rfl

theorem parts_of_isSound (h : IsSound (authorityOf url).1) : parts url = .ok (partsOf url) := by
  rw [parts, split_clean_eq, assemble_of_isSound h]
  rfl

theorem parts_of_not_isSound (h : ¬ IsSound (authorityOf url).1) :
    ∃ cause, parts url = .error (.fault cause) := by
  rw [isSound_iff] at h
  rw [parts, split_clean_eq, assemble]
  cases hauthority : checkAuthority (authorityOf url).1 with
  | error cause => exact ⟨cause, rfl⟩
  | ok =>
    cases himpostors : checkImpostors (authorityOf url).1 with
    | error cause => exact ⟨cause, rfl⟩
    | ok => exact absurd ⟨hauthority, himpostors⟩ h

/-! ## Section 4: Answers -/

/-- There is a resource, a key and a file of the URL. -/
structure Answered (url : String) : Prop where
  resource : ∃ resource, canonicalResource url = .ok resource
  key : ∃ key, keyOf url = .ok key ∧ contentHash url = .ok key.contentHash
  file : ∀ (s : Session) (m : Machine), ∃ file, s.cachedFile m url = .ok file

/-- All that is asked of the URL fails, and for this one reason. -/
structure Denied (url : String) (e : KeyError) : Prop where
  resource : canonicalResource url = .error e
  hash : contentHash url = .error e
  key : keyOf url = .error e
  file : ∀ (s : Session) (m : Machine), s.cachedFile m url = .error e

/-- What the resource and the key fail with, hash and file fail with. -/
theorem denied_of_error {e : KeyError} (hresource : canonicalResource url = .error e)
    (hkey : keyOf url = .error e) : Denied url e := by
  refine ⟨hresource, ?_, hkey, fun s m => ?_⟩
  · rw [contentHash, hresource]
    rfl
  · rw [Session.cachedFile, hkey]
    rfl

theorem denied_of_not_isSound (h : ¬ IsSound (authorityOf url).1) :
    ∃ cause, Denied url (.fault cause) := by
  obtain ⟨cause, hparts⟩ := parts_of_not_isSound h
  refine ⟨cause, denied_of_error ?_ ?_⟩
  · rw [canonicalResource_eq, hparts]
  · rw [keyOf_eq, hparts]

theorem denied_of_incomplete (h : IsSound (authorityOf url).1)
    (hmissing : ¬ (partsOf url).isComplete = true) : Denied url (.incomplete url) := by
  have hparts := parts_of_isSound h
  refine denied_of_error ?_ ?_
  · rw [canonicalResource_eq, hparts]
    exact if_neg hmissing
  · rw [keyOf_eq, hparts]
    exact if_neg hmissing

theorem answered_of_isComplete (h : IsSound (authorityOf url).1)
    (hcomplete : (partsOf url).isComplete = true) : Answered url := by
  have hparts := parts_of_isSound h
  have hresource := canonicalResource_of_parts hparts hcomplete
  have hkey := keyOf_of_parts hparts hcomplete
  refine ⟨⟨_, hresource⟩, ⟨_, hkey, ?_⟩, fun s m => ⟨_, s.cachedFile_of_keyOf m hkey⟩⟩
  rw [contentHash, hresource]
  rfl

theorem answered_or_denied (url : String) :
    Answered url ∨ Denied url (.incomplete url) ∨ ∃ cause, Denied url (.fault cause) := by
  by_cases hsound : IsSound (authorityOf url).1
  · by_cases hcomplete : (partsOf url).isComplete = true
    · exact .inl (answered_of_isComplete hsound hcomplete)
    · exact .inr (.inl (denied_of_incomplete hsound hcomplete))
  · exact .inr (.inr (denied_of_not_isSound hsound))

theorem Answered.not_denied (h : Answered url) (e : KeyError) : ¬ Denied url e := by
  intro hdenied
  obtain ⟨resource, hresource⟩ := h.resource
  rw [hdenied.resource] at hresource
  cases hresource

theorem Denied.unique {e e' : KeyError} (h : Denied url e) (h' : Denied url e') : e = e' :=
  Except.error.inj (h.resource.symm.trans h'.resource)

end DenoBridge.Url
