import DenoBridge.Proofs.Url.Key
import DenoBridge.Proofs.Url.Encoding
import DenoBridge.Proofs.Results

/-! # URLs put together

    A URL that is put together from a scheme, an authority and what follows
    it is cut into these again (`split_join`), as long as none of them holds a
    mark that ends it.  What follows the authority is a path, perhaps a query
    and perhaps a fragment (`exists_marked`).
-/

namespace DenoBridge.Url

open Text (forall_ascii toNat_lt_of_isAlphanum)

variable {scheme authority rest text : List Char}

/-! ## Section 1: What follows an authority -/

/-- The path at the start of what follows an authority. -/
def pathIn (rest : List Char) : List Char :=
  (Text.cutAt (· == '?') (Text.cutAt (· == '#') rest).1).1

/-- The query in what follows an authority, empty without one. -/
def queryIn (rest : List Char) : List Char :=
  ((Text.cutAt (· == '?') (Text.cutAt (· == '#') rest).1).2).getD []

/-- The fragment in what follows an authority, empty without one. -/
def fragmentIn (rest : List Char) : List Char :=
  ((Text.cutAt (· == '#') rest).2).getD []

/-- A part behind its mark; nothing without the part. -/
def marked (mark : Char) (part : Option (List Char)) : List Char :=
  (part.map (mark :: ·)).getD []

/-- What follows an authority is made of three parts with their marks. -/
theorem exists_marked (rest : List Char) : ∃ path query fragment,
    rest = path ++ marked '?' query ++ marked '#' fragment ∧
      '?' ∉ path ∧ '#' ∉ path ∧ '#' ∉ query.getD [] ∧
      pathIn rest = path ∧ queryIn rest = query.getD [] := by
  cases hfragment : Text.cutAt (· == '#') rest with
  | mk front fragment =>
    cases hquery : Text.cutAt (· == '?') front with
    | mk path query =>
      obtain ⟨hfront, hrest⟩ := Text.of_cutAt hfragment
      obtain ⟨hpath, hboth⟩ := Text.of_cutAt hquery
      rw [hboth, List.mem_append, not_or] at hfront
      refine ⟨path, query, fragment, ?_, hpath, hfront.1, ?_, ?_, ?_⟩
      · rw [hrest, hboth]
        rfl
      · cases query with
        | none => simp
        | some query => simpa using hfront.2
      · simp [pathIn, hfragment, hquery]
      · simp [queryIn, hfragment, hquery]

theorem cutAt_marked {mark : Char} {front : List Char} (h : mark ∉ front)
    (part : Option (List Char)) :
    Text.cutAt (· == mark) (front ++ marked mark part) = (front, part) := by
  cases part with
  | none => simpa [marked] using Text.cutAt_of_not_mem h
  | some part => exact Text.cutAt_append h part

/-- Without a fragment, the path and the query are read back. -/
theorem pathIn_marked {path : List Char} {query : Option (List Char)} (hpath : '?' ∉ path)
    (hfragment : '#' ∉ path ++ marked '?' query) :
    pathIn (path ++ marked '?' query) = path ∧
      queryIn (path ++ marked '?' query) = query.getD [] := by
  have hcut := cutAt_marked hfragment none
  simp only [marked, Option.map_none, Option.getD_none, List.append_nil] at hcut
  constructor
  · rw [pathIn, marked, hcut]
    exact congrArg Prod.fst (cutAt_marked hpath query)
  · rw [queryIn, marked, hcut]
    exact congrArg (fun cut => cut.2.getD []) (cutAt_marked hpath query)

/-! ## Section 2: Cutting -/

/-- The parts of a URL whose scheme and authority were cut off already. -/
def assemble (scheme authority rest : List Char) : Except Fault Parts := do
  checkAuthority authority
  checkImpostors authority
  return ⟨scheme, authority, pathIn rest, queryIn rest, fragmentIn rest⟩

theorem split_eq_assemble (url : List Char) :
    split url = assemble (splitScheme (strip url)).1
      (splitAuthority (splitScheme (strip url)).2).1
      (splitAuthority (splitScheme (strip url)).2).2 := by
  unfold split
  rfl

theorem authority_of_assemble {found : Parts} (h : assemble scheme authority rest = .ok found) :
    found.authority = authority := by
  obtain ⟨-, -, h⟩ := exists_of_bind_ok h
  obtain ⟨-, -, h⟩ := exists_of_bind_ok h
  rw [← Except.ok.inj h]

theorem isSchemeChar_of_mem {c : Char} (hscheme : isScheme scheme = true) (hc : c ∈ scheme) :
    isSchemeChar c = true :=
  List.all_eq_true.1 (Bool.and_eq_true_iff.1 hscheme).2 c hc

theorem splitScheme_append (hscheme : isScheme scheme = true) (rest : List Char) :
    splitScheme (scheme ++ ':' :: rest) = (scheme.map Text.asciiLower, rest) := by
  have hcolon : ':' ∉ scheme := fun hmem =>
    absurd (isSchemeChar_of_mem hscheme hmem) (by decide)
  unfold splitScheme
  rw [Text.cutAt_append hcolon]
  dsimp only
  rw [if_pos hscheme]

/-- A scheme that was cut off stood before the first colon. -/
theorem exists_scheme (h : (splitScheme text).1 ≠ []) :
    ∃ scheme rest, isScheme scheme = true ∧ text = scheme ++ ':' :: rest := by
  unfold splitScheme at h
  split at h
  · rename_i front rest hcut
    split at h
    · rename_i hscheme
      exact ⟨front, rest, hscheme, (Text.of_cutAt hcut).2⟩
    · exact absurd rfl h
  · exact absurd rfl h

theorem splitAuthority_append (hauthority : ∀ c ∈ authority, endsAuthority c = false)
    (hrest : ∀ c, rest.head? = some c → endsAuthority c = true) :
    splitAuthority ('/' :: '/' :: (authority ++ rest)) = (authority, rest) := by
  have hkept : ∀ c ∈ authority, (!endsAuthority c) = true := fun c hc => by simp [hauthority c hc]
  have hend : ∀ c, rest.head? = some c → (!endsAuthority c) = false :=
    fun c hc => by simp [hrest c hc]
  obtain ⟨htake, hdrop⟩ := Text.takeWhile_append_of_head hkept hend
  exact Prod.ext htake hdrop

/-! ## Section 3: Putting together -/

/-- A URL of a scheme, an authority and what follows it. -/
def join (scheme authority rest : List Char) : List Char :=
  scheme ++ ':' :: '/' :: '/' :: (authority ++ rest)

/-- A scheme does not begin with anything that is stripped. -/
theorem not_le_space_of_isAlpha {c : Char} (h : c.isAlpha = true) : ¬ c ≤ ' ' := by
  have hascii : c.toNat < 0x80 := toNat_lt_of_isAlphanum (by simp [Char.isAlphanum, h])
  refine forall_ascii (P := fun c => c.isAlpha = true → ¬ c ≤ ' ') ?_ hascii h
  decide

theorem strip_join (hscheme : isScheme scheme = true)
    (hbreaks : ∀ c ∈ join scheme authority rest, isBreak c = false) :
    strip (join scheme authority rest) = join scheme authority rest := by
  obtain ⟨hfirst, -⟩ := Bool.and_eq_true_iff.1 hscheme
  cases scheme with
  | nil => simp at hfirst
  | cons c more =>
    have hvisible := not_le_space_of_isAlpha (by simpa using hfirst)
    unfold strip
    rw [join, List.cons_append, List.dropWhile_cons_of_neg (by simpa using hvisible)]
    exact dropBreaks_of_not_break hbreaks

/-- A URL that was put together is cut into what it was made of. -/
theorem split_join (hscheme : isScheme scheme = true)
    (hauthority : ∀ c ∈ authority, endsAuthority c = false)
    (hrest : ∀ c, rest.head? = some c → endsAuthority c = true)
    (hbreaks : ∀ c ∈ join scheme authority rest, isBreak c = false) :
    split (join scheme authority rest) =
      assemble (scheme.map Text.asciiLower) authority rest := by
  rw [split_eq_assemble, strip_join hscheme hbreaks, join, splitScheme_append hscheme,
    splitAuthority_append hauthority hrest]

theorem clean_eq_self (htrim : Text.trim text = text) (hbreaks : ∀ c ∈ text, isBreak c = false) :
    clean text = text := by
  unfold clean
  rw [htrim, dropBreaks_of_not_break hbreaks]

/-- The parts of a URL that was put together and needs no cleaning. -/
theorem parts_join (hscheme : isScheme scheme = true)
    (hauthority : ∀ c ∈ authority, endsAuthority c = false)
    (hrest : ∀ c, rest.head? = some c → endsAuthority c = true)
    (hbreaks : ∀ c ∈ join scheme authority rest, isBreak c = false)
    (htrim : Text.trim (join scheme authority rest) = join scheme authority rest)
    {found : Parts} (hfound : assemble (scheme.map Text.asciiLower) authority rest = .ok found) :
    parts (String.ofList (join scheme authority rest)) = .ok found := by
  unfold parts
  rw [String.toList_ofList, clean_eq_self htrim hbreaks,
    split_join hscheme hauthority hrest hbreaks, hfound]

end DenoBridge.Url
