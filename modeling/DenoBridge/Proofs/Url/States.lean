import DenoBridge.Proofs.Text.Trim
import DenoBridge.Proofs.Url.Assembly
import DenoBridge.Proofs.Url.Segments

/-! # Resources read character by character

    The WHATWG rules read what follows the authority of a URL with a special
    scheme one character at a time, in a state: at the start of the path, in
    the path, in the query, or in the fragment.  A segment is escaped while it
    is read and is looked at when a slash, a backslash or a mark ends it.

    Main statement: the resource of a URL is what this reading gives
    (`canonicalResource_eq_serialise`).
-/

namespace DenoBridge.Url

/-! ## Section 1: States -/

namespace States

/-- The characters that are escaped in a path: controls, everything beyond
    ASCII, and a few marks. -/
def inPathSet (c : Char) : Bool :=
  c.toNat < 0x20 || 0x7f ≤ c.toNat ||
    [' ', '"', '#', '<', '>', '?', '\x60', '\x7b', '\x7d'].contains c

/-- The characters that are escaped in a query. -/
def inQuerySet (c : Char) : Bool :=
  c.toNat < 0x20 || 0x7f ≤ c.toNat || [' ', '"', '#', '<', '>', '\''].contains c

/-- A byte as a percent sign and two digits. -/
def escapeByte (byte : UInt8) : List Char :=
  let digits := "0123456789ABCDEF".toList
  ['%', digits.getD (byte.toNat / 16) '0', digits.getD (byte.toNat % 16) '0']

/-- A character, escaped as the bytes of its UTF-8 encoding if it is in the
    set. -/
def escape (set : Char → Bool) (c : Char) : List Char :=
  if set c then (String.utf8EncodeChar c).flatMap escapeByte else [c]

/-- Does an escaped segment stand for the place itself? -/
def isHere (segment : List Char) : Bool :=
  [".".toList, "%2e".toList].contains (segment.map Char.toLower)

/-- Does an escaped segment stand for the place above? -/
def isAbove (segment : List Char) : Bool :=
  ["..".toList, ".%2e".toList, "%2e.".toList, "%2e%2e".toList].contains (segment.map Char.toLower)

inductive State where
  | pathStart
  | path
  | query
  | fragment
  deriving Repr, DecidableEq

/-- How far reading has come. -/
structure Reading where
  state : State
  segments : List (List Char)
  /-- What was read of the segment or the query that is not at its end. -/
  buffer : List Char
  query : Option (List Char)
  deriving Repr, DecidableEq

/-- Ends a segment.  Only behind a slash there is another one. -/
def Reading.endSegment (r : Reading) (slash : Bool) : Reading :=
  let segments :=
    if isAbove r.buffer then
      if slash then r.segments.dropLast else r.segments.dropLast ++ [[]]
    else if isHere r.buffer then
      if slash then r.segments else r.segments ++ [[]]
    else r.segments ++ [r.buffer]
  { r with segments := segments, buffer := [] }

/-- Ends the query. -/
def Reading.endQuery (r : Reading) : Reading :=
  { r with query := some (r.buffer.flatMap (escape inQuerySet)), buffer := [] }

/-- Does the character end a segment that another one follows? -/
def isSlash (c : Char) : Bool :=
  c == '/' || c == '\\'

/-- Reads a character of the path, or one that ends it. -/
def Reading.inPath (r : Reading) (c : Char) : Reading :=
  if isSlash c then r.endSegment true
  else if c = '?' then { r.endSegment false with state := .query }
  else if c = '#' then { r.endSegment false with state := .fragment }
  else { r with buffer := r.buffer ++ escape inPathSet c }

/-- Reads a character.  A slash at the start of the path is passed over. -/
def Reading.step (r : Reading) (c : Char) : Reading :=
  match r.state with
  | .pathStart =>
    let begun := { r with state := .path }
    if isSlash c then begun else begun.inPath c
  | .path => r.inPath c
  | .query =>
    if c = '#' then { r.endQuery with state := .fragment } else { r with buffer := r.buffer ++ [c] }
  | .fragment => r

/-- Ends what is not at its end where the text ends.  A path has one segment
    at least. -/
def Reading.finish (r : Reading) : Reading :=
  match r.state with
  | .pathStart => { r with state := .path }.endSegment false
  | .path => r.endSegment false
  | .query => r.endQuery
  | .fragment => r

/-- Before anything is read. -/
def Reading.start : Reading :=
  ⟨.pathStart, [], [], none⟩

/-- What follows an authority, read to its end. -/
def readRest (rest : List Char) : Reading :=
  (rest.foldl Reading.step .start).finish

/-- The path with a slash before each segment, and the query behind it unless
    it is empty. -/
def Reading.serialise (r : Reading) : List Char :=
  let query := r.query.getD []
  r.segments.flatMap ('/' :: ·) ++ if query = [] then [] else '?' :: query

end States

open States
open Text (forall_ascii asciiLower_of_le toLower_eq)

variable {rest path : List Char} {c : Char}

/-! ## Section 2: Two ways to escape -/

/-- A set with all that is beyond ASCII holds what is not plain when it does
    so in ASCII. -/
theorem set_eq_of_ascii {set : Char → Bool} {marks : List Char}
    (hmarks : ∀ mark ∈ marks, mark.toNat < 0x80) (hbeyond : ∀ c, 0x80 ≤ c.toNat → set c = true)
    (hascii : ∀ code < 0x80, set (Char.ofNat code) = !isPlain marks (Char.ofNat code))
    (c : Char) : set c = !isPlain marks c := by
  by_cases hc : c.toNat < 0x80
  · exact forall_ascii (P := fun c => set c = !isPlain marks c) hascii hc
  · have hplain : isPlain marks c = false := by
      rw [← Bool.not_eq_true]
      exact fun h => hc (toNat_lt_of_isPlain hmarks h)
    rw [hbeyond c (Nat.le_of_not_lt hc), hplain]
    rfl

theorem inPathSet_eq : ∀ c, inPathSet c = !isPlain pathMarks c := by
  refine set_eq_of_ascii pathMarks_ascii (fun c hc => ?_) (by decide +kernel)
  have hhigh : 0x7f ≤ c.toNat := by omega
  simp [inPathSet, hhigh]

theorem inQuerySet_eq : ∀ c, inQuerySet c = !isPlain queryMarks c := by
  refine set_eq_of_ascii queryMarks_ascii (fun c hc => ?_) (by decide +kernel)
  have hhigh : 0x7f ≤ c.toNat := by omega
  simp [inQuerySet, hhigh]

theorem upperHexDigit_eq : ∀ n < 16,
    upperHexDigit n = "0123456789ABCDEF".toList.getD n '0' := by
  decide

theorem escapeByte_eq (byte : UInt8) : escapeByte byte = percentByte byte := by
  have hsize := UInt8.toNat_lt byte
  unfold escapeByte percentByte
  rw [upperHexDigit_eq _ (by omega), upperHexDigit_eq _ (by omega)]

theorem escape_eq {set : Char → Bool} {marks : List Char} (h : set c = !isPlain marks c) :
    escape set c = percentChar marks c := by
  have hbytes : escapeByte = percentByte := funext escapeByte_eq
  unfold escape percentChar
  rw [h, hbytes]
  cases isPlain marks c <;> rfl

theorem flatMap_escape_query (text : List Char) :
    text.flatMap (escape inQuerySet) = percentEncode queryMarks text := by
  have hescape : escape inQuerySet = percentChar queryMarks :=
    funext fun c => escape_eq (inQuerySet_eq c)
  rw [hescape, percentEncode]

/-! ## Section 3: Two ways to tell dot segments -/

theorem isHere_eq (segment : List Char) :
    isHere (percentEncode pathMarks segment) = isSingleDot segment := by
  rw [← isSingleDot_percentEncode, isHere, isSingleDot, List.map_congr_left fun c _ => toLower_eq c]
  rfl

theorem isAbove_eq (segment : List Char) :
    isAbove (percentEncode pathMarks segment) = isDoubleDot segment := by
  rw [← isDoubleDot_percentEncode, isAbove, isDoubleDot,
    List.map_congr_left fun c _ => toLower_eq c]
  rfl

/-! ## Section 4: Reading a path -/

/-- Reading stands in a path: these segments were kept, the last one first,
    and this text was read of the next one. -/
def inside (kept : List (List Char)) (segment : List Char) : Reading :=
  ⟨.path, (kept.map (percentEncode pathMarks)).reverse, percentEncode pathMarks segment, none⟩

theorem endSegment_inside (kept : List (List Char)) (segment : List Char) :
    (inside kept segment).endSegment true = inside (keepInner kept segment) [] ∧
      (inside kept segment).endSegment false = inside (keepLast kept segment) [] := by
  have hnil : percentEncode pathMarks [] = [] := rfl
  simp only [inside, Reading.endSegment, isAbove_eq, isHere_eq, keepInner, keepLast, if_true,
    Bool.false_eq_true, if_false]
  constructor <;> split_ifs <;> simp [hnil]

theorem step_slash (hc : isSlash c = true) (kept : List (List Char)) (segment : List Char) :
    (inside kept segment).step c = inside (keepInner kept segment) [] := by
  show (inside kept segment).inPath c = _
  rw [Reading.inPath, if_pos hc, (endSegment_inside kept segment).1]

theorem step_other (hslash : isSlash c = false) (hquery : c ≠ '?') (hfragment : c ≠ '#')
    (kept : List (List Char)) (segment : List Char) :
    (inside kept segment).step c = inside kept (segment ++ [c]) := by
  show (inside kept segment).inPath c = _
  rw [Reading.inPath, if_neg (by simp [hslash]), if_neg hquery, if_neg hfragment,
    escape_eq (inPathSet_eq c)]
  simp [inside, percentEncode]

/-- Reading a path keeps the segments that resolving its dots keeps.  What is
    left at its end is one segment that is not ended yet. -/
theorem foldl_inside {segment : List Char} (hquery : '?' ∉ path) (hfragment : '#' ∉ path)
    (hslash : '/' ∉ segment) (kept : List (List Char)) : ∃ kept' last,
      path.foldl Reading.step (inside kept segment) = inside kept' last ∧
        (keepLast kept' last).reverse = resolveAfter kept
          (Text.pieces '/' (segment ++ Text.replaceChar '\\' '/' path)) := by
  -- What was read so far is in `kept` and `segment`; what is left is split at once.
  induction path generalizing kept segment with
  | nil =>
    refine ⟨kept, segment, rfl, ?_⟩
    rw [Text.replaceChar, List.map_nil, List.append_nil, Text.pieces_of_not_mem hslash]
    rfl
  | cons c more ih =>
    rw [List.mem_cons, not_or] at hquery hfragment
    rw [List.foldl_cons]
    by_cases hc : isSlash c = true
    · have hread : Text.replaceChar '\\' '/' (c :: more) =
          '/' :: Text.replaceChar '\\' '/' more := by
        rcases Bool.or_eq_true_iff.1 hc with h | h
        · simp [Text.replaceChar, (beq_iff_eq.1 h)]
        · simp [Text.replaceChar, (beq_iff_eq.1 h)]
      have hnil : '/' ∉ ([] : List Char) := List.not_mem_nil
      obtain ⟨kept', last, hfold, hkept⟩ :=
        ih hquery.2 hfragment.2 hnil (keepInner kept segment)
      refine ⟨kept', last, by rw [step_slash hc, hfold], ?_⟩
      rw [hkept, hread, Text.pieces_append_sep hslash, List.nil_append]
      -- The segment that was ended is followed by others.
      obtain ⟨next, others, hpieces⟩ := List.exists_cons_of_ne_nil
        (Text.pieces_ne_nil '/' (Text.replaceChar '\\' '/' more))
      rw [hpieces, resolveAfter]
    · rw [Bool.not_eq_true] at hc
      obtain ⟨hslashc, hback⟩ := Bool.or_eq_false_iff.1 hc
      rw [beq_eq_false_iff_ne] at hslashc hback
      have hlonger : '/' ∉ segment ++ [c] := by simp [hslash, Ne.symm hslashc]
      obtain ⟨kept', last, hfold, hkept⟩ := ih hquery.2 hfragment.2 hlonger kept
      refine ⟨kept', last, ?_, ?_⟩
      · rw [step_other hc (Ne.symm hquery.1) (Ne.symm hfragment.1), hfold]
      · rw [hkept]
        simp [Text.replaceChar, hback]

/-! ## Section 5: Reading a query and a fragment -/

theorem foldl_fragment (text : List Char) {r : Reading} (h : r.state = .fragment) :
    text.foldl Reading.step r = r := by
  induction text with
  | nil => rfl
  | cons c more ih =>
    rw [List.foldl_cons, show r.step c = r by rw [Reading.step, h], ih]

theorem foldl_query {text : List Char} (hfragment : '#' ∉ text) {r : Reading}
    (h : r.state = .query) :
    text.foldl Reading.step r = { r with buffer := r.buffer ++ text } := by
  induction text generalizing r with
  | nil => simp
  | cons c more ih =>
    rw [List.mem_cons, not_or] at hfragment
    have hstep : r.step c = { r with buffer := r.buffer ++ [c] } := by
      rw [Reading.step, h]
      exact if_neg (Ne.symm hfragment.1)
    rw [List.foldl_cons, hstep, ih (r := { r with buffer := r.buffer ++ [c] }) hfragment.2 h]
    simp

/-- Whatever follows a path, its last segment is ended there, and a query is
    read up to the fragment. -/
theorem finish_marked {query : Option (List Char)} (hquery : '#' ∉ query.getD [])
    (fragment : Option (List Char)) (kept : List (List Char)) (last : List Char) :
    let r := ((marked '?' query ++ marked '#' fragment).foldl Reading.step
      (inside kept last)).finish
    r.segments = ((keepLast kept last).map (percentEncode pathMarks)).reverse ∧
      r.query.getD [] = percentEncode queryMarks (query.getD []) := by
  have hend := (endSegment_inside kept last).2
  have hquestion : (inside kept last).step '?' =
      { inside (keepLast kept last) [] with state := .query } := by
    rw [← hend]
    rfl
  have hhash : (inside kept last).step '#' =
      { inside (keepLast kept last) [] with state := .fragment } := by
    rw [← hend]
    rfl
  dsimp only
  rw [List.foldl_append]
  cases query with
  | none =>
    cases fragment with
    | none =>
      show ((inside kept last).endSegment false).segments = _ ∧ _
      rw [hend]
      exact ⟨rfl, rfl⟩
    | some fragment =>
      simp only [marked, Option.map_none, Option.map_some, Option.getD_none, Option.getD_some,
        List.foldl_nil, List.foldl_cons]
      rw [hhash, foldl_fragment fragment rfl]
      exact ⟨rfl, rfl⟩
  | some query =>
    simp only [marked, Option.map_some, Option.getD_some, List.foldl_cons] at hquery ⊢
    rw [hquestion, foldl_query hquery rfl]
    cases fragment with
    | none => exact ⟨rfl, flatMap_escape_query query⟩
    | some fragment =>
      simp only [Option.map_some, Option.getD_some, List.foldl_cons]
      rw [foldl_fragment fragment rfl]
      exact ⟨rfl, flatMap_escape_query query⟩

/-! ## Section 6: The resource -/

/-- The schemes whose URLs are read by these rules. -/
def netSchemes : List (List Char) :=
  ["http".toList, "https".toList, "ws".toList, "wss".toList, "ftp".toList]

/-- A URL with a scheme in letters of any case, an authority that is accepted
    and holds a host and a port that can be one, if any, and something behind
    it.  Nothing in the URL is cleaned away. -/
structure IsAddress (scheme authority rest : List Char) : Prop where
  scheme_mem : scheme.map Text.asciiLower ∈ netSchemes
  authority_marks : ∀ c ∈ authority, endsAuthority c = false
  brackets : checkAuthority authority = .ok ()
  impostors : checkImpostors authority = .ok ()
  complete : Parts.isComplete ⟨scheme, authority, [], [], []⟩ = true
  rest_mark : ∀ c, rest.head? = some c → endsAuthority c = true
  breaks : ∀ c ∈ join scheme authority rest, isBreak c = false
  ends : ∀ c, (join scheme authority rest).head? = some c ∨
    (join scheme authority rest).getLast? = some c → Text.isBlank c = false

theorem isScheme_of_netSchemes {scheme : List Char}
    (h : scheme.map Text.asciiLower ∈ netSchemes) : isScheme scheme = true := by
  have hletter : ∀ c ∈ scheme, c.isAlpha = true := by
    intro c hc
    have hlower : Text.asciiLower c ∈ "htpswf".toList := by
      have hall : ∀ name ∈ netSchemes, ∀ d ∈ name, d ∈ "htpswf".toList := by decide
      exact hall _ h _ (List.mem_map_of_mem hc)
    by_cases hascii : c.toNat < 0x80
    · refine forall_ascii (P := fun c => Text.asciiLower c ∈ "htpswf".toList → c.isAlpha = true)
        ?_ hascii hlower
      decide
    · rw [asciiLower_of_le (by omega)] at hlower
      have hletters : ∀ d ∈ "htpswf".toList, d.toNat < 0x80 := by decide
      exact absurd (hletters c hlower) hascii
  have hne : scheme ≠ [] := by
    rintro rfl
    exact absurd h (by decide)
  obtain ⟨first, more, rfl⟩ := List.exists_cons_of_ne_nil hne
  refine Bool.and_eq_true_iff.2 ⟨by simpa using hletter first List.mem_cons_self, ?_⟩
  refine List.all_eq_true.2 fun c hc => ?_
  simp [isSchemeChar, Char.isAlphanum, hletter c hc]

theorem isSlash_of_endsAuthority (h : endsAuthority c = true) (hquery : c ≠ '?')
    (hfragment : c ≠ '#') : c = '/' := by
  simpa [endsAuthority, hquery, hfragment] using h

/-- Reading stands in the path after the slash at its start, or where there is
    none. -/
theorem readRest_eq {query fragment : Option (List Char)}
    (hrest : rest = path ++ marked '?' query ++ marked '#' fragment)
    (hmark : ∀ c, rest.head? = some c → endsAuthority c = true) (hquery : '?' ∉ path)
    (hfragment : '#' ∉ path) : ∃ more, '?' ∉ more ∧ '#' ∉ more ∧
      (path = [] ∧ more = [] ∨ path = '/' :: more) ∧
      readRest rest = ((more ++ (marked '?' query ++ marked '#' fragment)).foldl Reading.step
        (inside [] [])).finish := by
  cases path with
  | nil =>
    refine ⟨[], by simp, by simp, .inl ⟨rfl, rfl⟩, ?_⟩
    rw [hrest, List.nil_append, List.nil_append, readRest]
    cases query with
    | none =>
      cases fragment with
      | none => rfl
      | some fragment => rfl
    | some query => rfl
  | cons c more =>
    rw [List.mem_cons, not_or] at hquery hfragment
    have hslash := isSlash_of_endsAuthority (hmark c (by rw [hrest]; rfl)) (Ne.symm hquery.1)
      (Ne.symm hfragment.1)
    subst hslash
    refine ⟨more, hquery.2, hfragment.2, .inr rfl, ?_⟩
    rw [hrest, readRest, List.cons_append, List.cons_append, List.foldl_cons, List.append_assoc]
    rfl

/-- The resource of a URL with a special scheme is what reading gives. -/
theorem resource_eq_serialise {parts : Parts} (hscheme : parts.scheme ∈ specialSchemes)
    (hpath : parts.path = pathIn rest) (hquery : parts.query = queryIn rest)
    (hmark : ∀ c, rest.head? = some c → endsAuthority c = true) :
    parts.resource = (readRest rest).serialise := by
  -- Reading passes the path, then what follows it, as the parts were cut.
  obtain ⟨path, query, fragment, hrest, hq, hf, hqf, hpathIn, hqueryIn⟩ := exists_marked rest
  obtain ⟨more, hmoreq, hmoref, hmore, hread⟩ := readRest_eq hrest hmark hq hf
  obtain ⟨kept, last, hfold, hkept⟩ := foldl_inside hmoreq hmoref List.not_mem_nil []
  rw [List.foldl_append, hfold] at hread
  obtain ⟨hsegments, hend⟩ := finish_marked hqf fragment kept last
  rw [← hread] at hsegments hend
  have hrooted : parts.rootedPath = '/' :: Text.replaceChar '\\' '/' more := by
    unfold Parts.rootedPath
    dsimp only
    rw [if_pos (List.contains_iff_mem.2 hscheme), hpath, hpathIn]
    rcases hmore with ⟨rfl, rfl⟩ | rfl
    · rfl
    · rfl
  -- The segments are those of the rooted path, each of them escaped.
  have hwritten : (readRest rest).segments.flatMap ('/' :: ·) =
      percentEncode pathMarks (resolveDots parts.rootedPath) := by
    rw [hsegments, ← List.map_reverse, hkept, List.nil_append, hrooted,
      percentEncode_resolveDots,
      map_resolveAfter rfl isSingleDot_percentEncode isDoubleDot_percentEncode]
    refine Text.flatMap_sep (resolveAfter_ne_nil ?_)
    simpa using Text.pieces_ne_nil '/' _
  unfold Parts.resource Reading.serialise
  dsimp only
  rw [hwritten, hend, ← hqueryIn, ← hquery]
  by_cases hnone : parts.query = []
  · simp [hnone, percentEncode]
  · rw [if_neg (by simpa using hnone), if_neg (by simpa [percentEncode_eq_nil_iff] using hnone)]

/-- The resource of a URL is what the character-driven rules make of what
    follows its authority. -/
theorem canonicalResource_eq_serialise {scheme authority rest : List Char}
    (h : IsAddress scheme authority rest) :
    canonicalResource (String.ofList (join scheme authority rest)) =
      .ok (String.ofList (readRest rest).serialise) := by
  have hassemble : assemble (scheme.map Text.asciiLower) authority rest =
      .ok ⟨scheme.map Text.asciiLower, authority, pathIn rest, queryIn rest, fragmentIn rest⟩ := by
    unfold assemble
    rw [h.brackets, h.impostors]
    rfl
  have hparts := parts_join (isScheme_of_netSchemes h.scheme_mem) h.authority_marks h.rest_mark
    h.breaks (Text.trim_eq_self h.ends) hassemble
  have hspecial : scheme.map Text.asciiLower ∈ specialSchemes := by
    have hall : ∀ name ∈ netSchemes, name ∈ specialSchemes := by decide
    exact hall _ h.scheme_mem
  have hresource : Parts.resource ⟨scheme.map Text.asciiLower, authority, pathIn rest,
      queryIn rest, fragmentIn rest⟩ = (readRest rest).serialise :=
    resource_eq_serialise hspecial rfl rfl h.rest_mark
  have hcomplete := h.complete
  simp only [Parts.isComplete, Parts.host, Parts.portOk] at hcomplete
  rw [canonicalResource_of_parts hparts, hresource]
  simpa [Parts.isComplete, Parts.host, Parts.portOk] using hcomplete

/-- Dots of both kinds, backslashes, a character of two bytes, a query and a
    fragment. -/
theorem dotted_address_serialised :
    IsAddress "HttpS".toList "me@deno.land:443".toList
        "/a/./b\\..\\%2E%2e/\u00e9 c/.?x='y?'#/z".toList ∧
      canonicalResource (String.ofList (join "HttpS".toList "me@deno.land:443".toList
        "/a/./b\\..\\%2E%2e/\u00e9 c/.?x='y?'#/z".toList)) = .ok "/%C3%A9%20c/?x=%27y?%27" := by
  have haddress : IsAddress "HttpS".toList "me@deno.land:443".toList
      "/a/./b\\..\\%2E%2e/\u00e9 c/.?x='y?'#/z".toList := by
    refine ⟨by decide, by decide, by decide, by decide, by decide, ?_, by decide, ?_⟩
    · intro c hc
      obtain rfl : '/' = c := Option.some.inj hc
      rfl
    · rintro c (hfirst | hlast)
      · obtain rfl : 'H' = c := Option.some.inj hfirst
        decide
      · obtain rfl : 'z' = c := Option.some.inj hlast
        decide
  exact ⟨haddress, canonicalResource_eq_serialise haddress⟩

end DenoBridge.Url
