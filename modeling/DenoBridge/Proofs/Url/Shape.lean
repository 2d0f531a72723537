import DenoBridge.Proofs.Text.Letters
import DenoBridge.Proofs.Url.Rebuilding

/-! # The shape of a resource

    A resource is a path and, behind a question mark, perhaps a query; since
    no other character of the path is a question mark, it can be read in this
    one way only.  Both are visible ASCII without the marks that would end
    them, and the path has no dot segments: neither are there any before it is
    encoded, nor does encoding make one (`canonicalResource_shape`).
-/

namespace DenoBridge.Url

variable {found : Parts} {segments : List (List Char)} {segment : List Char} {c : Char}

/-! ## Section 1: Segments -/

/-- Segments are looked at in the full lower case, where a dot segment has the
    same spellings. -/
theorem IsOrdinary.lower_not_mem (h : IsOrdinary segment) : Text.lower segment ∉ dots := by
  intro hmem
  have hsegment : ∀ c ∈ segment, c.toNat < 0x80 := by
    have hspellings : ∀ spelling ∈ dots, ∀ c ∈ spelling, c.toNat < 0x80 ∧ c ≠ 'k' := by decide
    exact Text.ascii_of_lower fun c hc => hspellings _ hmem c hc
  rw [Text.lower_eq_map hsegment] at hmem
  rcases List.mem_append.1 hmem with hsingle | hdouble
  · have hnone := h.not_single
    rw [isSingleDot, List.contains_iff_mem.2 hsingle] at hnone
    cases hnone
  · have hnone := h.not_double
    rw [isDoubleDot, List.contains_iff_mem.2 hdouble] at hnone
    cases hnone

theorem lower_not_mem_dots (hne : segments ≠ []) (h : ∀ s ∈ segments, IsOrdinary s) :
    ∀ s ∈ Text.pieces '/' ('/' :: Text.joinPieces ['/'] segments), Text.lower s ∉ dots := by
  intro s hs
  rw [pieces_slash, Text.pieces_joinPieces hne fun s hs => (h s hs).slash_not_mem] at hs
  rcases List.mem_cons.1 hs with rfl | hs
  · exact isOrdinary_nil.lower_not_mem
  · exact (h s hs).lower_not_mem

/-! ## Section 2: Paths and queries -/

/-- The path of a resource. -/
structure IsCanonicalPath (path : List Char) : Prop where
  start : path.head? = some '/'
  chars : ∀ c ∈ path, IsVisible c ∧ c ∉ bannedMarks ∧ c ∉ bannedInPath
  segments : ∀ s ∈ Text.pieces '/' path, Text.lower s ∉ dots

/-- The query of a resource. -/
structure IsCanonicalQuery (query : List Char) : Prop where
  ne_nil : query ≠ []
  chars : ∀ c ∈ query, IsVisible c ∧ c ∉ bannedMarks ∧ c ∉ bannedInQuery

theorem isCanonicalPath_encodedPath (found : Parts) : IsCanonicalPath found.encodedPath := by
  have hencoded : found.encodedPath = '/' :: Text.joinPieces ['/']
      ((resolved found.rootedPath).map (percentEncode pathMarks)) :=
    percentEncode_resolved found.rootedPath
  obtain ⟨rest, hrooted, -⟩ := exists_rootedPath found
  refine ⟨by rw [hencoded]; rfl, fun c hc => isVisible_of_path (isPlain_of_mem_encodedPath hc), ?_⟩
  rw [hencoded]
  refine lower_not_mem_dots ?_ fun s => isOrdinary_of_mem_encoded
  rw [hrooted]
  simpa using resolved_ne_nil rest

/-- There are no dot segments before the path is encoded, either. -/
theorem lower_not_mem_of_rootedPath (found : Parts) :
    ∀ s ∈ Text.pieces '/' (resolveDots found.rootedPath), Text.lower s ∉ dots := by
  obtain ⟨rest, hrooted, -⟩ := exists_rootedPath found
  rw [resolveDots_eq, hrooted]
  exact lower_not_mem_dots (resolved_ne_nil rest) fun s => isOrdinary_of_mem_resolved

theorem isCanonicalQuery_encodedQuery {query : List Char}
    (h : found.encodedQuery = some query) : IsCanonicalQuery query := by
  refine ⟨?_, fun c hc => isVisible_of_query (isPlain_of_mem_encodedQuery h hc)⟩
  unfold Parts.encodedQuery at h
  split at h
  · cases h
  · rename_i hsome
    rw [← Option.some.inj h, Ne, percentEncode_eq_nil_iff]
    simpa using hsome

/-! ## Section 3: Resources -/

/-- The resource is a canonical path and, if these parts have a query, a
    canonical query behind a question mark. -/
structure IsShaped (resource : List Char) (found : Parts) : Prop where
  start : resource.head? = some '/'
  chars : ∀ c ∈ resource, IsVisible c ∧ c ∉ bannedMarks
  mark_iff : '?' ∈ resource ↔ found.query ≠ []
  path : IsCanonicalPath found.encodedPath
  query : ∀ query, found.encodedQuery = some query → IsCanonicalQuery query
  /-- Before and after the first question mark stand the path and the query. -/
  cut : Text.cutAt (· == '?') resource = (found.encodedPath, found.encodedQuery)
  /-- There is no other way to read the resource. -/
  unique : ∀ path query, '?' ∉ path → resource = path ++ marked '?' query →
    path = found.encodedPath ∧ query = found.encodedQuery
  resolved : ∀ s ∈ Text.pieces '/' (resolveDots found.rootedPath), Text.lower s ∉ dots

theorem isShaped_resource (found : Parts) : IsShaped found.resource found := by
  have hpath := isCanonicalPath_encodedPath found
  have hcut : Text.cutAt (· == '?') found.resource = (found.encodedPath, found.encodedQuery) := by
    rw [resource_eq_marked, cutAt_marked (mark_not_mem_encodedPath found)]
  refine ⟨?_, fun c hc => isVisible_of_mem_resource hc, ?_, hpath,
    fun query => isCanonicalQuery_encodedQuery, hcut, fun path query hnone heq => ?_,
    lower_not_mem_of_rootedPath found⟩
  · rw [resource_eq_marked, List.head?_append, hpath.start]
    rfl
  · rw [resource_eq_marked, List.mem_append, or_iff_right (mark_not_mem_encodedPath found),
      Parts.encodedQuery]
    cases found.query <;> simp [marked]
  · rw [heq, cutAt_marked hnone] at hcut
    exact Prod.mk.inj hcut

/-- Whatever URL it is made from, a resource has the shape that its parts
    ask for. -/
theorem canonicalResource_shape {url resource : String}
    (h : canonicalResource url = .ok resource) :
    ∃ found, parts url = .ok found ∧ IsShaped resource.toList found := by
  rw [canonicalResource_eq] at h
  split at h
  · cases h
  · rename_i found hfound
    split at h
    · obtain rfl := Except.ok.inj h
      rw [String.toList_ofList]
      exact ⟨found, hfound, isShaped_resource found⟩
    · cases h

/-- Dot segments in both spellings, marks and letters that are encoded, and
    question marks in the query. -/
theorem odd_resource_shape :
    canonicalResource "npm://x/a/%2E%2e/\x7bü\x7d/.?'?\"" = .ok "/%7B%C3%BC%7D/?%27?%22" ∧
      ∃ found, parts "npm://x/a/%2E%2e/\x7bü\x7d/.?'?\"" = .ok found ∧
        IsShaped "/%7B%C3%BC%7D/?%27?%22".toList found := by
  have hresource : canonicalResource "npm://x/a/%2E%2e/\x7bü\x7d/.?'?\"" =
      .ok "/%7B%C3%BC%7D/?%27?%22" := by decide
  exact ⟨hresource, canonicalResource_shape hresource⟩

end DenoBridge.Url
