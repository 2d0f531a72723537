import DenoBridge.Proofs.Url.Parts

/-! # Keys of modules

    A URL has a key exactly when its parts are complete, and the key is read
    off these parts (`keyOf_eq`).  Scheme and digest of a key are ordinary
    names; its host is a text without slashes, which as a path can be nothing
    (`.`), a climb (`..`) or a name (`path_eq`).
-/

namespace DenoBridge.Url

/-! ## Section 1: The key of complete parts -/

/-- Are all parts there that a key needs? -/
def Parts.isComplete (parts : Parts) : Bool :=
  !parts.scheme.isEmpty && !parts.host.isEmpty && parts.portOk

theorem isComplete_iff {parts : Parts} : parts.isComplete = true ↔
    parts.scheme ≠ [] ∧ parts.host ≠ [] ∧ parts.portOk = true := by
  simp [Parts.isComplete, and_assoc]

/-- The key that complete parts give. -/
def Parts.key (parts : Parts) : Key where
  scheme := String.ofList parts.scheme
  host := String.ofList parts.hostName
  contentHash :=
    String.ofList (Sha256.hex (Utf8.encodeString (String.ofList parts.resource)))

theorem split_clean {url : String} {found : Parts} (h : parts url = .ok found) :
    split (clean url.toList) = .ok found := by
  unfold parts at h
  split at h
  · rename_i hsplit
    rw [hsplit, Except.ok.inj h]
  · cases h

/-- The scheme that is read once more is the one that was checked. -/
theorem split_trim {url : String} {found : Parts} (h : parts url = .ok found) :
    split (Text.trim url.toList) = .ok found := by
  have hsplit := split_clean h
  rwa [clean, split_dropBreaks] at hsplit

theorem canonicalResource_eq (url : String) : canonicalResource url =
    match parts url with
    | .error e => .error e
    | .ok found =>
      if found.isComplete then .ok (String.ofList found.resource)
      else .error (.incomplete url) := by
  unfold canonicalResource
  cases hparts : parts url with
  | error e => rfl
  | ok found =>
    have hcomplete : (found.scheme.isEmpty || found.host.isEmpty || !found.portOk) =
        !found.isComplete := by
      simp [Parts.isComplete, Bool.not_and]
    dsimp only
    rw [hcomplete]
    cases found.isComplete <;> rfl

theorem keyOf_eq (url : String) : keyOf url =
    match parts url with
    | .error e => .error e
    | .ok found => if found.isComplete then .ok found.key else .error (.incomplete url) := by
  unfold keyOf contentHash
  rw [canonicalResource_eq]
  cases hparts : parts url with
  | error e => rfl
  | ok found =>
    dsimp only
    cases found.isComplete with
    | false => rfl
    | true =>
      rw [split_trim hparts]
      rfl

theorem canonicalResource_of_parts {url : String} {found : Parts} (h : parts url = .ok found)
    (hcomplete : found.isComplete = true) :
    canonicalResource url = .ok (String.ofList found.resource) := by
  rw [canonicalResource_eq, h]
  simp [hcomplete]

theorem keyOf_of_parts {url : String} {found : Parts} (h : parts url = .ok found)
    (hcomplete : found.isComplete = true) : keyOf url = .ok found.key := by
  rw [keyOf_eq, h]
  simp [hcomplete]

/-- A URL with a key was cut into complete parts. -/
theorem exists_parts_of_keyOf {url : String} {key : Key} (h : keyOf url = .ok key) :
    ∃ found, parts url = .ok found ∧ found.isComplete = true ∧ key = found.key := by
  rw [keyOf_eq] at h
  split at h
  · cases h
  · rename_i found hfound
    split at h
    · rename_i hcomplete
      exact ⟨found, hfound, hcomplete, (Except.ok.inj h).symm⟩
    · cases h

/-! ## Section 2: The texts of a key -/

theorem hexWord_ne_slash (word : UInt32) : '/' ∉ Sha256.hexWord word := by
  have hdigits : ∀ n < 16, Nat.digitChar n ≠ '/' := by decide
  intro hmem
  obtain ⟨shift, -, hdigit⟩ := List.mem_map.1 hmem
  exact hdigits _ (Nat.mod_lt _ (by decide)) hdigit

theorem isName_hex (message : Bytes) :
    Path.IsName (String.ofList (Sha256.hex message)) ∧
      String.ofList (Sha256.hex message) ≠ ".." := by
  have hlength := Sha256.length_hex message
  -- Sixty-four digits are neither nothing nor one or two dots.
  have hne (text : String) (hshort : text.toList.length < 64) :
      String.ofList (Sha256.hex message) ≠ text := by
    intro heq
    rw [← heq, String.toList_ofList] at hshort
    omega
  refine ⟨⟨hne "" (by decide), hne "." (by decide), ?_⟩, hne ".." (by decide)⟩
  rw [String.toList_ofList]
  intro hmem
  obtain ⟨word, -, hword⟩ := List.mem_flatMap.1 hmem
  exact hexWord_ne_slash word hword

/-- What the texts of a key are good for in a path. -/
structure Key.IsPlaceable (key : Key) : Prop where
  scheme : Path.IsName key.scheme
  scheme_ne_dotDot : key.scheme ≠ ".."
  host_ne_empty : key.host ≠ ""
  slash_not_mem_host : '/' ∉ key.host.toList
  contentHash : Path.IsName key.contentHash
  contentHash_ne_dotDot : key.contentHash ≠ ".."

theorem isPlaceable_of_keyOf {url : String} {key : Key} (h : keyOf url = .ok key) :
    key.IsPlaceable := by
  obtain ⟨parts, hparts, hcomplete, rfl⟩ := exists_parts_of_keyOf h
  obtain ⟨hscheme, hhost, -⟩ := isComplete_iff.1 hcomplete
  have hsplit := split_trim hparts
  obtain ⟨hname, hdots⟩ := isName_scheme hsplit hscheme
  obtain ⟨hhash, hhashDots⟩ := isName_hex (Utf8.encodeString (String.ofList parts.resource))
  refine ⟨hname, hdots, ?_, ?_, hhash, hhashDots⟩
  · rw [Ne, String.ext_iff, Parts.key, String.toList_ofList]
    exact hostName_ne_nil hhost
  · rw [Parts.key, String.toList_ofList]
    exact slash_not_mem_hostName hsplit

/-! ## Section 3: The key as a path -/

/-- The names that a key adds to a path, as far as a path keeps them. -/
def Key.names (key : Key) : List String :=
  if key.host = "." then [key.scheme, key.contentHash]
  else [key.scheme, key.host, key.contentHash]

theorem Key.IsPlaceable.isName {key : Key} (h : key.IsPlaceable) :
    ∀ name ∈ key.names, Path.IsName name := by
  unfold Key.names
  split
  · simpa using ⟨h.scheme, h.contentHash⟩
  · rename_i hdot
    simpa using ⟨h.scheme, ⟨h.host_ne_empty, hdot, h.slash_not_mem_host⟩, h.contentHash⟩

theorem Key.IsPlaceable.path_eq {key : Key} (h : key.IsPlaceable) :
    key.path = ⟨.relative, key.names⟩ := by
  unfold Key.path Key.names
  rw [Path.ofString_of_isName h.scheme, Path.child_of_isName _ h.contentHash]
  split
  · rename_i hdot
    rw [hdot, Path.child, Path.ofString_dot]
    rfl
  · rename_i hdot
    rw [Path.child_of_isName _ ⟨h.host_ne_empty, hdot, h.slash_not_mem_host⟩]
    rfl

end DenoBridge.Url
