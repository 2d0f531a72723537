import DenoBridge.Proofs.Results
import DenoBridge.Text.Utf8

/-! # Bytes of ASCII

    Every byte below 128 is a character by itself (`piecesFrom_ascii`), so
    bytes of ASCII are decoded byte by byte, whatever is to become of
    ill-formed stretches.  Nothing but no bytes at all is decoded to an empty
    text (`decode_eq_nil_iff`).
-/

namespace DenoBridge.Utf8

/-- Every byte is the code of an ASCII character. -/
def IsAscii (bytes : Bytes) : Prop :=
  ∀ byte ∈ bytes, byte < 0x80

/-- The characters that the bytes are the codes of. -/
def charsOf (bytes : Bytes) : List Char :=
  bytes.map fun byte => Char.ofNat byte.toNat

theorem isAscii_nil : IsAscii [] := by
  intro byte hbyte
  cases hbyte

theorem firstPiece_ascii {start : UInt8} (h : start < 0x80) (rest : Bytes) :
    firstPiece start rest = .char (Char.ofNat start.toNat) ∧ announced start = 1 := by
  have hone : announced start = 1 := by
    unfold announced
    rw [if_pos h]
  refine ⟨?_, hone⟩
  unfold firstPiece
  rw [hone]
  rfl

theorem piecesFrom_ascii {bytes : Bytes} (h : IsAscii bytes) (position : Nat) :
    (piecesFrom position bytes).map (·.2) = (charsOf bytes).map Piece.char := by
  induction bytes generalizing position with
  | nil =>
    rw [piecesFrom]
    rfl
  | cons start rest ih =>
    obtain ⟨hpiece, hone⟩ := firstPiece_ascii (h start (by simp)) rest
    have hrest : IsAscii rest := by
      intro byte hbyte
      exact h byte (by simp [hbyte])
    -- The piece is as long as its first byte announces: one byte.
    rw [piecesFrom, hpiece]
    simp only [Piece.size, hone, Nat.max_self, Nat.sub_self, List.drop_zero, List.map_cons]
    rw [ih hrest]
    rfl

theorem decodeReplacing_ascii {bytes : Bytes} (h : IsAscii bytes) :
    decodeReplacing bytes = charsOf bytes := by
  rw [decodeReplacing, pieces, piecesFrom_ascii h, List.map_map]
  exact List.map_id _

/-- Where all pieces are characters, reading them fails nowhere. -/
theorem mapM_of_chars {f : Nat × Piece → Except Fault Char}
    (hf : ∀ position c, f (position, .char c) = .ok c) {pieces : List (Nat × Piece)}
    {chars : List Char} (h : pieces.map (·.2) = chars.map Piece.char) :
    pieces.mapM f = .ok chars := by
  induction pieces generalizing chars with
  | nil =>
    obtain rfl : chars = [] := by simpa using h.symm
    rfl
  | cons first rest ih =>
    obtain ⟨position, piece⟩ := first
    cases chars with
    | nil => simp at h
    | cons c more =>
      simp only [List.map_cons, List.cons.injEq] at h
      obtain ⟨rfl, hrest⟩ := h
      rw [List.mapM_cons, hf, ih hrest]
      rfl

theorem decode_ascii {bytes : Bytes} (h : IsAscii bytes) : decode bytes = .ok (charsOf bytes) :=
  mapM_of_chars (fun _ _ => rfl) (piecesFrom_ascii h 0)

theorem decode_eq_nil_iff {bytes : Bytes} : decode bytes = .ok [] ↔ bytes = [] := by
  constructor
  · intro h
    cases bytes with
    | nil => rfl
    | cons start rest =>
      unfold decode at h
      rw [piecesFrom] at h
      exact absurd rfl (ne_nil_of_mapM h)
  · rintro rfl
    exact decode_ascii isAscii_nil

end DenoBridge.Utf8
