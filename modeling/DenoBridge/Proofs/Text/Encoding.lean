import Mathlib.Tactic.SplitIfs
import DenoBridge.Proofs.Text.Utf8

/-! # Text that was encoded

    A character is encoded as one to four bytes, by the size of its code.  The
    first of them announces how many there are, and the decoder puts the same
    code together again (`firstPiece_encodeChar`).  So the bytes of a text are
    decoded to that text, whatever characters it has (`decode_encode`).
-/

namespace DenoBridge.Utf8

variable {start second third fourth byte : UInt8} {code : Nat}

/-! ## Section 1: Bytes and their numbers -/

theorem announced_eq (byte : UInt8) : announced byte =
    if byte.toNat < 0x80 then 1 else if byte.toNat < 0xC2 then 0 else if byte.toNat < 0xE0 then 2
    else if byte.toNat < 0xF0 then 3 else if byte.toNat < 0xF5 then 4 else 0 := by
  simp only [announced, UInt8.lt_iff_toNat_lt]
  rfl

theorem isTail_iff : isTail byte = true ↔ 0x80 ≤ byte.toNat ∧ byte.toNat ≤ 0xBF := by
  simp only [isTail, Bool.and_eq_true, decide_eq_true_iff, UInt8.le_iff_toNat_le]
  rfl

/-- A second byte is one that continues, within the bounds that four of the
    first bytes set. -/
theorem secondOk_of_isTail (hsecond : isTail second = true)
    (hE0 : start.toNat = 0xE0 → 0xA0 ≤ second.toNat)
    (hED : start.toNat = 0xED → second.toNat ≤ 0x9F)
    (hF0 : start.toNat = 0xF0 → 0x90 ≤ second.toNat)
    (hF4 : start.toNat = 0xF4 → second.toNat ≤ 0x8F) : secondOk start second = true := by
  have hbounds := isTail_iff.1 hsecond
  unfold secondOk
  simp only [← UInt8.toNat_inj]
  split_ifs with h h h h
  · have hlow := hE0 h
    simp [UInt8.le_iff_toNat_le]
    omega
  · have hhigh := hED h
    simp [UInt8.le_iff_toNat_le]
    omega
  · have hlow := hF0 h
    simp [UInt8.le_iff_toNat_le]
    omega
  · have hhigh := hF4 h
    simp [UInt8.le_iff_toNat_le]
    omega
  · exact hsecond

theorem toNat_ofNat (h : code < 256) : (UInt8.ofNat code).toNat = code := by
  rw [UInt8.toNat_ofNat']
  exact Nat.mod_eq_of_lt h

theorem isTail_ofNat (code : Nat) : isTail (UInt8.ofNat (code % 64 + 128)) = true := by
  rw [isTail_iff, toNat_ofNat (by omega)]
  omega

theorem low6_ofNat (code : Nat) : low6 (UInt8.ofNat (code % 64 + 128)) = code % 64 := by
  rw [low6, toNat_ofNat (by omega)]
  omega

/-! ## Section 2: The first piece -/

theorem firstPiece_of_two (hstart : announced start = 2) (hsecond : secondOk start second = true)
    (rest : Bytes) : firstPiece start (second :: rest) =
      .char (Char.ofNat (start.toNat % 32 * 64 + low6 second)) := by
  unfold firstPiece
  rw [hstart]
  simp [hsecond]

theorem firstPiece_of_three (hstart : announced start = 3) (hsecond : secondOk start second = true)
    (hthird : isTail third = true) (rest : Bytes) : firstPiece start (second :: third :: rest) =
      .char (Char.ofNat ((start.toNat % 16 * 64 + low6 second) * 64 + low6 third)) := by
  unfold firstPiece
  rw [hstart]
  simp [hsecond, hthird]

theorem firstPiece_of_four (hstart : announced start = 4) (hsecond : secondOk start second = true)
    (hthird : isTail third = true) (hfourth : isTail fourth = true) (rest : Bytes) :
    firstPiece start (second :: third :: fourth :: rest) = .char (Char.ofNat
      (((start.toNat % 8 * 64 + low6 second) * 64 + low6 third) * 64 + low6 fourth)) := by
  unfold firstPiece
  rw [hstart]
  simp [hsecond, hthird, hfourth]

/-- Bytes that announce how many they are and are read as the character. -/
def IsRead (bytes : Bytes) (c : Char) : Prop :=
  ∃ start tail, bytes = start :: tail ∧ announced start = tail.length + 1 ∧
    ∀ rest, firstPiece start (tail ++ rest) = .char c

theorem isRead_one (h : code ≤ 0x7F) : IsRead [UInt8.ofNat code] (Char.ofNat code) := by
  have hnumber : (UInt8.ofNat code).toNat = code := toNat_ofNat (by omega)
  have hstart : announced (UInt8.ofNat code) = 1 := by
    rw [announced_eq, hnumber, if_pos (by omega)]
  refine ⟨_, _, rfl, hstart, fun rest => ?_⟩
  unfold firstPiece
  rw [hstart]
  show Piece.char (Char.ofNat (UInt8.ofNat code).toNat) = _
  rw [hnumber]

theorem isRead_two (hlow : 0x7F < code) (hhigh : code ≤ 0x7FF) :
    IsRead [UInt8.ofNat (code / 64 % 32 + 192), UInt8.ofNat (code % 64 + 128)]
      (Char.ofNat code) := by
  have hnumber : (UInt8.ofNat (code / 64 % 32 + 192)).toNat = code / 64 % 32 + 192 :=
    toNat_ofNat (by omega)
  have hstart : announced (UInt8.ofNat (code / 64 % 32 + 192)) = 2 := by
    rw [announced_eq, hnumber]
    split_ifs <;> omega
  refine ⟨_, _, rfl, hstart, fun rest => ?_⟩
  have hsecond : secondOk (UInt8.ofNat (code / 64 % 32 + 192)) (UInt8.ofNat (code % 64 + 128)) =
      true := by
    apply secondOk_of_isTail (isTail_ofNat code) <;> (rw [hnumber]; intro habsurd; omega)
  have hcode : (code / 64 % 32 + 192) % 32 * 64 + code % 64 = code := by omega
  rw [List.cons_append, firstPiece_of_two hstart hsecond, hnumber, low6_ofNat, hcode]

/-- Codes of surrogates are left out: their second byte would be too high. -/
theorem isRead_three (hlow : 0x7FF < code) (hhigh : code ≤ 0xFFFF)
    (hplain : code < 0xD800 ∨ 0xDFFF < code) :
    IsRead [UInt8.ofNat (code / 4096 % 16 + 224), UInt8.ofNat (code / 64 % 64 + 128),
      UInt8.ofNat (code % 64 + 128)] (Char.ofNat code) := by
  have hnumber : (UInt8.ofNat (code / 4096 % 16 + 224)).toNat = code / 4096 % 16 + 224 :=
    toNat_ofNat (by omega)
  have hstart : announced (UInt8.ofNat (code / 4096 % 16 + 224)) = 3 := by
    rw [announced_eq, hnumber]
    split_ifs <;> omega
  refine ⟨_, _, rfl, hstart, fun rest => ?_⟩
  have hsecond : secondOk (UInt8.ofNat (code / 4096 % 16 + 224))
      (UInt8.ofNat (code / 64 % 64 + 128)) = true := by
    apply secondOk_of_isTail (isTail_ofNat (code / 64)) <;>
      (rw [hnumber, toNat_ofNat (by omega)]; intro hfirst; omega)
  have hcode : ((code / 4096 % 16 + 224) % 16 * 64 + code / 64 % 64) * 64 + code % 64 = code := by
    omega
  rw [List.cons_append, List.cons_append, firstPiece_of_three hstart hsecond (isTail_ofNat code),
    hnumber, low6_ofNat, low6_ofNat, hcode]

theorem isRead_four (hlow : 0xFFFF < code) (hhigh : code < 0x110000) :
    IsRead [UInt8.ofNat (code / 262144 % 8 + 240), UInt8.ofNat (code / 4096 % 64 + 128),
      UInt8.ofNat (code / 64 % 64 + 128), UInt8.ofNat (code % 64 + 128)] (Char.ofNat code) := by
  have hnumber : (UInt8.ofNat (code / 262144 % 8 + 240)).toNat = code / 262144 % 8 + 240 :=
    toNat_ofNat (by omega)
  have hstart : announced (UInt8.ofNat (code / 262144 % 8 + 240)) = 4 := by
    rw [announced_eq, hnumber]
    split_ifs <;> omega
  refine ⟨_, _, rfl, hstart, fun rest => ?_⟩
  have hsecond : secondOk (UInt8.ofNat (code / 262144 % 8 + 240))
      (UInt8.ofNat (code / 4096 % 64 + 128)) = true := by
    apply secondOk_of_isTail (isTail_ofNat (code / 4096)) <;>
      (rw [hnumber, toNat_ofNat (by omega)]; intro hfirst; omega)
  have hcode : (((code / 262144 % 8 + 240) % 8 * 64 + code / 4096 % 64) * 64 + code / 64 % 64) * 64 +
      code % 64 = code := by omega
  rw [List.cons_append, List.cons_append, List.cons_append,
    firstPiece_of_four hstart hsecond (isTail_ofNat (code / 64)) (isTail_ofNat code), hnumber,
    low6_ofNat, low6_ofNat, low6_ofNat, hcode]

theorem firstPiece_encodeChar (c : Char) : IsRead (String.utf8EncodeChar c) c := by
  have hplain : c.val.toNat < 0xD800 ∨ 0xDFFF < c.val.toNat ∧ c.val.toNat < 0x110000 := c.valid
  have hchar : Char.ofNat c.val.toNat = c := Char.ofNat_toNat c
  fun_cases String.utf8EncodeChar c with
  | case1 v hone =>
    have hread : IsRead _ (Char.ofNat c.val.toNat) := isRead_one hone
    rwa [hchar] at hread
  | case2 v hone htwo =>
    have hread : IsRead _ (Char.ofNat c.val.toNat) := isRead_two (Nat.lt_of_not_le hone) htwo
    rwa [hchar] at hread
  | case3 v hone htwo hthree =>
    have hread : IsRead _ (Char.ofNat c.val.toNat) :=
      isRead_three (Nat.lt_of_not_le htwo) hthree (hplain.imp id And.left)
    rwa [hchar] at hread
  | case4 v hone htwo hthree =>
    have hlast : v < 0x110000 := by
      rcases hplain with hbelow | ⟨-, habove⟩
      · exact Nat.lt_trans hbelow (by decide)
      · exact habove
    have hread : IsRead _ (Char.ofNat c.val.toNat) := isRead_four (Nat.lt_of_not_le hthree) hlast
    rwa [hchar] at hread

/-! ## Section 3: Texts -/

theorem piecesFrom_encode (text : List Char) (position : Nat) :
    (piecesFrom position (encode text)).map (·.2) = text.map Piece.char := by
  induction text generalizing position with
  | nil =>
    show (piecesFrom position []).map (·.2) = []
    rw [piecesFrom]
    rfl
  | cons c rest ih =>
    obtain ⟨start, tail, hencoded, hannounced, hread⟩ := firstPiece_encodeChar c
    have hbytes : encode (c :: rest) = start :: (tail ++ encode rest) := by
      rw [encode, List.flatMap_cons, hencoded]
      rfl
    have hsize : (Piece.char c).size start = tail.length + 1 := by
      rw [Piece.size, hannounced]
      omega
    -- The piece takes up all bytes of the character, so the next one starts with the rest.
    rw [hbytes, piecesFrom, hread, hsize, Nat.add_sub_cancel, List.drop_left, List.map_cons,
      List.map_cons, ih]

/-- Every text is read back from its bytes. -/
theorem decode_encode (text : List Char) : decode (encode text) = .ok text :=
  mapM_of_chars (fun _ _ => rfl) (piecesFrom_encode text 0)

end DenoBridge.Utf8
