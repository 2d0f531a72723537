import DenoBridge.Text.Utf8

/-! # Bytes as characters

    The shell works on bytes.  It keeps them in lists of characters each of
    which stands for one byte.  Main statement: turning bytes into characters
    and back changes nothing (`toBytes_ofBytes`).
-/

namespace DenoBridge.Shell

/-- The characters that stand for bytes. -/
def ofBytes (bytes : Bytes) : List Char :=
  bytes.map fun byte => Char.ofNat byte.toNat

/-- The bytes that characters stand for. -/
def toBytes (text : List Char) : Bytes :=
  text.map fun c => UInt8.ofNat c.toNat

/-- The bytes of a string as characters. -/
def ofString (text : String) : List Char :=
  ofBytes (Utf8.encodeString text)

/-- The string whose bytes the characters are. -/
def toName (text : List Char) : String :=
  String.ofList (Utf8.decodeReplacing (toBytes text))

/-- Does a text not come behind another one?  The first different byte decides,
    and a text comes before its continuations. -/
def isInOrder (text other : List Char) : Bool :=
  !List.lex other text fun c d => decide (c.toNat < d.toNat)

theorem toNat_ofNat_byte (byte : UInt8) : (Char.ofNat byte.toNat).toNat = byte.toNat := by
  have hlt : byte.toNat < 256 := byte.toNat_lt
  have hvalid : byte.toNat.isValidChar := Or.inl (by omega)
  delta Char.ofNat
  rw [dif_pos hvalid]
  rfl

theorem toBytes_ofBytes (bytes : Bytes) : toBytes (ofBytes bytes) = bytes := by
  simp [toBytes, ofBytes, Function.comp_def, toNat_ofNat_byte]

end DenoBridge.Shell
