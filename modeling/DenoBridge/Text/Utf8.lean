/-! # UTF-8

    Encoding writes each character as one to four bytes.  Decoding reads the
    bytes as a sequence of characters and of ill-formed stretches; what to do
    with a stretch is the caller's choice: refuse the whole, put a
    replacement character in its place, or leave it out.

    An ill-formed stretch is the longest start of a character's encoding that
    does not go on as it should, or a single byte that starts no encoding.
-/

namespace DenoBridge

/-- A sequence of bytes. -/
abbrev Bytes := List UInt8

namespace Utf8

/-! ## Section 1: Encoding -/

/-- The bytes of a text. -/
def encode (text : List Char) : Bytes :=
  text.flatMap String.utf8EncodeChar

/-- The bytes of a string. -/
def encodeString (text : String) : Bytes :=
  encode text.toList

/-! ## Section 2: Decoding -/

/-- Why a stretch of bytes is no character. -/
inductive Reason where
  | invalidStart
  | invalidContinuation
  | unexpectedEnd
  deriving Repr, DecidableEq

/-- The wording of a reason. -/
def Reason.message : Reason → String
  | .invalidStart => "invalid start byte"
  | .invalidContinuation => "invalid continuation byte"
  | .unexpectedEnd => "unexpected end of data"

/-- One piece of decoded bytes: a character, or a stretch of `length` bytes
    that is none. -/
inductive Piece where
  | char (c : Char)
  | bad (reason : Reason) (length : Nat)
  deriving Repr, DecidableEq

/-- The six payload bits of a continuation byte. -/
def low6 (byte : UInt8) : Nat :=
  byte.toNat % 64

/-- Is this a continuation byte? -/
def isTail (byte : UInt8) : Bool :=
  0x80 ≤ byte && byte ≤ 0xBF

/-- The second bytes that may follow a start byte. -/
def secondOk (start second : UInt8) : Bool :=
  if start = 0xE0 then 0xA0 ≤ second && second ≤ 0xBF
  else if start = 0xED then 0x80 ≤ second && second ≤ 0x9F
  else if start = 0xF0 then 0x90 ≤ second && second ≤ 0xBF
  else if start = 0xF4 then 0x80 ≤ second && second ≤ 0x8F
  else isTail second

/-- How many bytes a start byte announces, itself included; 0 when it starts
    nothing. -/
def announced (start : UInt8) : Nat :=
  if start < 0x80 then 1
  else if start < 0xC2 then 0
  else if start < 0xE0 then 2
  else if start < 0xF0 then 3
  else if start < 0xF5 then 4
  else 0

/-- The first piece of a byte sequence that starts with `start`. -/
def firstPiece (start : UInt8) (rest : Bytes) : Piece :=
  match announced start with
  | 0 => .bad .invalidStart 1
  | 1 => .char (Char.ofNat start.toNat)
  | size =>
    match rest with
    | [] => .bad .unexpectedEnd 1
    | second :: rest =>
      if !secondOk start second then .bad .invalidContinuation 1
      else if size = 2 then .char (Char.ofNat (start.toNat % 32 * 64 + low6 second))
      else
        match rest with
        | [] => .bad .unexpectedEnd 2
        | third :: rest =>
          if !isTail third then .bad .invalidContinuation 2
          else if size = 3 then
            .char (Char.ofNat ((start.toNat % 16 * 64 + low6 second) * 64 + low6 third))
          else
            match rest with
            | [] => .bad .unexpectedEnd 3
            | fourth :: _ =>
              if !isTail fourth then .bad .invalidContinuation 3
              else
                .char (Char.ofNat
                  (((start.toNat % 8 * 64 + low6 second) * 64 + low6 third) * 64 + low6 fourth))

/-- The number of bytes a piece takes up. -/
def Piece.size (start : UInt8) : Piece → Nat
  | .char _ => max 1 (announced start)
  | .bad _ length => max 1 length

/-- The pieces of a byte sequence, each with the position it starts at. -/
def piecesFrom (position : Nat) : Bytes → List (Nat × Piece)
  | [] => []
  | start :: rest =>
    let piece := firstPiece start rest
    let size := piece.size start
    (position, piece) :: piecesFrom (position + size) (rest.drop (size - 1))
termination_by bytes => bytes.length
decreasing_by
  simp only [List.length_drop, List.length_cons]
  omega

/-- The pieces of a byte sequence. -/
def pieces (bytes : Bytes) : List Piece :=
  (piecesFrom 0 bytes).map (·.2)

/-! ## Section 3: What becomes of ill-formed stretches -/

/-- The first ill-formed stretch of a byte sequence: its position, its bytes
    and what is wrong with it. -/
structure Fault where
  position : Nat
  bytes : Bytes
  reason : Reason
  deriving Repr, DecidableEq

/-- A byte in two lower-case hexadecimal digits. -/
def hexByte (byte : UInt8) : String :=
  String.ofList [Nat.digitChar (byte.toNat / 16), Nat.digitChar (byte.toNat % 16)]

/-- The wording of a decoding fault. -/
def Fault.message (fault : Fault) : String :=
  match fault.bytes with
  | [byte] =>
    s!"'utf-8' codec can't decode byte 0x{hexByte byte} in position {fault.position}: " ++
      fault.reason.message
  | bytes =>
    s!"'utf-8' codec can't decode bytes in position {fault.position}-" ++
      s!"{fault.position + bytes.length - 1}: " ++ fault.reason.message

/-- The text of a byte sequence that holds nothing ill-formed. -/
def decode (bytes : Bytes) : Except Fault (List Char) :=
  (piecesFrom 0 bytes).mapM fun (position, piece) =>
    match piece with
    | .char c => .ok c
    | .bad reason length => .error ⟨position, (bytes.drop position).take length, reason⟩

/-- The text of a byte sequence, if it holds nothing ill-formed. -/
def decode? (bytes : Bytes) : Option (List Char) :=
  (decode bytes).toOption

/-- The text with a replacement character for each ill-formed stretch. -/
def decodeReplacing (bytes : Bytes) : List Char :=
  (pieces bytes).map fun
    | .char c => c
    | .bad _ _ => '\ufffd'

/-- The text without the ill-formed stretches. -/
def decodeIgnoring (bytes : Bytes) : List Char :=
  (pieces bytes).filterMap fun
    | .char c => some c
    | .bad _ _ => none

end Utf8

end DenoBridge
