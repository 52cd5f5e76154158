import ShaderCompose.Text.Quoted

/-!
# Text as bytes

Strict UTF-8: the shortest form of every code point, no surrogates, nothing above the last code
point.  A byte order mark at the very start of a file is no part of its text.
-/

set_option autoImplicit false

namespace ShaderCompose.Text.Utf8

/-- What is wrong with a sequence of bytes. -/
inductive Flaw where
  | startByte
  | continuationByte
  | endOfData
deriving DecidableEq, Repr

/-- The bytes at which reading stopped: how many from which position on, and the first of them. -/
structure Invalid where
  flaw : Flaw
  position : Nat
  count : Nat
  byte : UInt8
deriving DecidableEq, Repr

/-- Bytes that go on a sequence. -/
def isContinuation (byte : UInt8) : Bool := 0x80 ≤ byte && byte < 0xc0

/-- The second byte of a sequence of three or four is narrowed by the first, which keeps out
longer forms, surrogates and values above the last code point. -/
def followsStart (start second : UInt8) : Bool :=
  isContinuation second &&
    (if start = 0xe0 then 0xa0 ≤ second
     else if start = 0xed then second < 0xa0
     else if start = 0xf0 then 0x90 ≤ second
     else if start = 0xf4 then second < 0x90
     else true)

/-- The payload of a continuation byte. -/
def payload (byte : UInt8) : Nat := byte.toNat % 64

/-- The text of bytes that start at a position, or the first flaw. -/
def decodeAt (position : Nat) : List UInt8 → Except Invalid Text
  | [] => .ok []
  | a :: rest =>
    if a < 0x80 then
      (decodeAt (position + 1) rest).map (Char.ofNat a.toNat :: ·)
    else if a < 0xc2 then
      .error ⟨.startByte, position, 1, a⟩
    else if a < 0xe0 then
      match rest with
      | [] => .error ⟨.endOfData, position, 1, a⟩
      | b :: rest =>
        if isContinuation b then
          (decodeAt (position + 2) rest).map (Char.ofNat (a.toNat % 32 * 64 + payload b) :: ·)
        else .error ⟨.continuationByte, position, 1, a⟩
    else if a < 0xf0 then
      match rest with
      | [] => .error ⟨.endOfData, position, 1, a⟩
      | b :: rest =>
        if followsStart a b then
          match rest with
          | [] => .error ⟨.endOfData, position, 2, a⟩
          | c :: rest =>
            if isContinuation c then
              (decodeAt (position + 3) rest).map
                (Char.ofNat ((a.toNat % 16 * 64 + payload b) * 64 + payload c) :: ·)
            else .error ⟨.continuationByte, position, 2, a⟩
        else .error ⟨.continuationByte, position, 1, a⟩
    else if a < 0xf5 then
      match rest with
      | [] => .error ⟨.endOfData, position, 1, a⟩
      | b :: rest =>
        if followsStart a b then
          match rest with
          | [] => .error ⟨.endOfData, position, 2, a⟩
          | c :: rest =>
            if isContinuation c then
              match rest with
              | [] => .error ⟨.endOfData, position, 3, a⟩
              | d :: rest =>
                if isContinuation d then
                  (decodeAt (position + 4) rest).map
                    (Char.ofNat (((a.toNat % 8 * 64 + payload b) * 64 + payload c) * 64 +
                      payload d) :: ·)
                else .error ⟨.continuationByte, position, 3, a⟩
            else .error ⟨.continuationByte, position, 2, a⟩
        else .error ⟨.continuationByte, position, 1, a⟩
    else
      .error ⟨.startByte, position, 1, a⟩

/-- The text of bytes. -/
def decode (data : List UInt8) : Except Invalid Text := decodeAt 0 data

/-- The bytes of a text. -/
def encode (t : Text) : List UInt8 := t.flatMap String.utf8EncodeChar

/-- The byte order mark. -/
def mark : List UInt8 := [0xef, 0xbb, 0xbf]

/-- Bytes without a byte order mark at their start. -/
def dropMark : List UInt8 → List UInt8
  | 0xef :: 0xbb :: 0xbf :: rest => rest
  | data => data

/-- The description of a flaw. -/
def Flaw.message : Flaw → Text
  | .startByte => "invalid start byte".toList
  | .continuationByte => "invalid continuation byte".toList
  | .endOfData => "unexpected end of data".toList

/-- The description of invalid bytes. -/
def Invalid.message (e : Invalid) : Text :=
  "'utf-8' codec can't decode byte".toList ++
    (if e.count = 1 then
      " 0x".toList ++ hex 2 e.byte.toNat ++ " in position ".toList ++ ofNat e.position
    else
      "s in position ".toList ++ ofNat e.position ++ '-' :: ofNat (e.position + e.count - 1)) ++
    ": ".toList ++ e.flaw.message

end ShaderCompose.Text.Utf8
