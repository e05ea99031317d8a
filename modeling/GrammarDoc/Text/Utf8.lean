/-!
# UTF-8

Decoding follows the well-formed byte sequences of the Unicode standard
(Table 3-7): one byte below 0x80; a lead byte 0xC2 to 0xDF and one continuation
byte; 0xE0 to 0xEF and two, where the second byte after 0xE0 is at least 0xA0
and after 0xED at most 0x9F; 0xF0 to 0xF4 and three, where the second byte after
0xF0 is at least 0x90 and after 0xF4 at most 0x8F. A continuation byte lies in
0x80 to 0xBF. A failed decoding reports how many bytes before the first
ill-formed sequence were valid.
-/

namespace GrammarDoc

namespace Text

namespace Utf8

/-- Whether the byte continues a multi-byte sequence. -/
def isContinuation (b : UInt8) : Bool := 0x80 ≤ b && b ≤ 0xBF

/-- The six payload bits of a continuation byte. -/
def payload (b : UInt8) : Nat := b.toNat % 64

/-- The range the second byte of a sequence must lie in, given the lead byte. -/
def secondRange (lead : UInt8) : UInt8 × UInt8 :=
  if lead = 0xE0 then (0xA0, 0xBF)
  else if lead = 0xED then (0x80, 0x9F)
  else if lead = 0xF0 then (0x90, 0xBF)
  else if lead = 0xF4 then (0x80, 0x8F)
  else (0x80, 0xBF)

/-- Whether `b` may follow the lead byte as the second byte. -/
def fitsSecond (lead b : UInt8) : Bool := (secondRange lead).1 ≤ b && b ≤ (secondRange lead).2

/-- The characters of the bytes, or the number of valid bytes before the first
ill-formed sequence; `offset` is the number of bytes already decoded. -/
def decodeFrom (offset : Nat) : List UInt8 → Except Nat (List Char)
  | [] => .ok []
  | b0 :: rest =>
    if b0 < 0x80 then
      (Char.ofNat b0.toNat :: ·) <$> decodeFrom (offset + 1) rest
    else
      match rest with
      | [] => .error offset
      | b1 :: rest1 =>
        if 0xC2 ≤ b0 && b0 ≤ 0xDF then
          if isContinuation b1 then
            (Char.ofNat ((b0.toNat % 32) * 64 + payload b1) :: ·) <$> decodeFrom (offset + 2) rest1
          else .error offset
        else if 0xE0 ≤ b0 && b0 ≤ 0xF4 && fitsSecond b0 b1 then
          match rest1 with
          | [] => .error offset
          | b2 :: rest2 =>
            if !isContinuation b2 then .error offset
            else if b0 ≤ 0xEF then
              (Char.ofNat ((b0.toNat % 16) * 4096 + payload b1 * 64 + payload b2) :: ·) <$>
                decodeFrom (offset + 3) rest2
            else
              match rest2 with
              | [] => .error offset
              | b3 :: rest3 =>
                if isContinuation b3 then
                  (Char.ofNat ((b0.toNat % 8) * 262144 + payload b1 * 4096 + payload b2 * 64 +
                    payload b3) :: ·) <$> decodeFrom (offset + 4) rest3
                else .error offset
        else .error offset

/-- The characters of the bytes, or the number of valid bytes before the first
ill-formed sequence. -/
def decode (bytes : List UInt8) : Except Nat (List Char) := decodeFrom 0 bytes

/-- The UTF-8 bytes of a code point that is a Unicode scalar value. -/
def encode (n : Nat) : List UInt8 := String.utf8EncodeChar (Char.ofNat n)

end Utf8

end Text

end GrammarDoc
